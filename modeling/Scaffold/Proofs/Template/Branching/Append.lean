import Scaffold.Proofs.Template.Branching.Basic

/-!
# Branching templates one after the other

`append` puts one branching template behind another one; texts that meet become one text. Main
facts:

* `source_append` : what is written is one behind the other;
* `Readable.append` : both together can be read unless the first one ends with a brace;
* `pieces_append` : a pass over both meets what passes over either do, texts that meet aside.
-/

namespace Scaffold.Template.Branching

/-- Puts a text in front of a template. -/
def prepend (s : String) : Branching → Branching
  | .done last => .done (s ++ last)
  | .print before x fallback rest => .print (s ++ before) x fallback rest
  | .cond before c yes no rest => .cond (s ++ before) c yes no rest
  | .when before c body rest => .when (s ++ before) c body rest

/-- Puts a template behind another one. -/
def append (tail : Branching) : Branching → Branching
  | .done last => tail.prepend last
  | .print before x fallback rest => .print before x fallback (append tail rest)
  | .cond before c yes no rest => .cond before c yes no (append tail rest)
  | .when before c body rest => .when before c body (append tail rest)

variable {tail head : Branching}

/-! ## How it is written -/

theorem source_prepend (s : String) (t : Branching) : (t.prepend s).source = s ++ t.source := by
  cases t <;> simp [prepend, source, String.append_assoc]

/-- **What is written** is one template behind the other. -/
theorem source_append (tail head : Branching) :
    (tail.append head).source = head.source ++ tail.source := by
  induction head with
  | done last => exact source_prepend last tail
  | print before x fallback rest ih => simp [append, source, ih, String.append_assoc]
  | cond before c yes no rest _ _ ih => simp [append, source, ih, String.append_assoc]
  | when before c body rest _ ih => simp [append, source, ih, String.append_assoc]

theorem names_prepend (s : String) (t : Branching) : (t.prepend s).names = t.names := by
  cases t <;> rfl

theorem names_append (tail head : Branching) :
    (tail.append head).names = head.names ++ tail.names := by
  induction head with
  | done last => exact names_prepend last tail
  | print before x fallback rest ih => simp [append, names, ih]
  | cond before c yes no rest _ _ ih => simp [append, names, ih]
  | when before c body rest _ ih => simp [append, names, ih]

/-! ## How it is read -/

/-- A text that ends without a brace can be put in front of a template. -/
theorem Readable.prepend {after : List Char} {t : Branching} (ht : t.Readable after) {s : String}
    (hs : IsText s []) (hend : s.toList.getLast? ≠ some '{') : (t.prepend s).Readable after := by
  have htext : ∀ {before : String} {cs : List Char}, IsText before cs →
      IsText (s ++ before) cs := by
    intro before cs hbefore
    rw [IsText, List.append_nil] at hs
    rw [IsText, String.toList_append, List.append_assoc]
    exact Tags.holdsTag_append hs hend hbefore
  cases t with
  | done last => exact htext ht
  | print before x fallback rest => exact ⟨htext ht.1, ht.2⟩
  | cond before c yes no rest => exact ⟨htext ht.1, ht.2⟩
  | when before c body rest => exact ⟨htext ht.1, ht.2⟩

/-- What is written at the end decides how it ends. -/
theorem getLast?_ne_of_append {s t : String} {c : Char} (h : (s ++ t).toList.getLast? ≠ some c) :
    t.toList.getLast? ≠ some c := by
  intro ht
  apply h
  rw [String.toList_append, List.getLast?_append, ht]
  rfl

/-- **Both templates together can be read**, if the first one does not end with a brace. -/
theorem Readable.append {after : List Char} (htail : tail.Readable after) (hhead : head.Readable [])
    (hend : head.source.toList.getLast? ≠ some '{') : (tail.append head).Readable after := by
  induction head with
  | done last => exact htail.prepend hhead hend
  | print before x fallback rest ih =>
    obtain ⟨hbefore, hx, hfallback, hrest⟩ := hhead
    exact ⟨hbefore, hx, hfallback, ih hrest (getLast?_ne_of_append hend)⟩
  | cond before c yes no rest _ _ ih =>
    obtain ⟨hbefore, hc, hyes, hno, hrest⟩ := hhead
    exact ⟨hbefore, hc, hyes, hno, ih hrest (getLast?_ne_of_append hend)⟩
  | when before c body rest _ ih =>
    obtain ⟨hbefore, hc, hbody, hrest⟩ := hhead
    exact ⟨hbefore, hc, hbody, ih hrest (getLast?_ne_of_append hend)⟩

/-! ## What a pass meets -/

variable {data : Fields} {ps qs : List Piece}

/-- Pieces that come to the same, whatever is filled in. -/
def SamePieces (ps qs : List Piece) : Prop :=
  ∀ filled, Evaluation.ofPieces filled ps = Evaluation.ofPieces filled qs

theorem SamePieces.cons {ps qs : List Piece} (h : SamePieces ps qs) (p : Piece) :
    SamePieces (p :: ps) (p :: qs) := by
  intro filled
  rw [Evaluation.ofPieces_cons, Evaluation.ofPieces_cons, h filled]

theorem SamePieces.append_left {ps qs : List Piece} (h : SamePieces ps qs) (rs : List Piece) :
    SamePieces (rs ++ ps) (rs ++ qs) := by
  induction rs with
  | nil => exact h
  | cons r rs ih => exact ih.cons r

/-- Two texts that meet come to one. -/
theorem samePieces_shown (s t : String) (ps : List Piece) :
    SamePieces (.shown (s ++ t) :: ps) (.shown s :: .shown t :: ps) := by
  intro filled
  simp [Evaluation.ofPieces_cons, Evaluation.andThen, Piece.evaluation, String.append_assoc]

/-- A text in front is met first. -/
theorem pieces_prepend (s : String) {t : Branching} (hps : t.pieces data = some ps) :
    ∃ rs, (t.prepend s).pieces data = some rs ∧ SamePieces rs (.shown s :: ps) := by
  cases t with
  | done last =>
    cases hps
    exact ⟨_, rfl, samePieces_shown s last []⟩
  | print before x fallback rest =>
    obtain ⟨others, hothers, h⟩ := Option.bind_eq_some_iff.1 hps
    cases h
    refine ⟨_, ?_, samePieces_shown s before _⟩
    rw [prepend, pieces, hothers]
    rfl
  | cond before c yes no rest =>
    obtain ⟨chosen, hchosen, h⟩ := Option.bind_eq_some_iff.1 hps
    obtain ⟨others, hothers, h⟩ := Option.bind_eq_some_iff.1 h
    cases h
    refine ⟨_, ?_, samePieces_shown s before _⟩
    rw [prepend, pieces, hchosen, hothers]
    rfl
  | when before c body rest =>
    obtain ⟨chosen, hchosen, h⟩ := Option.bind_eq_some_iff.1 hps
    obtain ⟨others, hothers, h⟩ := Option.bind_eq_some_iff.1 h
    cases h
    refine ⟨_, ?_, samePieces_shown s before _⟩
    rw [prepend, pieces, hchosen, hothers]
    rfl

/-- **A pass over both templates** meets what a pass over the first one does, and then what a pass
over the second one does. -/
theorem pieces_append (hps : head.pieces data = some ps) (hqs : tail.pieces data = some qs) :
    ∃ rs, (tail.append head).pieces data = some rs ∧ SamePieces rs (ps ++ qs) := by
  induction head generalizing ps with
  | done last =>
    cases hps
    exact pieces_prepend last hqs
  | print before x fallback rest ih =>
    obtain ⟨others, hothers, h⟩ := Option.bind_eq_some_iff.1 hps
    cases h
    obtain ⟨rs, hrs, hsame⟩ := ih hothers
    refine ⟨_, ?_, (hsame.cons (printedPiece data x fallback)).cons (.shown before)⟩
    rw [append, pieces, hrs]
    rfl
  | cond before c yes no rest _ _ ih =>
    obtain ⟨chosen, hchosen, h⟩ := Option.bind_eq_some_iff.1 hps
    obtain ⟨others, hothers, h⟩ := Option.bind_eq_some_iff.1 h
    cases h
    obtain ⟨rs, hrs, hsame⟩ := ih hothers
    rw [List.cons_append, List.append_assoc]
    refine ⟨_, ?_, (hsame.append_left chosen).cons (.shown before)⟩
    rw [append, pieces, hchosen, hrs]
    rfl
  | when before c body rest _ ih =>
    obtain ⟨chosen, hchosen, h⟩ := Option.bind_eq_some_iff.1 hps
    obtain ⟨others, hothers, h⟩ := Option.bind_eq_some_iff.1 h
    cases h
    obtain ⟨rs, hrs, hsame⟩ := ih hothers
    rw [List.cons_append, List.append_assoc]
    refine ⟨_, ?_, (hsame.append_left chosen).cons (.shown before)⟩
    rw [append, pieces, hchosen, hrs]
    rfl

end Scaffold.Template.Branching
