import Scaffold.Proofs.Expansion.Branching
import Scaffold.Proofs.Template.Branching.Append

/-!
# Expanding templates one behind the other

A name that one template misses is filled in for a template before or behind it too, where a default
text no longer steps in. Main facts:

* `text_ofPieces_append` : filling in more names takes away default texts and nothing else;
* `expandText_append` : two templates are expanded together to what they are expanded to one by one
  exactly if neither of them takes away a default text of the other one;
* `expandText_append_loses` : a default text that is lost.
-/

namespace Scaffold.Expansion

open Template

/-! ## Texts -/

/-- Texts that have only become shorter are the same in a row if each of them is. -/
theorem append_eq_append_iff_of_length_le {a b c d : String} (hab : a.length ≤ b.length)
    (hcd : c.length ≤ d.length) : a ++ c = b ++ d ↔ a = b ∧ c = d := by
  constructor
  · intro h
    have hlength : a.length + c.length = b.length + d.length := by
      rw [← String.length_append, ← String.length_append, h]
    have hlists : a.toList ++ c.toList = b.toList ++ d.toList := by
      rw [← String.toList_append, ← String.toList_append, h]
    have ha : a.toList.length = b.toList.length := by
      rw [String.length_toList, String.length_toList]
      omega
    obtain ⟨hleft, hright⟩ := List.append_inj hlists ha
    exact ⟨String.toList_inj.1 hleft, String.toList_inj.1 hright⟩
  · rintro ⟨rfl, rfl⟩
    rfl

/-- No default text of some pieces is lost if more names are filled in. -/
def KeepsDefaults (filled others : List String) (ps : List Piece) : Prop :=
  ∀ x value, .supplied x value ∈ ps → value ≠ "" → x ∈ others → x ∈ filled

/-- Of a single piece it is the default text that goes. -/
theorem text_evaluation_append (filled others : List String) (p : Piece) :
    (p.evaluation (filled ++ others)).text.length ≤ (p.evaluation filled).text.length ∧
      ((p.evaluation (filled ++ others)).text = (p.evaluation filled).text ↔
        KeepsDefaults filled others [p]) := by
  -- only a default text can be lost
  have hother : (∀ x value, p ≠ .supplied x value) → KeepsDefaults filled others [p] := by
    intro hne x value hmem
    exact absurd (List.mem_singleton.1 hmem).symm (hne x value)
  cases p with
  | shown s =>
    have hkeeps := hother fun x value h => by cases h
    exact ⟨Nat.le_refl _, fun _ => hkeeps, fun _ => rfl⟩
  | missed x =>
    have hkeeps := hother fun x value h => by cases h
    exact ⟨Nat.le_refl _, fun _ => hkeeps, fun _ => rfl⟩
  | supplied x value =>
    have hkeeps : KeepsDefaults filled others [.supplied x value] ↔
        (value ≠ "" → x ∈ others → x ∈ filled) := by
      constructor
      · intro h
        exact h x value (List.mem_singleton_self _)
      · intro h y other hmem
        obtain ⟨rfl, rfl⟩ := Piece.supplied.inj (List.mem_singleton.1 hmem)
        exact h
    rw [hkeeps]
    dsimp only [Piece.evaluation]
    by_cases hfilled : x ∈ filled
    · rw [if_pos hfilled, if_pos (List.mem_append_left _ hfilled)]
      exact ⟨Nat.le_refl _, fun _ _ _ => hfilled, fun _ => rfl⟩
    · rw [if_neg hfilled]
      by_cases hothers : x ∈ others
      · rw [if_pos (List.mem_append_right _ hothers)]
        refine ⟨Nat.zero_le _, ?_, ?_⟩
        · intro hempty hvalue
          exact absurd hempty.symm hvalue
        · intro h
          by_contra hvalue
          exact hfilled (h (Ne.symm hvalue) hothers)
      · rw [if_neg (by simp [hfilled, hothers])]
        exact ⟨Nat.le_refl _, fun _ _ h => absurd h hothers, fun _ => rfl⟩

/-- **Filling in more names** takes away default texts, and nothing else. -/
theorem text_ofPieces_append (filled others : List String) (ps : List Piece) :
    (Evaluation.ofPieces (filled ++ others) ps).text.length ≤
        (Evaluation.ofPieces filled ps).text.length ∧
      ((Evaluation.ofPieces (filled ++ others) ps).text = (Evaluation.ofPieces filled ps).text ↔
        KeepsDefaults filled others ps) := by
  induction ps with
  | nil =>
    constructor
    · exact Nat.le_refl _
    · exact ⟨fun _ x value h => absurd h List.not_mem_nil, fun _ => rfl⟩
  | cons p ps ih =>
    obtain ⟨hle, hiff⟩ := text_evaluation_append filled others p
    obtain ⟨hles, hiffs⟩ := ih
    have hcons : KeepsDefaults filled others (p :: ps) ↔
        KeepsDefaults filled others [p] ∧ KeepsDefaults filled others ps := by
      constructor
      · intro h
        constructor
        · intro x value hmem
          rw [List.mem_singleton] at hmem
          exact h x value (hmem ▸ List.mem_cons_self)
        · intro x value hmem
          exact h x value (List.mem_cons_of_mem _ hmem)
      · rintro ⟨hfirst, hrest⟩ x value hmem
        rcases List.mem_cons.1 hmem with h | h
        · exact hfirst x value (h ▸ List.mem_singleton_self _)
        · exact hrest x value h
    rw [Evaluation.ofPieces_cons, Evaluation.ofPieces_cons, Evaluation.andThen, Evaluation.andThen]
    dsimp only
    rw [String.length_append, String.length_append, append_eq_append_iff_of_length_le hle hles,
      hiff, hiffs, hcons]
    constructor
    · omega
    · exact Iff.rfl

/-! ## Templates -/

section Append

variable {head body : Branching} {data : Fields} {name : String}

/-- **Two templates are expanded together** to what they are expanded to one by one, exactly if no
default text of one of them stands for a name that only the other one misses. -/
theorem expandText_append (hhead : head.Readable []) (hbody : body.Readable [])
    (hend : head.source.toList.getLast? ≠ some '{') (hheadOrder : head.OrderFree)
    (hbodyOrder : body.OrderFree)
    (hcount : ((head.names ++ body.names).filter fun x => (data.get? x).isNone).dedup.length ≤ 64)
    (hname : ¬ marker <:+: name.toList) (registry : Registry) (around : Surroundings) :
    ∃ ps qs h b out,
      head.pieces data = some ps ∧ body.pieces data = some qs ∧
      expandText registry around name head.source data = .ok h ∧
      expandText registry around name body.source data = .ok b ∧
      expandText registry around name (head.source ++ body.source) data = .ok out ∧
      (out = h ++ b ↔
        KeepsDefaults (missingOf ps) (missingOf qs) ps ∧
          KeepsDefaults (missingOf qs) (missingOf ps) qs) := by
  obtain ⟨ps, hps⟩ := Branching.exists_pieces hheadOrder data
  obtain ⟨qs, hqs⟩ := Branching.exists_pieces hbodyOrder data
  obtain ⟨rs, hrs, hsame⟩ := Branching.pieces_append hps hqs
  have hmissing : missingOf rs = missingOf ps ++ missingOf qs := by
    rw [← missing_ofPieces [] rs, hsame [], missing_ofPieces, missingOf_append]
  have hboth : (body.append head).Readable [] := Branching.Readable.append hbody hhead hend
  -- no more names are missed in any of the three renders
  have hfew : ∀ xs : List String, (∀ x ∈ xs, x ∈ missingOf rs) → xs.dedup.length ≤ 64 := by
    intro xs hxs
    refine Nat.le_trans (List.Subperm.length_le (xs.nodup_dedup.subperm ?_)) hcount
    intro x hx
    rw [List.mem_dedup] at hx
    obtain ⟨hmem, hnone⟩ := Branching.of_mem_missingOf hrs (hxs x hx)
    rw [Branching.names_append] at hmem
    rw [List.mem_dedup, List.mem_filter, hnone]
    exact ⟨hmem, rfl⟩
  have hh := expandText_of_pieces hhead hps (hfew _ fun x hx => by simp [hmissing, hx])
    hname registry around
  have hb := expandText_of_pieces hbody hqs (hfew _ fun x hx => by simp [hmissing, hx])
    hname registry around
  have hout := expandText_of_pieces hboth hrs (hfew _ fun x hx => hx) hname registry around
  rw [Branching.source_append] at hout
  refine ⟨ps, qs, _, _, _, hps, hqs, hh, hb, hout, ?_⟩
  have hswap : ∀ x, x ∈ missingOf ps ++ missingOf qs ↔ x ∈ missingOf qs ++ missingOf ps := by
    intro x
    simp only [List.mem_append]
    exact or_comm
  obtain ⟨hple, hpiff⟩ := text_ofPieces_append (missingOf ps) (missingOf qs) ps
  obtain ⟨hqle, hqiff⟩ := text_ofPieces_append (missingOf qs) (missingOf ps) qs
  rw [hsame, hmissing, Evaluation.ofPieces_append, Evaluation.andThen]
  dsimp only
  rw [Evaluation.ofPieces_congr hswap qs, append_eq_append_iff_of_length_le hple hqle, hpiff, hqiff]

end Append

/-- A heading with a default text for a name that it prints without one too. -/
def heading : Branching :=
  .print "// " "owner" (some "nobody")
    (.when ", " (.name false "year") (.print "" "year" none (.done ""))
      (.print "" "owner" none (.done "\n")))

/-- A text below it that prints the same name and one more. -/
def below : Branching := .print "" "owner" none (.print " " "team" (some "none") (.done "."))

/-- The data for both of them. -/
def thisYear : Fields := .ofList [("year", .text "2025")]

/-- Below the heading is no name that is not filled in for the heading anyway. -/
theorem expandText_append_heading :
    expandText .empty nowhere "t" heading.source thisYear = .ok "// , 2025\n" ∧
      expandText .empty nowhere "t" below.source thisYear = .ok " none." ∧
      expandText .empty nowhere "t" (heading.source ++ below.source) thisYear =
        .ok ("// , 2025\n" ++ " none.") := by
  have hname : ¬ marker <:+: "t".toList := by decide
  have hheading : heading.Readable [] := by decide +kernel
  have hbelow : below.Readable [] := by decide +kernel
  have hend : heading.source.toList.getLast? ≠ some '{' := by decide +kernel
  have hcount : ((heading.names ++ below.names).filter
      fun x => (thisYear.get? x).isNone).dedup.length ≤ 64 := by decide
  obtain ⟨ps, qs, h, b, out, hps, hqs, hh, hb, hout, hiff⟩ :=
    expandText_append hheading hbelow hend ⟨trivial, trivial, trivial⟩ trivial hcount hname .empty
      nowhere
  have hheadingPieces : heading.pieces thisYear = some [.shown "// ", .supplied "owner" "nobody",
      .shown ", ", .shown "", .shown "2025", .shown "", .shown "", .missed "owner",
      .shown "\n"] := by decide +kernel
  have hbelowPieces : below.pieces thisYear = some [.shown "", .missed "owner", .shown " ",
      .supplied "team" "none", .shown "."] := by decide +kernel
  obtain rfl := Option.some.inj (hps.symm.trans hheadingPieces)
  obtain rfl := Option.some.inj (hqs.symm.trans hbelowPieces)
  -- both miss the same name, and thus fill in nothing for each other
  have hkeeps : ∀ rs, KeepsDefaults ["owner"] ["owner"] rs := fun _ _ _ _ _ hmem => hmem
  have hsame : out = h ++ b := hiff.2 ⟨hkeeps _, hkeeps _⟩
  have hheadingText := expandText_of_pieces hheading hps (by decide) hname .empty nowhere
  have hbelowText := expandText_of_pieces hbelow hqs (by decide) hname .empty nowhere
  obtain rfl : h = "// , 2025\n" := Except.ok.inj (hh.symm.trans hheadingText)
  obtain rfl : b = " none." := Except.ok.inj (hb.symm.trans hbelowText)
  exact ⟨hh, hb, hsame ▸ hout⟩

/-! ## Default texts that are lost -/

/-- **A default text is lost** if a template behind it misses the name: it is filled in for both. -/
theorem expandText_append_loses :
    ∃ head body : Branching, head.Readable [] ∧ body.Readable [] ∧
      head.source = "\x7b\x7b x | default(value=\"d\") \x7d\x7d" ∧
      body.source = "\x7b\x7b x \x7d\x7d" ∧
      expandText .empty nowhere "t" head.source .empty = .ok "d" ∧
      expandText .empty nowhere "t" body.source .empty = .ok "" ∧
      expandText .empty nowhere "t" (head.source ++ body.source) .empty = .ok "" := by
  let head : Branching := .print "" "x" (some "d") (.done "")
  let body : Branching := .print "" "x" none (.done "")
  have hname : ¬ marker <:+: "t".toList := by decide
  have hhead : head.Readable [] := by decide +kernel
  have hbody : body.Readable [] := by decide +kernel
  have hboth : (body.append head).Readable [] := by decide +kernel
  have hsource : (body.append head).source = head.source ++ body.source :=
    Branching.source_append body head
  refine ⟨head, body, hhead, hbody, by decide +kernel, by decide +kernel, ?_, ?_, ?_⟩
  · exact expandText_of_pieces hhead rfl (by decide) hname .empty nowhere
  · exact expandText_of_pieces hbody rfl (by decide) hname .empty nowhere
  · rw [← hsource]
    exact expandText_of_pieces hboth rfl (by decide) hname .empty nowhere

end Scaffold.Expansion
