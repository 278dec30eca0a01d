import Scaffold.Proofs.Manifest.Definitions

/-!
# Tags on the values of definitions

A tag on a value does not change what the value stands for as a literal, but a text behind a tag is
no expression any more. The key notion is `Tagging`, which says that definitions are written with
further tags on their values. Main facts:

* `ofYaml_withTags` : a literal is the same with tags;
* `ofEntries_tagging_iff` : definitions stay the same exactly if no tag is put on a text;
* `ofYaml_tagging_iff` : the same for all that definitions may be written as, and what becomes of
  them if a tag is put on a text.
-/

namespace Scaffold

/-! ## Values behind tags -/

namespace Yaml.Value

/-- A value behind some tags, the first one outermost. -/
def withTags (tags : List String) (v : Value) : Value := tags.foldr .tagged v

end Yaml.Value

namespace Field

/-- **A literal is the same with tags.** -/
theorem ofYaml_withTags (tags : List String) (v : Yaml.Value) :
    ofYaml (v.withTags tags) = ofYaml v := by
  induction tags with
  | nil => rfl
  | cons tag tags ih => exact ih

end Field

namespace Definition

/-- Behind a tag, every value is a literal. -/
theorem bodyOf_withTags_cons (tag : String) (tags : List String) (v : Yaml.Value) :
    bodyOf (v.withTags (tag :: tags)) = .literal (Field.ofYaml v) := by
  rw [← Field.ofYaml_withTags (tag :: tags) v]
  rfl

/-- The body stays the same if no tag is put on a text. -/
theorem bodyOf_withTags_iff (tags : List String) (v : Yaml.Value) :
    bodyOf (v.withTags tags) = bodyOf v ↔
      ∀ template, v = .text template → v.withTags tags = .text template := by
  cases tags with
  | nil => exact iff_of_true rfl fun _ h => h
  | cons tag tags =>
    rw [bodyOf_withTags_cons]
    constructor
    · rintro hbody template rfl
      cases hbody
    · intro hkept
      have hnone : ∀ template, v ≠ .text template := fun template h => by
        cases hkept template h
      rw [bodyOf_of_ne_text hnone]

/-- A value behind tags makes the same body, or it is a text that is no expression any more. -/
theorem bodyOf_withTags_or (tags : List String) (v : Yaml.Value) :
    bodyOf (v.withTags tags) = bodyOf v ∨
      ∃ template, bodyOf v = .expression template ∧
        bodyOf (v.withTags tags) = .literal (.text template) := by
  cases tags with
  | nil => exact .inl rfl
  | cons tag tags =>
    rw [bodyOf_withTags_cons]
    by_cases htext : ∃ template, v = .text template
    · obtain ⟨template, rfl⟩ := htext
      exact .inr ⟨template, rfl, rfl⟩
    · exact .inl (bodyOf_of_ne_text fun template h => htext ⟨template, h⟩).symm

/-! ## Entries -/

/-- Tags may be put on the value of an entry. -/
def EntryTagging (entry other : Yaml.Value × Yaml.Value) : Prop :=
  other.1 = entry.1 ∧ ∃ tags, other.2 = entry.2.withTags tags

/-- No tag is put on the value of an entry if the value is a text and the key gives a name. -/
def KeepsText (entry other : Yaml.Value × Yaml.Value) : Prop :=
  givesName entry.1 = true → ∀ template, entry.2 = .text template → other.2 = .text template

/-- A definition may only change from an expression to the text that the expression is written
as. -/
def MayLoseExpression (definition other : Definition) : Prop :=
  other.name = definition.name ∧
    (other.body = definition.body ∨
      ∃ template, definition.body = .expression template ∧ other.body = .literal (.text template))

theorem EntryTagging.refl (entry : Yaml.Value × Yaml.Value) : EntryTagging entry entry :=
  ⟨rfl, [], rfl⟩

/-- **Definitions stay the same** exactly if no tag is put on a text. -/
theorem ofEntries_tagging_iff {entries others : List (Yaml.Value × Yaml.Value)}
    (h : List.Forall₂ EntryTagging entries others) :
    ofEntries others = ofEntries entries ↔ List.Forall₂ KeepsText entries others := by
  induction h with
  | nil => exact iff_of_true rfl .nil
  | @cons entry other rest more hentry _ ih =>
    obtain ⟨key, value⟩ := entry
    obtain ⟨key', value'⟩ := other
    obtain ⟨rfl, tags, rfl⟩ : key' = key ∧ ∃ tags, value' = value.withTags tags := hentry
    rw [ofEntries_cons, ofEntries_cons, List.forall₂_cons, ← ih, KeepsText]
    dsimp only
    split_ifs with hname
    · rw [List.cons.injEq, Definition.mk.injEq, bodyOf_withTags_iff]
      simp [hname]
    · simp [hname]

theorem forall₂_ofEntries_of_tagging {entries others : List (Yaml.Value × Yaml.Value)}
    (h : List.Forall₂ EntryTagging entries others) :
    List.Forall₂ MayLoseExpression (ofEntries entries) (ofEntries others) := by
  induction h with
  | nil => exact .nil
  | @cons entry other rest more hentry _ ih =>
    obtain ⟨key, value⟩ := entry
    obtain ⟨key', value'⟩ := other
    obtain ⟨rfl, tags, rfl⟩ : key' = key ∧ ∃ tags, value' = value.withTags tags := hentry
    rw [ofEntries_cons, ofEntries_cons]
    split_ifs with hname
    · exact .cons ⟨rfl, bodyOf_withTags_or tags value⟩ ih
    · exact ih

/-! ## Whole values -/

/-- Tags may be put on the values of a mapping that stands in a sequence. -/
inductive ItemTagging : Yaml.Value → Yaml.Value → Prop
  | same (v : Yaml.Value) : ItemTagging v v
  | mapping {entries others : List (Yaml.Value × Yaml.Value)}
      (h : List.Forall₂ EntryTagging entries others) :
      ItemTagging (.mapping entries) (.mapping others)

/-- Tags may be put on the values that are written for definitions. -/
inductive Tagging : Yaml.Value → Yaml.Value → Prop
  | item {v w : Yaml.Value} (h : ItemTagging v w) : Tagging v w
  | sequence {items others : List Yaml.Value} (h : List.Forall₂ ItemTagging items others) :
      Tagging (.sequence items) (.sequence others)

variable {v w : Yaml.Value} {items others : List Yaml.Value} {definitions : List Definition}

theorem ItemTagging.entries (h : ItemTagging v w) :
    List.Forall₂ EntryTagging (entriesOfItem v) (entriesOfItem w) := by
  cases h with
  | same => exact List.forall₂_same.2 fun entry _ => EntryTagging.refl entry
  | mapping h => exact h

theorem ItemTagging.isItem (h : ItemTagging v w) (hv : IsItem v) : IsItem w := by
  cases h with
  | same => exact hv
  | mapping h => exact .inr ⟨_, rfl⟩

theorem Tagging.entries (h : Tagging v w) :
    List.Forall₂ EntryTagging (entriesIn v) (entriesIn w) := by
  cases h with
  | item h =>
    cases h with
    | same => exact List.forall₂_same.2 fun entry _ => EntryTagging.refl entry
    | mapping h => exact h
  | sequence h => exact List.rel_flatMap h fun _ _ hitem => hitem.entries

theorem isItem_of_itemTagging (h : List.Forall₂ ItemTagging items others)
    (hitems : ∀ item ∈ items, IsItem item) : ∀ other ∈ others, IsItem other := by
  induction h with
  | nil => exact hitems
  | cons hfirst _ ih =>
    obtain ⟨hitem, hrest⟩ := List.forall_mem_cons.1 hitems
    exact List.forall_mem_cons.2 ⟨hfirst.isItem hitem, ih hrest⟩

theorem Tagging.isWritten (h : Tagging v w) (hv : IsWritten v) : IsWritten w := by
  cases h with
  | item h =>
    cases h with
    | same => exact hv
    | mapping h => exact .inl (.inr ⟨_, rfl⟩)
  | sequence h =>
    rcases hv with (hnull | ⟨entries, hmapping⟩) | ⟨items, hsequence, hitems⟩
    · cases hnull
    · cases hmapping
    · cases hsequence
      exact .inr ⟨_, rfl, isItem_of_itemTagging h hitems⟩

/-- **Definitions with tags on their values** have the same names in the same order, and they stay
the same exactly if no tag is put on a text; an expression that a tag is put on becomes the text
that it is written as. -/
theorem ofYaml_tagging_iff (h : Tagging v w) (hv : ofYaml v = .ok definitions) :
    ∃ others, ofYaml w = .ok others ∧
      List.Forall₂ MayLoseExpression definitions others ∧
      (others = definitions ↔ List.Forall₂ KeepsText (entriesIn v) (entriesIn w)) := by
  obtain ⟨hwritten, rfl⟩ := ofYaml_eq_ok_iff.1 hv
  exact ⟨_, ofYaml_eq_ok_iff.2 ⟨h.isWritten hwritten, rfl⟩, forall₂_ofEntries_of_tagging h.entries,
    ofEntries_tagging_iff h.entries⟩

/-- Entries whose values are an expression, a literal, and a text under a key that gives no name. -/
def plainEntries : List (Yaml.Value × Yaml.Value) :=
  [(.text "a", .text "x"), (.text "b", .number (.int 1)), (.bool true, .text "y")]

/-- The same with two tags on the literal and one on the text without a name. -/
def taggedEntries : List (Yaml.Value × Yaml.Value) :=
  [(.text "a", .text "x"), (.text "b", .tagged "s" (.tagged "t" (.number (.int 1)))),
    (.bool true, .tagged "s" (.text "y"))]

/-- Neither the literal nor the text without a name makes a difference. -/
theorem ofYaml_tagging_iff_literal :
    Tagging (.sequence [.null, .mapping plainEntries])
      (.sequence [.null, .mapping taggedEntries]) ∧
    ofYaml (.sequence [.null, .mapping plainEntries]) =
      .ok [⟨"a", .expression "x"⟩, ⟨"b", .literal (.text "1")⟩] ∧
    ofYaml (.sequence [.null, .mapping taggedEntries]) =
      .ok [⟨"a", .expression "x"⟩, ⟨"b", .literal (.text "1")⟩] := by
  have hentries : List.Forall₂ EntryTagging plainEntries taggedEntries :=
    .cons ⟨rfl, [], rfl⟩ (.cons ⟨rfl, ["s", "t"], rfl⟩ (.cons ⟨rfl, ["s"], rfl⟩ .nil))
  have htags : Tagging (.sequence [.null, .mapping plainEntries])
      (.sequence [.null, .mapping taggedEntries]) :=
    .sequence (.cons (.same .null) (.cons (.mapping hentries) .nil))
  have hplain : ofYaml (.sequence [.null, .mapping plainEntries]) =
      .ok [⟨"a", .expression "x"⟩, ⟨"b", .literal (.text "1")⟩] := rfl
  have hkept : List.Forall₂ KeepsText plainEntries taggedEntries :=
    .cons (fun _ _ h => h) (.cons (fun _ _ h => nomatch h) (.cons (fun h => nomatch h) .nil))
  obtain ⟨others, hothers, -, hsame⟩ := ofYaml_tagging_iff htags hplain
  exact ⟨htags, hplain, hothers.trans (congrArg Except.ok (hsame.2 hkept))⟩

/-- **An expression that is lost**: behind a tag, the text is taken as it is. -/
theorem tagged_text_literal :
    Tagging (.mapping [(.text "a", .text "x")]) (.mapping [(.text "a", .tagged "t" (.text "x"))]) ∧
    Yaml.Value.ofText "a: x\n" = .ok (.mapping [(.text "a", .text "x")]) ∧
    Yaml.Value.ofText "a: !t x\n" = .ok (.mapping [(.text "a", .tagged "t" (.text "x"))]) ∧
    ofText "a: x\n" = .ok [⟨"a", .expression "x"⟩] ∧
    ofText "a: !t x\n" = .ok [⟨"a", .literal (.text "x")⟩] ∧
    ofText "a: !t x\n" ≠ ofText "a: x\n" := by
  have hplain : Yaml.Value.ofText "a: x\n" = .ok (.mapping [(.text "a", .text "x")]) := by cbv
  have htagged : Yaml.Value.ofText "a: !t x\n" =
      .ok (.mapping [(.text "a", .tagged "t" (.text "x"))]) := by cbv
  refine ⟨.item (.mapping (.cons ⟨rfl, ["t"], rfl⟩ .nil)), hplain, htagged, ofText_of_value hplain,
    ofText_of_value htagged, ?_⟩
  rw [ofText_of_value hplain, ofText_of_value htagged]
  intro h
  cases h

end Definition

end Scaffold
