import Mathlib
import Scaffold.Manifest.Definition
import Scaffold.Proofs.Field.Literal

/-!
# What definitions are read from

Definitions are written as one mapping or as a sequence of mappings, among which nulls may stand.
The key notions are `entriesIn`, the entries of such a value in the order in which they are written,
and `Defines`, which says of an entry what its definition is. Main facts:

* `ofYaml_eq_ok_iff` : only the entries count, not how they are divided into mappings;
* `ofText_of_value` : a text holds the definitions of the value that it holds;
* `keyName?_eq` : a key gives a name if it is a scalar other than a flag;
* `forall₂_defines` : every entry whose key gives a name has one definition, in its place;
* `sequence_agrees_with_mapping` : a sequence holds the definitions of the mapping of all its
  entries, or it is no sequence of mappings and is rejected;
* `scalar_keys_kept_iff` : every entry whose key is a scalar has its definition exactly if none of
  the keys is a flag.
-/

namespace Scaffold.Definition

variable {v : Yaml.Value} {items : List Yaml.Value} {definitions : List Definition}

/-! ## Entries -/

/-- The entries of an item of a sequence. -/
def entriesOfItem : Yaml.Value → List (Yaml.Value × Yaml.Value)
  | .mapping entries => entries
  | _ => []

/-- The entries that definitions are read from, in the order in which they are written. -/
def entriesIn : Yaml.Value → List (Yaml.Value × Yaml.Value)
  | .sequence items => items.flatMap entriesOfItem
  | v => entriesOfItem v

/-- What may stand for entries: a mapping, or null. -/
def IsItem (v : Yaml.Value) : Prop := v = .null ∨ ∃ entries, v = .mapping entries

/-- What definitions may be written as. -/
def IsWritten (v : Yaml.Value) : Prop :=
  IsItem v ∨ ∃ items, v = .sequence items ∧ ∀ item ∈ items, IsItem item

theorem ofEntries_append (first second : List (Yaml.Value × Yaml.Value)) :
    ofEntries (first ++ second) = ofEntries first ++ ofEntries second :=
  List.filterMap_append

theorem ofItems?_of_items (h : ∀ item ∈ items, IsItem item) :
    ofItems? items = some (ofEntries (items.flatMap entriesOfItem)) := by
  induction items with
  | nil => rfl
  | cons item rest ih =>
    have hrest := ih fun other hother => h other (.tail item hother)
    rcases h item (.head rest) with rfl | ⟨entries, rfl⟩
    · rw [ofItems?, hrest]
      rfl
    · rw [ofItems?, hrest, List.flatMap_cons, ofEntries_append]
      rfl

theorem ofItems?_of_other (h : ∃ item ∈ items, ¬ IsItem item) : ofItems? items = none := by
  induction items with
  | nil =>
    obtain ⟨item, hitem, -⟩ := h
    cases hitem
  | cons item rest ih =>
    obtain ⟨other, hmem, hother⟩ := h
    rcases List.mem_cons.1 hmem with rfl | hrest
    · cases other with
      | null => exact absurd (.inl rfl) hother
      | mapping entries => exact absurd (.inr ⟨entries, rfl⟩) hother
      | _ => rfl
    · cases item with
      | null => exact ih ⟨other, hrest, hother⟩
      | mapping entries => rw [ofItems?, ih ⟨other, hrest, hother⟩, Option.map_none]
      | _ => rfl

theorem ofYaml_of_written (h : IsWritten v) : ofYaml v = .ok (ofEntries (entriesIn v)) := by
  rcases h with (rfl | ⟨entries, rfl⟩) | ⟨items, rfl, hitems⟩
  · rfl
  · rfl
  · rw [ofYaml, ofItems?_of_items hitems]
    rfl

theorem isWritten_of_ofYaml (h : ofYaml v = .ok definitions) : IsWritten v := by
  cases v with
  | null => exact .inl (.inl rfl)
  | mapping entries => exact .inl (.inr ⟨entries, rfl⟩)
  | sequence items =>
    refine .inr ⟨items, rfl, ?_⟩
    by_contra hnot
    push Not at hnot
    rw [ofYaml, ofItems?_of_other hnot] at h
    cases h
  | _ => cases h

/-- **Only the entries count**, not how they are divided into mappings. -/
theorem ofYaml_eq_ok_iff :
    ofYaml v = .ok definitions ↔ IsWritten v ∧ ofEntries (entriesIn v) = definitions := by
  constructor
  · intro h
    have hwritten := isWritten_of_ofYaml h
    exact ⟨hwritten, Except.ok.inj ((ofYaml_of_written hwritten).symm.trans h)⟩
  · rintro ⟨hwritten, rfl⟩
    exact ofYaml_of_written hwritten

/-! ## Texts -/

/-- The definitions of a node are those of the value that it is read as. -/
theorem decode_of_value {document : Yaml.Document} {depth before after : Nat} {n : Yaml.Node}
    (h : Yaml.decodeValue document depth n before = .ok (v, after)) :
    decode document depth n before = (ofYaml v).map (·, after) := by
  change Yaml.Decode.bind (Yaml.decodeValue document depth n) _ before = _
  rw [Yaml.Decode.bind, h]
  dsimp only
  cases ofYaml v <;> rfl

/-- **The definitions of a text** are those of the value that it holds. -/
theorem ofText_of_value {text : String} (h : Yaml.Value.ofText text = .ok v) :
    ofText text = ofYaml v := by
  rw [Yaml.Value.ofText, Yaml.Document.decode] at h
  rw [ofText, Yaml.Document.decode]
  cases hread : Yaml.decodeValue (Yaml.Document.ofText text) Yaml.depthLimit
      (Yaml.Document.ofText text).root 0 with
  | error fault =>
    rw [hread] at h
    cases h
  | ok result =>
    rw [hread] at h
    dsimp only at h
    split_ifs at h with hcomplete
    cases h
    rw [decode_of_value hread]
    cases ofYaml result.1 with
    | error fault => rfl
    | ok definitions => exact if_pos hcomplete

/-! ## Keys -/

/-- Whether a key is a scalar. -/
def isScalar (key : Yaml.Value) : Bool :=
  match key.untagged with
  | .sequence _ | .mapping _ => false
  | _ => true

/-- Whether a key gives a name to a field: it is a text, a number or null. -/
def givesName (key : Yaml.Value) : Bool :=
  match key.untagged with
  | .text _ | .number _ | .null => true
  | _ => false

theorem keyName?_tagged (tag : String) (content : Yaml.Value) :
    keyName? (.tagged tag content) = keyName? content := by
  cases content <;> rfl

theorem keyName?_untagged (key : Yaml.Value) : keyName? key.untagged = keyName? key := by
  fun_induction Yaml.Value.untagged key with
  | case1 tag content ih => rw [ih, keyName?_tagged]
  | case2 key hkey => rfl

theorem untagged_ne_tagged (v : Yaml.Value) (tag : String) (content : Yaml.Value) :
    v.untagged ≠ .tagged tag content := by
  fun_induction Yaml.Value.untagged v with
  | case1 _ content ih => exact ih
  | case2 v hv => exact hv tag content

/-- **A key gives a name** if it is a scalar other than a flag. -/
theorem keyName?_eq (key : Yaml.Value) :
    keyName? key = if givesName key then some (Field.scalarText key) else none := by
  rw [← keyName?_untagged, ← Field.scalarText_untagged, givesName]
  have htag := untagged_ne_tagged key
  cases hkey : key.untagged with
  | tagged tag content => exact absurd hkey (htag tag content)
  | _ => rfl

/-! ## What an entry defines -/

/-- An entry defines a field under the name that its key gives in a mapping that is a literal. If
its value is a text without a tag, it is an expression, and otherwise the field is what the value
stands for. -/
structure Defines (entry : Yaml.Value × Yaml.Value) (definition : Definition) : Prop where
  name : ∀ value, Field.ofYaml (.mapping [(entry.1, value)]) =
    .nested [(definition.name, Field.ofYaml value)]
  expression : ∀ template, entry.2 = .text template → definition.body = .expression template
  literal : (∀ template, entry.2 ≠ .text template) →
    definition.body = .literal (Field.ofYaml entry.2)

theorem bodyOf_of_ne_text (h : ∀ template, v ≠ .text template) :
    bodyOf v = .literal (Field.ofYaml v) := by
  cases v with
  | text template => exact absurd rfl (h template)
  | _ => rfl

theorem defines_scalarText (key value : Yaml.Value) :
    Defines (key, value) ⟨Field.scalarText key, bodyOf value⟩ where
  name other := by
    rw [Field.ofYaml, Field.ofEntries, Field.ofEntries]
    rfl
  expression template h := congrArg bodyOf h
  literal h := bodyOf_of_ne_text h

theorem ofEntries_cons (key value : Yaml.Value) (rest : List (Yaml.Value × Yaml.Value)) :
    ofEntries ((key, value) :: rest) =
      if givesName key then ⟨Field.scalarText key, bodyOf value⟩ :: ofEntries rest
      else ofEntries rest := by
  have hone : ofEntries [(key, value)] =
      if givesName key then [⟨Field.scalarText key, bodyOf value⟩] else [] := by
    simp only [ofEntries, List.filterMap_cons, List.filterMap_nil, keyName?_eq]
    split_ifs <;> rfl
  rw [← List.singleton_append, ofEntries_append, hone]
  split_ifs <;> rfl

/-- **Every entry whose key gives a name has one definition**, in its place. -/
theorem forall₂_defines (entries : List (Yaml.Value × Yaml.Value)) :
    List.Forall₂ Defines (entries.filter fun e => givesName e.1) (ofEntries entries) := by
  induction entries with
  | nil => exact .nil
  | cons e rest ih =>
    obtain ⟨key, value⟩ := e
    rw [ofEntries_cons, List.filter_cons]
    split_ifs with hname
    · exact .cons (defines_scalarText key value) ih
    · exact ih

/-- **A sequence agrees with the mapping of all its entries**, wherever nulls stand: both hold the
same definitions, those of the entries one after another, also if names occur repeatedly. If one of
its items is neither a mapping nor null, it is rejected as a whole. -/
theorem sequence_agrees_with_mapping (items : List Yaml.Value) :
    ((∀ item ∈ items, IsItem item) → ∃ definitions,
      ofYaml (.sequence items) = .ok definitions ∧
      ofYaml (.mapping (items.flatMap entriesOfItem)) = .ok definitions ∧
      List.Forall₂ Defines ((items.flatMap entriesOfItem).filter fun e => givesName e.1)
        definitions) ∧
    ((∃ item ∈ items, ¬ IsItem item) →
      ofYaml (.sequence items) = .error (.form itemReason)) := by
  refine ⟨fun h => ⟨ofEntries (items.flatMap entriesOfItem), ?_, rfl, forall₂_defines _⟩,
    fun h => ?_⟩
  · exact ofYaml_of_written (.inr ⟨items, rfl, h⟩)
  · rw [ofYaml, ofItems?_of_other h]

/-- Two mappings with null between them. Two of the keys are different, but have the same text. -/
def scattered : List Yaml.Value :=
  [.mapping [(.number (.int 1), .sequence [.text "x"])], .null,
    .mapping [(.text "1", .text "e"), (.null, .bool true)]]

/-- Both definitions of the same name are kept, and a text behind them spoils all. -/
theorem sequence_agrees_with_mapping_scattered :
    (∀ item ∈ scattered, IsItem item) ∧
    ofYaml (.sequence scattered) = ofYaml (.mapping (scattered.flatMap entriesOfItem)) ∧
    ofYaml (.sequence scattered) =
      .ok [⟨"1", .literal (.list ["x"])⟩, ⟨"1", .expression "e"⟩, ⟨"", .literal (.flag true)⟩] ∧
    (∃ item ∈ scattered ++ [.text "a"], ¬ IsItem item) ∧
    ofYaml (.sequence (scattered ++ [.text "a"])) = .error (.form itemReason) := by
  have hitems : ∀ item ∈ scattered, IsItem item := by
    intro item hitem
    simp only [scattered, List.mem_cons, List.not_mem_nil, or_false] at hitem
    rcases hitem with rfl | rfl | rfl
    · exact .inr ⟨_, rfl⟩
    · exact .inl rfl
    · exact .inr ⟨_, rfl⟩
  have hspoilt : ∃ item ∈ scattered ++ [.text "a"], ¬ IsItem item :=
    ⟨.text "a", List.mem_append_right _ (.head _), by simp [IsItem]⟩
  obtain ⟨definitions, hsequence, hmapping, -⟩ := (sequence_agrees_with_mapping scattered).1 hitems
  exact ⟨hitems, hsequence.trans hmapping.symm, rfl, hspoilt,
    (sequence_agrees_with_mapping _).2 hspoilt⟩

/-! ## Keys that are lost -/

/-- A scalar gives a name, or it is a flag. -/
theorem isScalar_iff {key : Yaml.Value} :
    isScalar key = true ↔ givesName key = true ∨ ∃ b, key.untagged = .bool b := by
  have htag := untagged_ne_tagged key
  unfold isScalar givesName
  cases hkey : key.untagged with
  | tagged tag content => exact absurd hkey (htag tag content)
  | _ => simp

theorem givesName_of_flag {key : Yaml.Value} {b : Bool} (h : key.untagged = .bool b) :
    givesName key = false := by
  rw [givesName, h]

/-- All scalars give names exactly if none of them is a flag. -/
theorem filter_isScalar_eq_iff (entries : List (Yaml.Value × Yaml.Value)) :
    (entries.filter fun e => givesName e.1) = (entries.filter fun e => isScalar e.1) ↔
      ∀ e ∈ entries, ∀ b, e.1.untagged ≠ .bool b := by
  constructor
  · intro hsame e he b hflag
    have hmem : e ∈ entries.filter fun e => isScalar e.1 :=
      List.mem_filter.2 ⟨he, isScalar_iff.2 (.inr ⟨b, hflag⟩)⟩
    rw [← hsame, List.mem_filter, givesName_of_flag hflag] at hmem
    cases hmem.2
  · intro hnone
    refine List.filter_congr fun e he => ?_
    rw [Bool.eq_iff_iff, isScalar_iff]
    exact (or_iff_left fun ⟨b, hflag⟩ => hnone e he b hflag).symm

/-- **Every entry whose key is a scalar has its definition**, in its place and under the name that
the key gives in a literal, exactly if none of the keys is a flag. The definitions are always those
of the entries whose keys are no flags. -/
theorem scalar_keys_kept_iff (h : ofYaml v = .ok definitions) :
    List.Forall₂ Defines ((entriesIn v).filter fun e => givesName e.1) definitions ∧
    (List.Forall₂ Defines ((entriesIn v).filter fun e => isScalar e.1) definitions ↔
      ∀ e ∈ entriesIn v, ∀ b, e.1.untagged ≠ .bool b) := by
  have hnamed : List.Forall₂ Defines ((entriesIn v).filter fun e => givesName e.1) definitions := by
    rw [← (ofYaml_eq_ok_iff.1 h).2]
    exact forall₂_defines _
  rw [← filter_isScalar_eq_iff]
  refine ⟨hnamed, fun hscalar => ?_, fun hsame => hsame ▸ hnamed⟩
  have hsub : ((entriesIn v).filter fun e => givesName e.1).Sublist
      ((entriesIn v).filter fun e => isScalar e.1) :=
    List.monotone_filter_right _ fun e hname => isScalar_iff.2 (.inl hname)
  exact hsub.eq_of_length (hnamed.length_eq.trans hscalar.length_eq.symm)

/-- Keys that are null, a number behind a tag, and a list, but no flag. -/
def unflagged : Yaml.Value :=
  .sequence [.mapping [(.null, .text "e"), (.tagged "t" (.number (.int 1)), .bool true)],
    .mapping [(.sequence [], .text "f")]]

/-- The scalars among the keys give names, the list does not. -/
theorem scalar_keys_kept_iff_unflagged :
    ofYaml unflagged = .ok [⟨"", .expression "e"⟩, ⟨"1", .literal (.flag true)⟩] ∧
    (∀ e ∈ entriesIn unflagged, ∀ b, e.1.untagged ≠ .bool b) ∧
    List.Forall₂ Defines ((entriesIn unflagged).filter fun e => isScalar e.1)
      [⟨"", .expression "e"⟩, ⟨"1", .literal (.flag true)⟩] := by
  have hread : ofYaml unflagged = .ok [⟨"", .expression "e"⟩, ⟨"1", .literal (.flag true)⟩] := rfl
  have hnone : ∀ e ∈ entriesIn unflagged, ∀ b, e.1.untagged ≠ .bool b := by
    intro e he b hflag
    simp only [unflagged, entriesIn, entriesOfItem, List.flatMap_cons, List.flatMap_nil,
      List.cons_append, List.nil_append, List.mem_cons, List.not_mem_nil, or_false] at he
    rcases he with rfl | rfl | rfl <;> cases hflag
  exact ⟨hread, hnone, (scalar_keys_kept_iff hread).2.2 hnone⟩

/-- **A definition that is lost**: a key that is a flag gives a name in a literal, but none to a
field that is defined. -/
theorem flag_key_lost :
    Yaml.Value.ofText "true: a\n" = .ok (.mapping [(.bool true, .text "a")]) ∧
    ofText "true: a\n" = .ok [] ∧
    isScalar (.bool true) = true ∧
    Field.ofYaml (.mapping [(.bool true, .text "a")]) = .nested [("true", .text "a")] ∧
    ¬ List.Forall₂ Defines
      ((entriesIn (.mapping [(.bool true, .text "a")])).filter fun e => isScalar e.1) [] := by
  have hvalue : Yaml.Value.ofText "true: a\n" = .ok (.mapping [(.bool true, .text "a")]) := by cbv
  refine ⟨hvalue, ofText_of_value hvalue, rfl, rfl, ?_⟩
  intro h
  cases h

end Scaffold.Definition
