import Scaffold.Field.Literal
import Scaffold.Proofs.Field.Building

/-!
# What literals stand for

A literal value is turned into a field value by recursion over mappings, into which a later entry is
written over an earlier one of the same name. The key notions are `StandsFor`, which says of a
mapping at any depth what its fields are, and `Yaml.Value.withoutTags`, a value without the tags
that the conversion looks through. Main facts:

* `entries_ofEntries` : the fields of a mapping are written one after another;
* `standsFor_iff` : a value is turned into the field value that it stands for, and no other;
* `ofYaml_withoutTags` : tags make no difference;
* `literal_stands_for_field` : these together, with the texts of scalars.
-/

namespace Scaffold

/-! ## Tags -/

namespace Yaml.Value

/-- A value without the tags directly before it. -/
def untagged : Value → Value
  | .tagged _ content => untagged content
  | v => v

mutual

/-- A value without the tags before it, before its items, and before its keys and its values, and so
on in the values. The tags inside an item or a key that is a collection stay: they are part of its
text. -/
def withoutTags : Value → Value
  | .tagged _ content => withoutTags content
  | .sequence items => .sequence (items.map untagged)
  | .mapping entries => .mapping (withoutTagsIn entries)
  | v => v

/-- Entries without the tags before their keys, and without those of their values. -/
def withoutTagsIn : List (Value × Value) → List (Value × Value)
  | [] => []
  | (k, v) :: rest => (untagged k, withoutTags v) :: withoutTagsIn rest

end

end Yaml.Value

namespace Field

theorem scalarText_untagged (v : Yaml.Value) : scalarText v.untagged = scalarText v := by
  fun_induction Yaml.Value.untagged v with
  | case1 tag content ih => rw [ih, scalarText]
  | case2 v hv => rfl

mutual

/-- **Tags make no difference.** -/
theorem ofYaml_withoutTags (v : Yaml.Value) : ofYaml v.withoutTags = ofYaml v := by
  cases v with
  | tagged tag content =>
    rw [Yaml.Value.withoutTags, ofYaml]
    exact ofYaml_withoutTags content
  | sequence items =>
    rw [Yaml.Value.withoutTags, ofYaml, ofYaml, List.map_map]
    exact congrArg Field.list (List.map_congr_left fun item _ => scalarText_untagged item)
  | mapping entries =>
    rw [Yaml.Value.withoutTags, ofYaml, ofYaml]
    exact congrArg Field.nested (ofEntries_withoutTags [] entries)
  | null => rfl
  | bool b => rfl
  | number n => rfl
  | text s => rfl

theorem ofEntries_withoutTags (before : List (String × Field))
    (entries : List (Yaml.Value × Yaml.Value)) :
    ofEntries before (Yaml.Value.withoutTagsIn entries) = ofEntries before entries := by
  cases entries with
  | nil => rfl
  | cons e rest =>
    obtain ⟨k, v⟩ := e
    rw [Yaml.Value.withoutTagsIn, ofEntries, ofEntries, scalarText_untagged,
      ofYaml_withoutTags v]
    exact ofEntries_withoutTags _ rest

end

/-! ## Mappings -/

/-- **The fields of a mapping are written one after another**, each key as its text. -/
theorem entries_ofEntries (before : Fields) (entries : List (Yaml.Value × Yaml.Value)) :
    ofEntries before.entries entries =
      (before.insertAll (entries.map fun e => (scalarText e.1, ofYaml e.2))).entries := by
  induction entries generalizing before with
  | nil => rfl
  | cons e rest ih =>
    obtain ⟨k, v⟩ := e
    rw [ofEntries]
    exact ih (before.insert (scalarText k) (ofYaml v))

/-- The fields of a mapping as a container. -/
def fieldsOf (entries : List (Yaml.Value × Yaml.Value)) : Fields :=
  .ofList (entries.map fun e => (scalarText e.1, ofYaml e.2))

theorem entries_fieldsOf (entries : List (Yaml.Value × Yaml.Value)) :
    (fieldsOf entries).entries = ofEntries [] entries :=
  (entries_ofEntries .empty entries).symm

/-- A value stands for a field value. Truth values are flags, null and the other scalars are texts,
and a sequence is the list of the texts of its items. A mapping stands for fields whose names are
the texts of its keys, each once, in the order in which they come first; what a field has as its
value is what the last entry of its name stands for. -/
inductive StandsFor : Yaml.Value → Field → Prop
  | flag (b : Bool) : StandsFor (.bool b) (.flag b)
  | null : StandsFor .null (.text "")
  | number (n : Number) {s : String} (written : (Yaml.Value.number n).scalarText? = some s) :
      StandsFor (.number n) (.text s)
  | text (s : String) : StandsFor (.text s) (.text s)
  | list (items : List Yaml.Value) : StandsFor (.sequence items) (.list (items.map scalarText))
  | fields {entries : List (Yaml.Value × Yaml.Value)} {fields : List (String × Field)}
      (distinct : (fields.map (·.1)).Nodup)
      (names : fields.map (·.1) = (entries.map fun e => scalarText e.1).eraseDups)
      (values : ∀ f ∈ fields, ∀ last,
        lastValue f.1 (entries.map fun e => (scalarText e.1, e.2)) = some last →
          StandsFor last f.2) :
      StandsFor (.mapping entries) (.nested fields)
  | tagged (tag : String) {content : Yaml.Value} {field : Field}
      (h : StandsFor content field) : StandsFor (.tagged tag content) field

/-- The names of the fields of a mapping are the texts of its keys, each where it comes first. -/
theorem keys_fieldsOf (entries : List (Yaml.Value × Yaml.Value)) :
    (fieldsOf entries).keys = (entries.map fun e => scalarText e.1).eraseDups := by
  have hkeys := Fields.keys_insertAll .empty
    (entries.map fun e => (scalarText e.1, ofYaml e.2))
  rw [Fields.keys_empty, List.nil_append, List.map_map] at hkeys
  refine hkeys.trans ?_
  simp [Function.comp_def]

/-- The field of a name is made of the last entry of this name. -/
theorem get?_fieldsOf (entries : List (Yaml.Value × Yaml.Value)) (name : String) :
    (fieldsOf entries).get? name =
      (lastValue name (entries.map fun e => (scalarText e.1, e.2))).map ofYaml := by
  rw [fieldsOf, Fields.ofList, Fields.get?_insertAll, Fields.get?_empty, Option.or_none,
    ← lastValue_map, List.map_map]
  rfl

theorem value_of_mem_fieldsOf {entries : List (Yaml.Value × Yaml.Value)} {f : String × Field}
    (hf : f ∈ (fieldsOf entries).entries) {last : Yaml.Value}
    (hlast : lastValue f.1 (entries.map fun e => (scalarText e.1, e.2)) = some last) :
    f.2 = ofYaml last := by
  have hget : (fieldsOf entries).get? f.1 = some f.2 := Fields.get?_of_mem hf
  rw [get?_fieldsOf, hlast] at hget
  exact (Option.some.inj hget).symm

mutual

/-- A value stands for what it is turned into. -/
theorem standsFor_ofYaml (v : Yaml.Value) : StandsFor v (ofYaml v) := by
  cases v with
  | tagged tag content =>
    rw [ofYaml]
    exact .tagged tag (standsFor_ofYaml content)
  | sequence items =>
    rw [ofYaml]
    exact .list items
  | mapping entries =>
    rw [ofYaml, ← entries_fieldsOf]
    have hvalues := standsFor_of_mem entries
    refine .fields (fieldsOf entries).nodup (keys_fieldsOf entries) fun f hf last hlast => ?_
    have hlastMem : last ∈ entries.map (·.2) := by
      have hmem := List.mem_map_of_mem (f := Prod.snd) (mem_of_lastValue hlast)
      rwa [List.map_map] at hmem
    obtain ⟨e, he, rfl⟩ := List.mem_map.1 hlastMem
    rw [value_of_mem_fieldsOf hf hlast]
    exact hvalues e he
  | null => exact .null
  | bool b => exact .flag b
  | number n => cases n <;> exact .number _ rfl
  | text s => exact .text s

theorem standsFor_of_mem (entries : List (Yaml.Value × Yaml.Value)) :
    ∀ e ∈ entries, StandsFor e.2 (ofYaml e.2) := by
  cases entries with
  | nil =>
    intro e he
    cases he
  | cons first rest =>
    obtain ⟨k, v⟩ := first
    intro e he
    rcases List.mem_cons.1 he with rfl | hrest
    · exact standsFor_ofYaml v
    · exact standsFor_of_mem rest e hrest

end

/-- **A value is turned into the field value that it stands for**, and it stands for no other. -/
theorem standsFor_iff {v : Yaml.Value} {field : Field} :
    StandsFor v field ↔ ofYaml v = field := by
  constructor
  · intro h
    induction h with
    | flag b => rfl
    | null => rfl
    | number n written =>
      cases n <;> exact congrArg Field.text (Option.some.inj written)
    | text s => rfl
    | list items => rw [ofYaml]
    | @fields entries fields distinct names values ih =>
      let named : Fields := ⟨fields, distinct⟩
      have heq : fieldsOf entries = named := by
        refine Fields.eq_of_get? ((keys_fieldsOf entries).trans names.symm) fun key hkey => ?_
        have hmem : key ∈ fields.map (·.1) := by
          rw [names, ← keys_fieldsOf]
          exact hkey
        obtain ⟨f, hf, rfl⟩ := List.mem_map.1 hmem
        have hget : named.get? f.1 = some f.2 := Fields.get?_of_mem hf
        have hwritten : f.1 ∈ (entries.map fun e => (scalarText e.1, e.2)).map (·.1) := by
          rw [names, List.mem_eraseDups] at hmem
          rwa [List.map_map]
        obtain ⟨last, hlast⟩ := Option.ne_none_iff_exists'.1
          (mt lastValue_eq_none_iff.1 (not_not_intro hwritten))
        rw [hget, get?_fieldsOf, hlast, Option.map_some, ih f hf last hlast]
      rw [ofYaml, ← entries_fieldsOf, heq]
    | tagged tag h ih =>
      rw [ofYaml]
      exact ih
  · rintro rfl
    exact standsFor_ofYaml v

/-- The text of a scalar is what the scalar is written with, and nothing for null. -/
theorem scalarText_of_scalarText? {v : Yaml.Value} {s : String} (hnull : v ≠ .null)
    (h : v.scalarText? = some s) : scalarText v = s := by
  cases v with
  | null => exact absurd rfl hnull
  | number n => cases n <;> exact Option.some.inj h
  | bool b => exact Option.some.inj h
  | text s => exact Option.some.inj h
  | sequence items => cases h
  | mapping entries => cases h
  | tagged tag content => cases h

/-- **What a literal stands for.** Of two values that differ only in tags before them, before items
of sequences, and before keys and values of mappings at any depth, both are turned into the same
field value. It is the one that the value stands for: in particular the fields of a mapping, at
every depth, have distinct names, the texts of the keys in the order in which they come first, and
each has the value of the last entry of its name. The text of a scalar, with or without tags, is
what it is written with, and that of null is empty. -/
theorem literal_stands_for_field (v : Yaml.Value) :
    (∀ w : Yaml.Value, w.withoutTags = v.withoutTags → ofYaml w = ofYaml v) ∧
    (∀ field, StandsFor v field ↔ ofYaml v = field) ∧
    (v.untagged = .null → scalarText v = "") ∧
    ∀ s, v.untagged ≠ .null → v.untagged.scalarText? = some s → scalarText v = s := by
  refine ⟨fun w h => ?_, fun field => standsFor_iff, fun h => ?_, fun s hnull h => ?_⟩
  · rw [← ofYaml_withoutTags w, h, ofYaml_withoutTags]
  · rw [← scalarText_untagged, h]
    rfl
  · rw [← scalarText_untagged]
    exact scalarText_of_scalarText? hnull h

/-- A mapping two of whose keys have the same text, with a list in a mapping below it. -/
def plainLiteral : Yaml.Value :=
  .mapping [(.number (.int 1), .text "a"), (.bool true, .number (.int 2)),
    (.text "1", .mapping [(.null, .sequence [.bool true, .null])])]

/-- The same with tags. -/
def taggedLiteral : Yaml.Value :=
  .tagged "!a" (.mapping [(.tagged "!b" (.number (.int 1)), .text "a"),
    (.bool true, .tagged "!c" (.number (.int 2))),
    (.text "1", .tagged "!d" (.mapping [(.tagged "!e" .null,
      .sequence [.tagged "!f" (.bool true), .null])]))])

/-- Of the two entries of the same name the later one counts, at the place of the earlier one. -/
theorem literal_stands_for_field_tagged :
    taggedLiteral.withoutTags = plainLiteral.withoutTags ∧
    ofYaml taggedLiteral = ofYaml plainLiteral ∧
    StandsFor plainLiteral
      (.nested [("1", .nested [("", .list ["true", ""])]), ("true", .text "2")]) := by
  have htags : taggedLiteral.withoutTags = plainLiteral.withoutTags := rfl
  obtain ⟨hsame, hstands, -⟩ := literal_stands_for_field plainLiteral
  exact ⟨htags, hsame taggedLiteral htags, (hstands _).2 rfl⟩

end Field

end Scaffold
