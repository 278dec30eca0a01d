import Scaffold.Proofs.Field.Building
import Scaffold.Expansion.Fields

/-!
# What definitions are resolved to

Definitions are resolved in the order in which they are written, each on top of the fields that
there are by then. The key notions are `definedNames`, the names that definitions define, and
`Gives`, what a definition makes of its field. Main facts:

* `exists_writes_of_expandFields` : definitions are resolved to writes in their order;
* `get?_of_expandFields` : a name that is not defined keeps its value;
* `keys_of_expandFields` : the names that are there stay in place, new ones follow in the order of
  their first definitions;
* `expandFields_causal` : what a definition sees and is resolved to does not depend on the
  definitions behind it;
* `expandFields_shape` : the names, the places and the values that definitions are resolved to, a
  name that is defined repeatedly having the value of its last definition.
-/

namespace Scaffold.Expansion

open Template

/-- The names that definitions define, in order, repetitions included. -/
def definedNames (definitions : List Definition) : List String := definitions.map (·.name)

/-- On top of some fields, a definition gives its field a value: a literal as it is, and of an
expression the text that it is expanded to. -/
inductive Gives (expand : (name template : String) → Fields → Except Failure String)
    (fields : Fields) : Definition → Field → Prop
  | literal (name : String) (value : Field) : Gives expand fields ⟨name, .literal value⟩ value
  | expression (name template : String) {text : String}
      (h : expand name template fields = .ok text) :
      Gives expand fields ⟨name, .expression template⟩ (.text text)

variable {expand : (name template : String) → Fields → Except Failure String}
  {registry : Registry} {around : Surroundings} {fields out : Fields}
  {definitions : List Definition}

/-! ## One definition -/

theorem valueOf_eq_ok_iff {d : Definition} {value : Field} :
    valueOf expand fields d = .ok value ↔ Gives expand fields d value := by
  constructor
  · intro h
    obtain ⟨name, body⟩ := d
    cases body with
    | literal v =>
      obtain rfl : v = value := Except.ok.inj h
      exact .literal name v
    | expression template =>
      unfold valueOf at h
      dsimp only at h
      split at h
      · rename_i text hexpand
        cases h
        exact .expression name template hexpand
      · cases h
  · rintro (⟨name, value⟩ | ⟨name, template, h⟩)
    · rfl
    · unfold valueOf
      dsimp only
      rw [h]

theorem expandFields_cons_of_gives {d : Definition} {value : Field}
    (h : Gives (expandText registry (around.part 0)) fields d value) :
    expandFields registry around fields (d :: definitions) =
      expandFields registry (around.later 1) (fields.insert d.name value) definitions := by
  rw [expandFields, valueOf_eq_ok_iff.2 h]

/-- Definitions that are all resolved begin with one that gives its field a value. -/
theorem exists_value_of_expandFields {d : Definition}
    (h : expandFields registry around fields (d :: definitions) = .ok out) :
    ∃ value, Gives (expandText registry (around.part 0)) fields d value ∧
      expandFields registry (around.later 1) (fields.insert d.name value) definitions =
        .ok out := by
  rw [expandFields] at h
  split at h
  · rename_i value hvalue
    exact ⟨value, valueOf_eq_ok_iff.1 hvalue, h⟩
  · cases h

/-- **Definitions are resolved to writes**, one for each of them, in their order. -/
theorem exists_writes_of_expandFields
    (h : expandFields registry around fields definitions = .ok out) :
    ∃ writes, writes.map (·.1) = definedNames definitions ∧ out = fields.insertAll writes := by
  induction definitions generalizing around fields with
  | nil =>
    cases h
    exact ⟨[], rfl, rfl⟩
  | cons d rest ih =>
    obtain ⟨value, -, hrest⟩ := exists_value_of_expandFields h
    obtain ⟨writes, hnames, rfl⟩ := ih hrest
    exact ⟨(d.name, value) :: writes, congrArg (d.name :: ·) hnames, rfl⟩

/-! ## Names that are not defined -/

/-- **A name that is not defined keeps its value.** -/
theorem get?_of_expandFields (h : expandFields registry around fields definitions = .ok out)
    {name : String} (hname : name ∉ definedNames definitions) :
    out.get? name = fields.get? name := by
  obtain ⟨writes, hnames, rfl⟩ := exists_writes_of_expandFields h
  rw [← hnames] at hname
  rw [Fields.get?_insertAll, lastValue_eq_none_iff.2 hname, Option.none_or]

/-- An entry whose name is not defined stays where it is. -/
theorem getElem?_of_expandFields (h : expandFields registry around fields definitions = .ok out)
    {name : String} {field : Field} (hname : name ∉ definedNames definitions) {i : Nat}
    (hentry : fields.entries[i]? = some (name, field)) :
    out.entries[i]? = some (name, field) := by
  obtain ⟨writes, hnames, rfl⟩ := exists_writes_of_expandFields h
  rw [← hnames] at hname
  exact Fields.getElem?_insertAll hname hentry

/-! ## Names that are defined -/

/-- **New names follow those that are there**, in the order of their first definitions. -/
theorem keys_of_expandFields (h : expandFields registry around fields definitions = .ok out) :
    out.keys =
      fields.keys ++ ((definedNames definitions).filter (· ∉ fields.keys)).eraseDups := by
  obtain ⟨writes, hnames, rfl⟩ := exists_writes_of_expandFields h
  rw [Fields.keys_insertAll, hnames]

/-- **The last definition of a name** gives the field its value. -/
theorem exists_last_of_expandFields (h : expandFields registry around fields definitions = .ok out)
    {name : String} (hname : name ∈ definedNames definitions) :
    ∃ before d after, definitions = before ++ d :: after ∧ d.name = name ∧
      name ∉ definedNames after ∧ ∃ seen value,
        expandFields registry around fields before = .ok seen ∧
        Gives (expandText registry (around.part before.length)) seen d value ∧
        out.get? name = some value := by
  induction definitions generalizing around fields with
  | nil => cases hname
  | cons d rest ih =>
    obtain ⟨value, hvalue, hrest⟩ := exists_value_of_expandFields h
    by_cases hlater : name ∈ definedNames rest
    · obtain ⟨before, last, after, rfl, hlast, hafter, seen, field, hseen, hgives, hget⟩ :=
        ih hrest hlater
      rw [Surroundings.part_later, Nat.add_comm] at hgives
      refine ⟨d :: before, last, after, rfl, hlast, hafter, seen, field, ?_, hgives, hget⟩
      rw [expandFields_cons_of_gives hvalue]
      exact hseen
    · rw [definedNames, List.map_cons, List.mem_cons] at hname
      obtain rfl : name = d.name := hname.resolve_right hlater
      refine ⟨[], d, rest, rfl, rfl, hlater, fields, value, rfl, hvalue, ?_⟩
      rw [get?_of_expandFields hrest hlater, Fields.get?_insert, if_pos rfl]

/-! ## Runs over definitions -/

/-- **Resolving is causal.** Definitions followed by others are resolved as if they stood alone, and
if that fails, the others make no difference; the others are resolved as if they stood alone on top
of what the first ones leave, each drawing what it draws behind them. What a definition is resolved
to follows from the fields that those before it leave, in which a name that they do not define, be
it defined later or not, has the value that it had to begin with, or none. -/
theorem expandFields_causal (registry : Registry) (around : Surroundings) (fields : Fields)
    (first second : List Definition) :
    expandFields registry around fields (first ++ second) =
        (expandFields registry around fields first >>=
          fun seen => expandFields registry (around.later first.length) seen second) ∧
      ∀ seen, expandFields registry around fields first = .ok seen →
        (∀ name, name ∉ definedNames first → seen.get? name = fields.get? name) ∧
        ∀ d later, second = d :: later →
          expandFields registry around fields (first ++ second) =
            (valueOf (expandText registry (around.part first.length)) seen d >>= fun value =>
              expandFields registry (around.later (first.length + 1)) (seen.insert d.name value)
                later) := by
  have happend := expandFields_append registry around fields first second
  refine ⟨?_, fun seen hseen => ⟨fun name hname => get?_of_expandFields hseen hname, ?_⟩⟩
  · rw [happend]
    cases expandFields registry around fields first <;> rfl
  · rintro d later rfl
    rw [happend, hseen]
    dsimp only
    rw [expandFields, Surroundings.part_later, Surroundings.later_later, Nat.add_zero]
    cases valueOf (expandText registry (around.part first.length)) seen d <;> rfl

/-- A field that is written down before the one that it mentions. -/
def forward : Definition := ⟨"first", .expression "\x7b\x7b later \x7d\x7d"⟩

/-- An expression that mentions a field defined only later sees the value from before. -/
theorem expandFields_causal_forward :
    ∃ seen, expandFields .empty nowhere (.ofList [("later", .text "old")]) [forward] = .ok seen ∧
      seen.get? "first" = some (.text "old") ∧ seen.get? "later" = some (.text "old") ∧
      expandFields .empty nowhere (.ofList [("later", .text "old")])
        ([forward] ++ [⟨"later", .literal (.text "new")⟩]) =
          .ok (.ofList [("later", .text "new"), ("first", .text "old")]) := by
  have hexpand : expandText .empty (nowhere.part 0) "first" "\x7b\x7b later \x7d\x7d"
      (.ofList [("later", .text "old")]) = .ok "old" := eq_ok_of_toOption (by decide +kernel)
  have hseen : expandFields .empty nowhere (.ofList [("later", .text "old")]) [forward] =
      .ok (.ofList [("later", .text "old"), ("first", .text "old")]) := by
    rw [forward, expandFields_cons_of_gives (.expression _ _ hexpand)]
    rfl
  obtain ⟨-, hcausal⟩ := expandFields_causal .empty nowhere (.ofList [("later", .text "old")])
    [forward] [⟨"later", .literal (.text "new")⟩]
  obtain ⟨hbefore, hrun⟩ := hcausal _ hseen
  exact ⟨_, hseen, rfl, hbefore "later" (by decide), hrun _ _ rfl⟩

/-- **The shape of what definitions are resolved to.** The names are distinct; those that were there
come first, then the others in the order of their first definitions. An entry whose name is not
defined keeps its place and its value, and a name that is defined has the value of its last
definition. -/
theorem expandFields_shape {registry : Registry} {around : Surroundings} {fields out : Fields}
    {definitions : List Definition}
    (h : expandFields registry around fields definitions = .ok out) :
    out.keys.Nodup ∧
    out.keys =
      fields.keys ++ ((definedNames definitions).filter (· ∉ fields.keys)).eraseDups ∧
    (∀ (i : Nat) (name : String) (field : Field),
      fields.entries[i]? = some (name, field) → name ∉ definedNames definitions →
      out.entries[i]? = some (name, field)) ∧
    ∀ name ∈ definedNames definitions,
      ∃ before d after, definitions = before ++ d :: after ∧ d.name = name ∧
        name ∉ definedNames after ∧
        ∃ seen value, expandFields registry around fields before = .ok seen ∧
          Gives (expandText registry (around.part before.length)) seen d value ∧
          out.get? name = some value := by
  refine ⟨out.nodup_keys, keys_of_expandFields h, ?_, ?_⟩
  · intro i name field hentry hname
    exact getElem?_of_expandFields h hname hentry
  · intro name hname
    exact exists_last_of_expandFields h hname

/-- Fields to begin with, one of which is defined again. -/
def givenFields : Fields := .ofList [("b", .flag true), ("a", .text "1")]

/-- A field that is defined twice, by expressions that see what there is at each point. -/
def repeatedly : List Definition :=
  [⟨"b", .expression "\x7b\x7b c \x7d\x7d"⟩, ⟨"c", .literal (.list ["x"])⟩,
    ⟨"b", .expression "\x7b\x7b a \x7d\x7d\x7b\x7b c \x7d\x7d\x7b\x7b b \x7d\x7d"⟩]

/-- What they are resolved to. -/
def resolvedFields : Fields :=
  .ofList [("b", .text "1[x]"), ("a", .text "1"), ("c", .list ["x"])]

theorem expandFields_repeatedly :
    expandFields .empty nowhere givenFields repeatedly = .ok resolvedFields := by
  have hfirst : expandText .empty (nowhere.part 0) "b" "\x7b\x7b c \x7d\x7d" givenFields =
      .ok "" :=
    eq_ok_of_toOption (by decide +kernel)
  have hlast : expandText .empty (((nowhere.later 1).later 1).part 0) "b"
      "\x7b\x7b a \x7d\x7d\x7b\x7b c \x7d\x7d\x7b\x7b b \x7d\x7d"
      ((givenFields.insert "b" (.text "")).insert "c" (.list ["x"])) = .ok "1[x]" :=
    eq_ok_of_toOption (by decide +kernel)
  rw [repeatedly, expandFields_cons_of_gives (.expression _ _ hfirst),
    expandFields_cons_of_gives (.literal _ _), expandFields_cons_of_gives (.expression _ _ hlast)]
  rfl

/-- The field that is defined twice stays in front and has its last value, the new one follows. -/
theorem expandFields_shape_repeatedly :
    expandFields .empty nowhere givenFields repeatedly = .ok resolvedFields ∧
    resolvedFields.keys = ["b", "a"] ++ ["c"] ∧
    resolvedFields.entries[1]? = some ("a", .text "1") ∧
    ∃ before d after, repeatedly = before ++ d :: after ∧ d.name = "b" ∧
      "b" ∉ definedNames after ∧
      ∃ seen value, expandFields .empty nowhere givenFields before = .ok seen ∧
        Gives (expandText .empty (nowhere.part before.length)) seen d value ∧
        resolvedFields.get? "b" = some value := by
  obtain ⟨-, hkeys, hplaces, hvalues⟩ := expandFields_shape expandFields_repeatedly
  exact ⟨expandFields_repeatedly, hkeys,
    hplaces 1 "a" (.text "1") rfl (by decide), hvalues "b" (by decide)⟩

end Scaffold.Expansion
