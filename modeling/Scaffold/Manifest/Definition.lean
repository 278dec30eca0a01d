import Scaffold.Field.Literal

/-!
# Field definitions

A definition gives a name either a literal value or an expression, a template that is expanded when
the field is defined. Definitions are written as one mapping or as a sequence of mappings; their
order is kept and a name may be defined again.
-/

namespace Scaffold

/-- What a field is defined as. -/
inductive Definition.Body where
  | literal (value : Field)
  | expression (template : String)

/-- The definition of a field. -/
structure Definition where
  name : String
  body : Definition.Body

namespace Definition

/-- The name that a key gives a field. Keys that are flags or collections give none. -/
def keyName? : Yaml.Value → Option String
  | .text s => some s
  | key =>
    match Field.ofYaml key with
    | .text s => some s
    | _ => none

/-- What a value defines a field as: an untagged text is an expression. -/
def bodyOf : Yaml.Value → Body
  | .text template => .expression template
  | value => .literal (Field.ofYaml value)

/-- The definitions of a mapping. -/
def ofEntries (entries : List (Yaml.Value × Yaml.Value)) : List Definition :=
  entries.filterMap fun (key, value) => (keyName? key).map fun name => ⟨name, bodyOf value⟩

/-- The definitions of a sequence; null counts as an empty mapping. -/
def ofItems? : List Yaml.Value → Option (List Definition)
  | [] => some []
  | .mapping entries :: rest => (ofItems? rest).map (ofEntries entries ++ ·)
  | .null :: rest => ofItems? rest
  | _ :: _ => none

/-- The reason why a sequence holds no definitions. -/
def itemReason : String := "each entry of `fields` must be a mapping"

/-- The reason why a value holds no definitions. -/
def formReason : String := "`fields` must be a mapping or a sequence of mappings"

/-- The definitions that a value holds. -/
def ofYaml : Yaml.Value → Except Yaml.Fault (List Definition)
  | .null => .ok []
  | .mapping entries => .ok (ofEntries entries)
  | .sequence items =>
    match ofItems? items with
    | some definitions => .ok definitions
    | none => .error (.form itemReason)
  | _ => .error (.form formReason)

/-- Reads the definitions that a node holds. -/
def decode (document : Yaml.Document) (depth : Nat) (n : Yaml.Node) :
    Yaml.Decode (List Definition) := do
  let value ← Yaml.decodeValue document depth n
  match ofYaml value with
  | .ok definitions => pure definitions
  | .error fault => Yaml.Decode.fail fault

/-- The definitions that a text holds. -/
def ofText (text : String) : Except Yaml.Fault (List Definition) :=
  let document := Yaml.Document.ofText text
  document.decode (decode document Yaml.depthLimit)

theorem ofItems?_append {as bs : List Yaml.Value} {ds es : List Definition}
    (ha : ofItems? as = some ds) (hb : ofItems? bs = some es) :
    ofItems? (as ++ bs) = some (ds ++ es) := by
  induction as generalizing ds with
  | nil =>
    simp only [ofItems?, Option.some.injEq] at ha
    simpa [← ha] using hb
  | cons v as ih =>
    cases v with
    | mapping entries =>
      simp only [ofItems?, Option.map_eq_some_iff] at ha
      obtain ⟨rest, hr, rfl⟩ := ha
      simp [ofItems?, ih hr]
    | null =>
      simp only [ofItems?] at ha
      simpa [ofItems?] using ih ha
    | _ => simp [ofItems?] at ha

end Definition

end Scaffold
