import Scaffold.Template.Filter.Text
import Scaffold.Template.Filter.List
import Scaffold.Template.Filter.Date
import Scaffold.Template.Filter.Number

/-!
# The catalog of filters

Filters that work on values of several kinds, and the filter of a name.
-/

namespace Scaffold.Template.Filter

/-- How many items, entries or characters there are. -/
def length : Filter := fun v _ =>
  match v with
  | .array items => .ok (.number (.int items.length))
  | .object entries => .ok (.number (.int entries.length))
  | .string s => .ok (.number (.int s.length))
  | _ => .error
    (.own "Filter `length` was used on a value that isn't an array, an object, or a string.")

/-- A list or text backwards. -/
def reverse : Filter := fun v _ =>
  match v with
  | .array items => .ok (.array items.reverse)
  | .string s => .ok (.string (onChars List.reverse s))
  | _ => .error (.own "Filter `reverse` was used on a value that isn't an array or a string.")

/-- The JSON text of a value. -/
def jsonEncode : Filter := fun v args =>
  match lookupEntry "pretty" args with
  | some (.bool true) => .ok (.string (Json.pretty v))
  | _ => .ok (.string (Json.compact v))

/-- The text that a value prints as. -/
def asText : Filter := fun v _ => .ok (.string v.text)

/-- The value of a key of a map. -/
def get : Filter := fun v args => do
  let key ← textArg? "get" "key" args
  let key ← required (.own "The `get` filter has to have an `key` argument") key
  match v with
  | .object entries =>
    match lookupEntry key entries, lookupEntry "default" args with
    | some found, _ => pure found
    | none, some fallback => pure fallback
    | none, none =>
      .error (.own s!"Filter `get` tried to get key `{key}` but it wasn't found")
  | _ => .error (.own "Filter `get` was used on a value that isn't an object")

/-- The filter of a name. -/
def find? (name : String) : Option Filter :=
  match name with
  | "length" => some length
  | "reverse" => some reverse
  | "json_encode" => some jsonEncode
  | "as_str" => some asText
  | "get" => some get
  | "date" => some date
  | _ => findText? name <|> findList? name <|> findNumber? name

end Scaffold.Template.Filter
