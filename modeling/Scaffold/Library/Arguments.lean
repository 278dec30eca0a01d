import Scaffold.Template.Functions
import Scaffold.Library.Tokens

/-!
# Arguments of library functions

A text argument may be missing or null where it is optional. A list argument is a list of texts or a
list token.
-/

namespace Scaffold.Library

open Template

/-- The text of an optional argument. -/
def optionalText (function : String) (args : Args) (name : String) :
    Except Trace (Option String) :=
  match lookupEntry name args with
  | none | some .null => .ok none
  | some (.string s) => .ok (some s)
  | some v =>
    Function.fail (s!"{function} expects `{name}` to be a string, got " ++ Json.compact v)

/-- The text of an optional argument, empty if there is none. -/
def textOrEmpty (function : String) (args : Args) (name : String) : Except Trace String := do
  let s ← optionalText function args name
  .ok (s.getD "")

/-- The text of an argument that has to be given. -/
def requiredText (function : String) (args : Args) (name : String) : Except Trace String := do
  match ← optionalText function args name with
  | some s => .ok s
  | none => Function.fail s!"{function} requires a `{name}` argument"

/-- The texts of some values, if they all are texts. -/
def textsOf? : List Value → Option (List String)
  | [] => some []
  | .string s :: rest => (textsOf? rest).map (s :: ·)
  | _ :: _ => none

theorem textsOf?_map (items : List String) : textsOf? (items.map .string) = some items := by
  induction items with
  | nil => rfl
  | cons s items ih =>
    rw [List.map_cons, textsOf?, ih]
    rfl

/-- The texts of a list or list token. -/
def textList (function : String) (v : Value) : Except Trace (List String) :=
  match v with
  | .null => .ok []
  | .string token => .ok (unpack token)
  | .array values =>
    match textsOf? values with
    | some texts => .ok texts
    | none => Function.fail s!"{function} expects a list of strings"
  | _ => Function.fail s!"{function} expects a list of strings"

end Scaffold.Library
