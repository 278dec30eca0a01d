import Scaffold.Template.Operators
import Scaffold.Template.Functions

/-!
# What filters take

A filter gets a value and named arguments. The functions here read the value and the arguments as
what the filter needs, and fail with the name of the kind that was expected.
-/

namespace Scaffold.Template

/-- Computes a value from a value and arguments. -/
abbrev Filter := Value → Args → Except Failure Value

namespace Filter

/-! ## Kinds of values -/

/-- The items of a list. -/
def items? : Value → Option (List Value)
  | .array items => some items
  | _ => none

/-- The truth value that a value is. -/
def bool? : Value → Option Bool
  | .bool b => some b
  | _ => none

/-- The number that a value is, as a double. -/
def double? : Value → Option Float
  | .number n => some n.toFloat
  | _ => none

/-- The whole number that a value is, between two bounds. -/
def whole? (least greatest : Int) : Value → Option Int
  | .number (.int n) => if least ≤ n ∧ n ≤ greatest then some n else none
  | _ => none

/-- The natural number of 64 bits that a value is. -/
def natural? (v : Value) : Option Nat := (whole? 0 (Nat.pow 2 64 - 1) v).map Int.toNat

/-! ## The value that is filtered -/

/-- The value as what a filter works on. -/
def input {α : Type} (filter kind : String) (as? : Value → Option α) (v : Value) :
    Except Failure α :=
  match as? v with
  | some a => .ok a
  | none => .error (.filterInput filter v kind)

/-- The value as a text. -/
def textInput (filter : String) : Value → Except Failure String :=
  input filter "String" Value.string?

/-- The value as a list. -/
def listInput (filter : String) : Value → Except Failure (List Value) :=
  input filter "Vec<Value>" items?

/-- The value as a double. -/
def doubleInput (filter : String) : Value → Except Failure Float := input filter "f64" double?

/-! ## Arguments -/

/-- An argument as what a filter needs, if it is there; `blame` is the name that messages give to
the filter. -/
def arg? {α : Type} (blame param kind : String) (as? : Value → Option α) (args : Args) :
    Except Failure (Option α) :=
  match lookupEntry param args with
  | none => .ok none
  | some v =>
    match as? v with
    | some a => .ok (some a)
    | none => .error (.filterArgument blame param v kind)

/-- An argument as a text, if it is there. -/
def textArg? (filter param : String) : Args → Except Failure (Option String) :=
  arg? filter param "String" Value.string?

/-- An argument as a truth value, false if it is not there. -/
def flagArg (filter param : String) (args : Args) : Except Failure Bool := do
  let b ← arg? filter param "bool" bool? args
  pure (b.getD false)

/-- An argument that must be there, with the failure for when it is not. -/
def required {α : Type} (missing : Failure) : Option α → Except Failure α
  | some a => .ok a
  | none => .error missing

/-- Line breaks and tabs that an argument spells out with a backslash. -/
def unescaped (s : String) : String :=
  Text.replaceAll "\\t" "\t" (Text.replaceAll "\\n" "\n" s)

/-- A filter on texts without arguments. -/
def ofText (filter : String) (f : String → String) : Filter := fun v _ => do
  let s ← textInput filter v
  pure (.string (f s))

end Filter

end Scaffold.Template
