import Scaffold.Template.Operators
import Scaffold.Text.Pattern.Reader

/-!
# Testers

The tests that a variable can be put to. A tester gets the value, or nothing if the variable is
undefined, and the arguments; how many arguments it takes is checked first, then whether there is a
value.
-/

namespace Scaffold.Template

/-- Decides something about a variable that may be undefined. -/
abbrev Tester := Option Value → List Value → Except Failure Bool

namespace Tester

/-- Checks that there are no more arguments than allowed. -/
def checkArgs (name : String) (most : Nat) (args : List Value) : Except Failure Unit :=
  if most = 0 ∧ args.length > 0 then
    .error (.own s!"Tester `{name}` was called with some args but this test doesn't take args")
  else if args.length > most then
    let given := args.length
    .error (.own s!"Tester `{name}` was called with {given} args, the max number is {most}")
  else .ok ()

/-- The value that is tested, which must be there. -/
def defined (name : String) : Option Value → Except Failure Value
  | some v => .ok v
  | none => .error (.own s!"Tester `{name}` was called on an undefined variable")

/-- The text of a value; `part` tells which one in messages. -/
def text (name part : String) : Option Value → Except Failure String
  | some (.string s) => .ok s
  | _ => .error (.own s!"Tester `{name}` was called {part} that isn't a string")

/-- The number of a value; `part` tells which one in messages. -/
def number (name part : String) : Option Value → Except Failure Float
  | some (.number n) => .ok n.toFloat
  | _ => .error (.own s!"Tester `{name}` was called {part} that isn't a number")

/-- A tester without arguments that looks at the kind of the value only. -/
def ofKind (name : String) (p : Value → Bool) : Tester := fun v args => do
  checkArgs name 0 args
  let v ← defined name v
  pure (p v)

/-- A tester that compares two texts. -/
def ofTexts (name : String) (p : List Char → List Char → Bool) : Tester := fun v args => do
  checkArgs name 1 args
  let v ← defined name v
  let s ← text name "on a variable" (some v)
  let t ← text name "with a parameter" args.head?
  pure (p t.toList s.toList)

/-- Whether a number is not divisible by two. -/
def odd : Tester := fun v args => do
  checkArgs "odd" 0 args
  let v ← defined "odd" v
  let x ← number "odd" "on a variable" (some v)
  pure (remainder x 2 != 0)

/-- Whether a number is divisible by two. -/
def even : Tester := fun v args => do
  checkArgs "even" 0 args
  let v ← defined "even" v
  let isOdd ← odd (some v) args
  pure !isOdd

/-- Whether a number is divisible by another. -/
def divisible : Tester := fun v args => do
  checkArgs "divisibleby" 1 args
  let v ← defined "divisibleby" v
  let x ← number "divisibleby" "on a variable" (some v)
  let y ← number "divisibleby" "with a parameter" args.head?
  pure (remainder x y == 0)

/-- Whether a text, list or map contains something. -/
def containing : Tester := fun v args => do
  checkArgs "containing" 1 args
  let v ← defined "containing" v
  match v with
  | .string s =>
    let part ← text "containing" "with a parameter" args.head?
    pure (Text.contains s part)
  | .array items => pure (args.any fun arg => items.any (·.same arg))
  | .object entries =>
    let key ← text "containing" "with a parameter" args.head?
    pure (lookupEntry key entries).isSome
  | _ => .error (.own "Tester `containing` can only be used on string, array or map")

/-- Whether a part of a text matches a pattern. -/
def matching : Tester := fun v args => do
  checkArgs "matching" 1 args
  let v ← defined "matching" v
  let s ← text "matching" "on a variable" (some v)
  let written ← text "matching" "with a parameter" args.head?
  match Text.Pattern.ofText? written with
  | some pattern => pure (pattern.matchesIn s)
  | none => .error (.own s!"Tester `matching`: Invalid regular expression: {written}")

/-- The tester of a name. -/
def find? (name : String) : Option Tester :=
  match name with
  | "defined" => some fun v args => do
    checkArgs "defined" 0 args
    pure v.isSome
  | "undefined" => some fun v args => do
    checkArgs "undefined" 0 args
    pure v.isNone
  | "odd" => some odd
  | "even" => some even
  | "string" => some (ofKind "string" fun v => v.string?.isSome)
  | "number" => some (ofKind "number" Value.isNumber)
  | "divisibleby" => some divisible
  | "iterable" => some (ofKind "iterable" fun
    | .array _ | .object _ => true
    | _ => false)
  | "object" => some (ofKind "object" fun
    | .object _ => true
    | _ => false)
  | "starting_with" => some (ofTexts "starting_with" Text.startsWith)
  | "ending_with" => some (ofTexts "ending_with" Text.endsWith)
  | "containing" => some containing
  | "matching" => some matching
  | _ => none

end Tester

end Scaffold.Template
