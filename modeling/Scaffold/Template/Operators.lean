import Scaffold.Template.Failure
import Scaffold.Template.Syntax
import Scaffold.Text.Search

/-!
# Operators on values

Arithmetic, comparison, membership and concatenation, given the values of the operands. Whole
numbers are those of 64 bits: sums, differences and products that do not fit are failures, quotients
are always computed on doubles. A result that is not a number, such as a quotient by zero, is
`none`.
-/

namespace Scaffold.Template

/-! ## Arithmetic -/

/-- Whether a whole number fits 64 bits with a sign. -/
def fitsWord (n : Int) : Bool := -(Nat.pow 2 63) ≤ n && n < Nat.pow 2 63

/-- The nearest whole number of 64 bits to a double without a fraction. -/
def saturated (x : Float) : Int := x.toInt64.toInt

/-- A double as a number, if it is finite. -/
def finite? (x : Float) : Option Number := if x.isFinite then some (.float x) else none

/-- The magnitude `m · 2^q` of a finite double, with its sign. -/
def parts (x : Float) : Bool × Nat × Int :=
  match Decimal.Shape.ofFloat x with
  | .finite negative b => (negative, b.significand, b.exponent)
  | _ => (false, 0, 0)

/-- The remainder of a division that rounds toward zero; it has the sign of the dividend. -/
def remainder (x y : Float) : Float :=
  if !x.isFinite || y.isNaN || y == 0 then 0.0 / 0.0
  else if !y.isFinite then x
  else
    let (negative, m, p) := parts x
    let (_, n, q) := parts y
    let low := min p q
    let r := (m * Nat.pow 2 (p - low).toNat) % (n * Nat.pow 2 (q - low).toNat)
    let size := Float.scaleB (Float.ofNat r) low
    if negative then -size else size

/-- An operator as it is written in messages about overflow. -/
def MathOp.sign : MathOp → String
  | .add => "+"
  | .sub => "-"
  | .mul => "x"
  | .div => "/"
  | .mod => "%"

/-- Sum, difference or product of whole numbers, if it fits. -/
def wholeResult (op : MathOp) (l r result : Int) : Except Failure (Option Number) :=
  if fitsWord result then .ok (some (.int result))
  else .error (.overflow (Decimal.integerText l) op.sign (Decimal.integerText r))

/-- A quotient: a whole number if there is nothing behind the point. -/
def quotient (l r : Float) : Option Number :=
  let q := l / r
  if q.isNaN then none
  else if q.isFinite && q.round == q then some (.int (saturated q))
  else finite? q

/-- Applies an operator; `lhs` and `rhs` are the operands as they are shown in messages. -/
def arithmetic (op : MathOp) (lhs rhs : Unit → String) : (l r : Option Number) →
    Except Failure (Option Number)
  | some (.int l), some (.int r) =>
    match op with
    | .add => wholeResult op l r (l + r)
    | .sub => wholeResult op l r (l - r)
    | .mul => wholeResult op l r (l * r)
    | .div => .ok (quotient (Float.ofInt l) (Float.ofInt r))
    | .mod =>
      if r = 0 then .error (.moduloByZero (lhs ()) (rhs ())) else .ok (some (.int (l.tmod r)))
  | some l, some r =>
    match op with
    | .add => .ok (finite? (l.toFloat + r.toFloat))
    | .sub => .ok (finite? (l.toFloat - r.toFloat))
    | .mul => .ok (finite? (l.toFloat * r.toFloat))
    | .div => .ok (quotient l.toFloat r.toFloat)
    | .mod => .ok (finite? (remainder l.toFloat r.toFloat))
  | _, _ => .ok none

/-- The value of an arithmetic result. -/
def arithmeticValue : Option Number → Value
  | some n => .number n
  | none => .string "NaN"

/-- Whether an arithmetic result counts as true. -/
def arithmeticTruth : Option Number → Bool
  | some n => (Value.number n).truthy
  | none => false

/-! ## Comparison -/

/-- Compares two numbers by size. -/
def compareSizes (op : CompareOp) : (l r : Option Number) → Except Failure Bool
  | some l, some r =>
    let (l, r) := (l.toFloat, r.toFloat)
    .ok (match op with
      | .lt => l < r
      | .le => l ≤ r
      | .gt => l > r
      | .ge => l ≥ r
      | .eq => l == r
      | .ne => l != r)
  | _, _ => .error .comparisonToNaN

/-- Compares two values for being equal or different. A number compares with numbers only: with
anything else there is no answer. -/
def compareValues (different : Bool) (l r : Value) : Option Bool :=
  match l, r with
  | .number l, .number r => some ((l.toFloat == r.toFloat) != different)
  | .number _, _ | _, .number _ => none
  | l, r => some (l.same r != different)

/-! ## Membership -/

mutual

/-- A value as it is shown when it is no key to look for. -/
def shown : Value → String
  | .null => "Null"
  | .bool b => s!"Bool({b})"
  | .number n => "Number(" ++ n.json ++ ")"
  | .string s => "String(" ++ Json.quoted s ++ ")"
  | .array items => "Array [" ++ ", ".intercalate (shownItems items) ++ "]"
  | .object entries => "Object \x7b" ++ ", ".intercalate (shownEntries entries) ++ "\x7d"

/-- The items of a list as they are shown. -/
def shownItems : List Value → List String
  | [] => []
  | v :: vs => shown v :: shownItems vs

/-- The entries of a map as they are shown. -/
def shownEntries : List (String × Value) → List String
  | [] => []
  | (k, v) :: rest => (Json.quoted k ++ ": " ++ shown v) :: shownEntries rest

end

/-- Whether an item is a member of a list, a key of a map or a part of a text. -/
def isMember (item container : Value) : Except Failure Bool :=
  match container, item with
  | .array items, _ => .ok (items.any (·.same item))
  | .string s, .string part => .ok (Text.contains s part)
  | .string _, _ => .error (.itemNotText (shown item) "string")
  | .object entries, .string key => .ok (lookupEntry key entries).isSome
  | .object _, _ => .error (.itemNotText (shown item) "object")
  | _, _ => .error .containerKind

/-! ## Concatenation -/

/-- The text of a value in a concatenation, which takes texts and numbers only. -/
def concatText? : Value → Option String
  | .string s => some s
  | .number n => some n.json
  | _ => none

end Scaffold.Template
