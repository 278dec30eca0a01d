import Scaffold.Decimal.Format

/-!
# Reading numbers

Digit strings in any base up to 36, and decimals with a fraction and an exponent. A decimal is
rounded to the nearest double; exponents that put it beyond every double are decided without being
raised to.
-/

namespace Scaffold.Decimal

/-- The value of a digit of a base up to 36; letters count regardless of case. -/
def digitValue? (base : Nat) (c : Char) : Option Nat :=
  let n := c.toNat
  let v :=
    if c.isDigit then some (n - 48)
    else if 'a' ≤ c ∧ c ≤ 'z' then some (n - 87)
    else if 'A' ≤ c ∧ c ≤ 'Z' then some (n - 55)
    else none
  v.filter (· < base)

/-- The number that digits stand for after those that make up `acc`. -/
def digitsValue? (base acc : Nat) : List Char → Option Nat
  | [] => some acc
  | c :: cs => (digitValue? base c).bind fun d => digitsValue? base (acc * base + d) cs

/-- The number that a non-empty string of digits stands for. -/
def natural? (base : Nat) (cs : List Char) : Option Nat :=
  if cs.isEmpty then none else digitsValue? base 0 cs

/-- A natural number with an optional sign in front. -/
def integer? (base : Nat) : List Char → Option Int
  | '-' :: cs => (natural? base cs).map fun n => -(n : Int)
  | '+' :: cs => (natural? base cs).map Int.ofNat
  | cs => (natural? base cs).map Int.ofNat

/-- The double nearest to `coefficient · 10^exponent`. -/
def nearestFloat (coefficient : Nat) (exponent : Int) : Float :=
  let size : Int := (Nat.toDigits 10 coefficient).length + exponent
  if coefficient = 0 then 0
  else if size > 400 then Float.ofScientific 1 false 400
  else if size < -400 then 0
  else if exponent < 0 then Float.ofScientific coefficient true exponent.natAbs
  else Float.ofScientific coefficient false exponent.natAbs

/-- An unsigned decimal: digits with at most one point among them and at least one digit, then
perhaps an exponent. -/
def unsignedFloat? (cs : List Char) : Option Float :=
  let isExponent (c : Char) : Bool := c == 'e' || c == 'E'
  let mantissa := cs.takeWhile (!isExponent ·)
  let exponent? : Option Int := match cs.dropWhile (!isExponent ·) with
    | [] => some 0
    | _ :: e => integer? 10 e
  let whole := mantissa.takeWhile (· != '.')
  let fraction := (mantissa.dropWhile (· != '.')).drop 1
  match natural? 10 (whole ++ fraction), exponent? with
  | some n, some e => some (nearestFloat n (e - fraction.length))
  | _, _ => none

/-- A decimal with an optional sign. -/
def float? : List Char → Option Float
  | '-' :: cs => (unsignedFloat? cs).map fun x => -x
  | '+' :: cs => unsignedFloat? cs
  | cs => unsignedFloat? cs

theorem digitsValue?_append (base acc : Nat) (cs ds : List Char) :
    digitsValue? base acc (cs ++ ds) =
      (digitsValue? base acc cs).bind fun n => digitsValue? base n ds := by
  induction cs generalizing acc with
  | nil => rfl
  | cons c cs ih =>
    simp only [List.cons_append, digitsValue?]
    cases digitValue? base c with
    | none => rfl
    | some d => simpa using ih _

end Scaffold.Decimal
