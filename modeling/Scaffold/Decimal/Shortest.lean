/-!
# The shortest decimal of a double

A finite double is `m · 2^q`; the reals that round to it form an interval around it, ends included
when `m` is even. The shortest decimal is the point of the coarsest decimal grid that falls into the
interval, and of two such points the nearer one. A grid is only ever hit by one of the two
neighbours of the value on it, so the search tests these two on ever finer grids, in exact
arithmetic on natural numbers.
-/

namespace Scaffold.Decimal

/-- The non-negative number `significand · 2^exponent`. -/
structure Binary where
  significand : Nat
  exponent : Int
  deriving Repr, DecidableEq

/-- The non-negative number `coefficient · 10^exponent`. -/
structure Scaled where
  coefficient : Nat
  exponent : Int
  deriving Repr, DecidableEq

/-- What the bits of a double stand for. -/
inductive Shape where
  | nan
  | infinite (negative : Bool)
  | finite (negative : Bool) (magnitude : Binary)
  deriving Repr, DecidableEq

/-- Reads the sign, the exponent and the fraction off the bits of a double. -/
def Shape.ofBits (bits : Nat) : Shape :=
  let negative : Bool := bits / Nat.pow 2 63 % 2 == 1
  let exponent : Nat := bits / Nat.pow 2 52 % Nat.pow 2 11
  let fraction : Nat := bits % Nat.pow 2 52
  if exponent = 2047 then
    if fraction = 0 then .infinite negative else .nan
  else if exponent = 0 then .finite negative ⟨fraction, -1074⟩
  else .finite negative ⟨fraction + Nat.pow 2 52, (exponent : Int) - 1075⟩

/-- What a double stands for. -/
def Shape.ofFloat (x : Float) : Shape := Shape.ofBits x.toBits.toNat

/-- Numerator and denominator of `2^q / 10^e`. -/
def unitRatio (q e : Int) : Nat × Nat :=
  (Nat.pow 2 q.toNat * Nat.pow 10 (-e).toNat, Nat.pow 2 (-q).toNat * Nat.pow 10 e.toNat)

/-- Quarter units from the value down to the lower end of its interval: half the distance to the
double below, which is closer when the significand is the least one of its binade. -/
def Binary.lowerGap (b : Binary) : Nat :=
  if b.significand = Nat.pow 2 52 ∧ b.exponent ≠ -1074 then 1 else 2

/-- The point of the grid of multiples of `10^e` that rounds to the value, if there is one. -/
def Binary.onGrid? (b : Binary) (e : Int) : Option Nat :=
  let (num, den) := unitRatio (b.exponent - 2) e
  let low := (4 * b.significand - b.lowerGap) * num
  let value := 4 * b.significand * num
  let high := (4 * b.significand + 2) * num
  let inside (c : Nat) : Bool :=
    if b.significand % 2 = 0 then low ≤ c * den && c * den ≤ high
    else low < c * den && c * den < high
  let below := value / den
  match inside below, inside (below + 1) with
  | true, false => some below
  | false, true => some (below + 1)
  | false, false => none
  | true, true =>
    let down := value - below * den
    let up := (below + 1) * den - value
    some (if down < up || (down = up && below % 2 = 0) then below else below + 1)

/-- The first grid that is hit, going from multiples of `10^e` to finer ones; the last grid counts
as hit. -/
def Binary.searchGrids (b : Binary) : (fuel : Nat) → (e : Int) → Scaled
  | 0, e =>
    let (num, den) := unitRatio b.exponent e
    ⟨b.significand * num / den, e⟩
  | fuel + 1, e =>
    match b.onGrid? e with
    | some c => ⟨c, e⟩
    | none => b.searchGrids fuel (e - 1)

/-- The shortest decimal that rounds to the value. -/
def Binary.shortest (b : Binary) : Scaled :=
  if b.significand = 0 then ⟨0, 0⟩
  else
    let bits : Int := (b.significand.log2 + 1 : Nat)
    b.searchGrids 400 ((bits + b.exponent) * 30103 / 100000 + 1)

/-- A grid that is hit gives a point within the value's interval. -/
theorem Binary.searchGrids_of_onGrid? (b : Binary) (fuel : Nat) (e : Int) (c : Nat)
    (h : b.onGrid? e = some c) : b.searchGrids (fuel + 1) e = ⟨c, e⟩ := by
  simp [searchGrids, h]

end Scaffold.Decimal
