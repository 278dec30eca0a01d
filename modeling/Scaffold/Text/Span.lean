/-!
# Spans of code points

Character properties are tables of spans. A span is an arithmetic progression of code points, so
that alternating runs such as upper and lower case pairs take one entry. A shift is a span with the
place it is moved to, an expansion a single code point with the several that replace it.
-/

namespace Scaffold.Text

/-- The code points `first`, `first + step`, … that do not exceed `last`. -/
structure Span where
  first : Nat
  last : Nat
  step : Nat
  deriving Repr, DecidableEq

/-- Whether a code point lies in the span. -/
def Span.has (s : Span) (n : Nat) : Bool :=
  s.first ≤ n && n ≤ s.last && (n - s.first) % s.step == 0

/-- Whether a code point lies in one of the spans. -/
def inSpans (table : List Span) (n : Nat) : Bool :=
  table.any (·.has n)

/-- A span whose code points map to those that start at `target`, distances kept. -/
structure Shift where
  first : Nat
  last : Nat
  step : Nat
  target : Nat
  deriving Repr, DecidableEq

/-- The image of a code point under the shift, if it lies in the span. -/
def Shift.image? (s : Shift) (n : Nat) : Option Nat :=
  if Span.has ⟨s.first, s.last, s.step⟩ n then some (s.target + (n - s.first)) else none

/-- A code point that maps to several. -/
structure Expansion where
  point : Nat
  image : List Nat
  deriving Repr, DecidableEq

/-- The image of a code point under one-to-one shifts and listed expansions; a code point that
neither table mentions maps to itself. -/
def mapPoint (shifts : List Shift) (expansions : List Expansion) (n : Nat) : List Nat :=
  match expansions.find? (·.point == n) with
  | some e => e.image
  | none =>
    match shifts.findSome? (·.image? n) with
    | some m => [m]
    | none => [n]

end Scaffold.Text
