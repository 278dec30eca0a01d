import Scaffold.Template.Filter.Basic
import Scaffold.Text.Blank
import Scaffold.Text.Search
import Scaffold.Decimal.Read

/-!
# Filters on numbers

Numbers out of texts, rounding, and numbers as people write them.
-/

namespace Scaffold.Template.Filter

/-! ## Numbers out of texts -/

/-- A double as a text may spell it, the values that are not finite included. -/
def spelledFloat? (cs : List Char) : Option Float :=
  let (negative, rest) := match cs with
    | '-' :: rest => (true, rest)
    | '+' :: rest => (false, rest)
    | rest => (false, rest)
  let small := rest.map Char.toLower
  let size : Option Float :=
    if small = "inf".toList ∨ small = "infinity".toList then some (1.0 / 0.0)
    else if small = "nan".toList then some (0.0 / 0.0)
    else Decimal.unsignedFloat? rest
  size.map fun x => if negative then -x else x

/-- Drops the sign of a base at the start, as often as it is there. -/
def withoutBase (base : Nat) (cs : List Char) : List Char :=
  let drop (pat : String) : List Char :=
    (Text.pieces pat.toList cs).dropWhile (·.isEmpty) |> pat.toList.intercalate
  match base with
  | 2 => drop "0b"
  | 8 => drop "0o"
  | 16 => drop "0x"
  | _ => cs

/-- A whole number, read from a text in a base if need be. -/
def int : Filter := fun v args => do
  let fallback ← arg? "int" "default" "i64" (whole? (-(Nat.pow 2 63)) (Nat.pow 2 63 - 1)) args
  let base ← arg? "int" "base" "u32" (whole? 0 (Nat.pow 2 32 - 1)) args
  let fallback := fallback.getD 0
  let base := (base.getD 10).toNat
  match v with
  | .string s =>
    let cs := withoutBase base (Text.trim s.toList)
    match (Decimal.integer? base cs).filter fitsWord with
    | some n => pure (.number (.int n))
    | none =>
      if cs.contains '.' then
        match spelledFloat? cs with
        | some x => pure (.number (.int (saturated x)))
        | none => pure (.number (.int fallback))
      else pure (.number (.int fallback))
  | .number n => pure (.number (.int (saturated n.toFloat)))
  | _ => .error (.own "Filter `int` received an unexpected type")

/-- A double, read from a text if need be. -/
def float : Filter := fun v args => do
  let fallback ← arg? "float" "default" "f64" double? args
  match v with
  | .string s =>
    let x := (spelledFloat? (Text.trim s.toList)).getD (fallback.getD 0)
    pure (.ofFloat x)
  | .number n => pure (.ofFloat n.toFloat)
  | _ => .error (.own "Filter `float` received an unexpected type")

/-! ## Arithmetic -/

/-- The size of a number. -/
def abs : Filter := fun v _ =>
  match v with
  | .number (.int n) => .ok (.number (.int n.natAbs))
  | .number (.float x) => .ok (.ofFloat x.abs)
  | _ => .error (.own "Filter `abs` was used on a value that isn't a number.")

/-- A power of ten. -/
def powerOfTen (n : Int) : Float :=
  if n ≥ 0 then Float.ofScientific 1 false (min n.toNat 400)
  else Float.ofScientific 1 true (min n.natAbs 400)

/-- A number rounded to some places, to the nearest or in one direction. -/
def round : Filter := fun v args => do
  let x ← doubleInput "round" v
  let method ← textArg? "round" "method" args
  let places ← arg? "round" "precision" "i32" (whole? (-(Nat.pow 2 31)) (Nat.pow 2 31 - 1)) args
  let unit := powerOfTen (places.getD 0)
  match method.getD "common" with
  | "common" => pure (.ofFloat ((unit * x).round / unit))
  | "ceil" => pure (.ofFloat ((unit * x).ceil / unit))
  | "floor" => pure (.ofFloat ((unit * x).floor / unit))
  | other =>
    .error (.own ("Filter `round` received an incorrect value for arg `method`: got `" ++
      Json.quoted other ++ "`, only common, ceil and floor are allowed"))

/-! ## As people write them -/

/-- The ending of a noun that a number counts. -/
def pluralize : Filter := fun v args => do
  let x ← doubleInput "pluralize" v
  let plural ← textArg? "pluralize" "plural" args
  let singular ← textArg? "pluralize" "singular" args
  let isOne := (x.abs - 1).abs ≤ Float.ofScientific 2220446049250313 true 31
  pure (.string (if isOne then singular.getD "" else plural.getD "s"))

/-- Two decimal places of a quotient, or none if the division leaves nothing. -/
def twoPlaces (n unit : Nat) : String :=
  if n % unit = 0 then Decimal.digits (n / unit)
  else
    let hundredths := (200 * n + unit) / (2 * unit)
    let cs := (Decimal.digits (hundredths % 100)).toList
    Decimal.digits (hundredths / 100) ++ "." ++
      String.ofList (List.replicate (2 - cs.length) '0' ++ cs)

/-- The largest unit of a list that a size reaches, each unit being 1024 of the one before. -/
def inUnits (n : Nat) (unit : Nat) : List String → String
  | [] => Decimal.digits n
  | [name] => twoPlaces n unit ++ " " ++ name
  | name :: names => if n < 1024 * unit then twoPlaces n unit ++ " " ++ name
      else inUnits n (1024 * unit) names

/-- A size in bytes in a unit that suits it. -/
def fileSize : Filter := fun v args => do
  let n ← input "filesizeformat" "usize" natural? v
  let binary ← flagArg "filesizeformat" "binary" args
  let units := if binary then ["B", "KiB", "MiB", "GiB", "TiB", "PiB", "EiB"]
    else ["B", "kB", "MB", "GB", "TB", "PB", "EB"]
  pure (.string (inUnits n 1 units))

/-- The filter on numbers of a name. -/
def findNumber? (name : String) : Option Filter :=
  match name with
  | "int" => some int
  | "float" => some float
  | "abs" => some abs
  | "round" => some round
  | "pluralize" => some pluralize
  | "filesizeformat" => some fileSize
  | _ => none

end Scaffold.Template.Filter
