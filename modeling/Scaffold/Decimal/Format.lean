import Scaffold.Decimal.Shortest

/-!
# Writing numbers

A float is written with the digits of its shortest decimal. What remains to choose is gathered in
`Style`: which magnitudes are written with an exponent, what marks a whole number, how the exponent
and the values that are not finite look.
-/

namespace Scaffold.Decimal

/-- The decimal digits of a natural number. -/
def digits (n : Nat) : String := String.ofList (Nat.toDigits 10 n)

/-- The text of an integer. -/
def integerText (i : Int) : String :=
  match i with
  | .ofNat n => digits n
  | .negSucc n => "-" ++ digits (n + 1)

/-- How floats are written. -/
structure Style where
  /-- Positional notation is kept while the decimal point, counted from the first digit, lies
  within these bounds; without bounds it is always kept. -/
  positional : Option (Int × Int)
  /-- Follows the digits of a whole number in positional notation. -/
  wholeMark : String
  /-- Precedes an exponent that is not negative. -/
  exponentSign : String
  nan : String
  infinity : String

/-- Digits with a decimal point `point` places after the start of the digits. -/
def positionalText (style : Style) (ds : List Char) (point : Int) : String :=
  if point ≤ 0 then "0." ++ String.ofList (List.replicate (-point).toNat '0' ++ ds)
  else if ds.length ≤ point.toNat then
    String.ofList (ds ++ List.replicate (point.toNat - ds.length) '0') ++ style.wholeMark
  else String.ofList (ds.take point.toNat ++ '.' :: ds.drop point.toNat)

/-- One digit before the point, and an exponent. -/
def scientificText (style : Style) (ds : List Char) (point : Int) : String :=
  let exponent := point - 1
  let mantissa := match ds with
    | [] => []
    | [d] => [d]
    | d :: rest => d :: '.' :: rest
  String.ofList mantissa ++ "e" ++ (if exponent < 0 then "" else style.exponentSign) ++
    integerText exponent

/-- The text of a decimal. -/
def Scaled.text (style : Style) (d : Scaled) : String :=
  let ds := Nat.toDigits 10 d.coefficient
  let point : Int := ds.length + d.exponent
  match style.positional with
  | none => positionalText style ds point
  | some (least, greatest) =>
    if least ≤ point ∧ point ≤ greatest then positionalText style ds point
    else scientificText style ds point

/-- The text of a float. -/
def floatText (style : Style) (x : Float) : String :=
  match Shape.ofFloat x with
  | .nan => style.nan
  | .infinite negative => (if negative then "-" else "") ++ style.infinity
  | .finite negative b => (if negative then "-" else "") ++ b.shortest.text style

/-- Never an exponent, and whole numbers look like integers. -/
def Style.plain : Style :=
  { positional := none, wholeMark := "", exponentSign := "", nan := "NaN", infinity := "inf" }

/-- The style of JSON texts: an exponent from `1e+16` up and below `0.00001`. -/
def Style.json : Style :=
  { positional := some (-4, 16), wholeMark := ".0", exponentSign := "+", nan := "null",
    infinity := "null" }

/-- The style of YAML texts: as in JSON, but without a sign before a positive exponent. -/
def Style.yaml : Style :=
  { positional := some (-4, 16), wholeMark := ".0", exponentSign := "", nan := ".nan",
    infinity := ".inf" }

example : floatText .plain 1e21 = "1000000000000000000000" := by decide +kernel
example : floatText .json 1e16 = "1e+16" := by decide +kernel
example : floatText .yaml 0.00001 = "0.00001" := by decide +kernel

end Scaffold.Decimal
