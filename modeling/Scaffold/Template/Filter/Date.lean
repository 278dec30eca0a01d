import Scaffold.Calendar.Moment
import Scaffold.Template.Describe
import Scaffold.Template.Filter.Basic

/-!
# The filter on dates

A date is given in seconds since the beginning of 1970, or as a text with or without a time, and
written after a pattern. Clocks of other places than the prime meridian are not known.
-/

namespace Scaffold.Template.Filter

/-- The pattern that dates are written after if none is given. -/
def datePattern : String := "%Y-%m-%d"

/-- The names of the clocks at the prime meridian. -/
def primeMeridianNames : List String :=
  ["UTC", "GMT", "UCT", "Zulu", "Universal", "Greenwich", "Etc/UTC", "Etc/GMT", "Etc/UCT",
    "Etc/Zulu", "Etc/Universal", "Etc/Greenwich"]

mutual

/-- A value with the name of its kind. -/
def describeValue : Value → String
  | .null => "Null"
  | .bool b => "Bool(" ++ describeBool b ++ ")"
  | .number (.int n) => "Number(" ++ Decimal.integerText n ++ ")"
  | .number (.float x) => "Number(" ++ Decimal.floatText .json x ++ ")"
  | .string s => "String(" ++ describeText s ++ ")"
  | .array items => "Array " ++ describeList (describeItems items)
  | .object entries =>
    "Object \x7b" ++ ", ".intercalate (describeEntries entries) ++ "\x7d"

/-- The items of a list with the names of their kinds. -/
def describeItems : List Value → List String
  | [] => []
  | v :: rest => describeValue v :: describeItems rest

/-- The entries of a map with the names of their kinds. -/
def describeEntries : List (String × Value) → List String
  | [] => []
  | (k, v) :: rest => (describeText k ++ ": " ++ describeValue v) :: describeEntries rest

end

/-- The moment that a value gives. -/
def momentOf (v : Value) : Except Failure Moment :=
  match v with
  | .number (.int n) =>
    if n < Nat.pow 2 63 then .ok (.ofSeconds n)
    else .error (.own ("Filter `date` was invoked on a float: " ++ describeValue v))
  | .number _ => .error (.own ("Filter `date` was invoked on a float: " ++ describeValue v))
  | .string s =>
    if s.contains 'T' then
      match Moment.whole? Moment.reader s with
      | some m => .ok m
      | none => .error (.own ("Error parsing `" ++ describeText s ++
          "` as rfc3339 date or naive datetime"))
    else
      match Moment.whole? Moment.shortDate s with
      | some date => .ok (.ofSeconds (date.toDays * 86400))
      | none => .error (.own ("Error parsing `" ++ describeText s ++ "` as YYYY-MM-DD date"))
  | v => .error (.own ("Filter `date` received an incorrect type for arg `value`: got `" ++
      describeValue v ++ "` but expected i64|u64|String"))

/-- Writes a date after a pattern. -/
def date : Filter := fun v args => do
  let pattern ← textArg? "date" "format" args
  let pattern := pattern.getD datePattern
  if ((Moment.ofSeconds 0).format? pattern).isNone then
    .error (.own s!"Invalid date format `{pattern}`")
  let zone ← textArg? "date" "timezone" args
  match zone with
  | some zone =>
    if primeMeridianNames.contains zone then pure ()
    else .error (.own s!"Error parsing `{zone}` as a timezone")
  | none => pure ()
  let m ← momentOf v
  let m : Moment := if zone.isSome then ⟨m.seconds, m.nanoseconds, 0, "UTC"⟩ else m
  pure (.string ((m.format? pattern).getD ""))

end Scaffold.Template.Filter
