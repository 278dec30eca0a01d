import Scaffold.Calendar
import Scaffold.Decimal.Read
import Scaffold.Text.Reader

/-!
# Reading dates and times

Dates are written year first with dashes, times of the day with colons, and the distance to the
prime meridian in hours and minutes. Numbers have a fixed width. `fixed_nil` says that there is none
where nothing is written.
-/

namespace Scaffold.Date

open Reader

/-- A time of the day, to the nanosecond. -/
structure Clock where
  hour : Nat
  minute : Nat
  second : Nat
  nanosecond : Nat
  deriving Repr, DecidableEq

/-- Takes a number of so many decimal digits. -/
def fixed (count : Nat) : Reader Nat := fun cs =>
  match Decimal.natural? 10 (cs.take count) with
  | some n => if count ≤ cs.length then some (n, cs.drop count) else none
  | none => none

/-- Takes a date of the calendar. -/
def reader : Reader Date := do
  let year ← fixed 4
  literal ['-']
  let month ← fixed 2
  literal ['-']
  let day ← fixed 2
  let date : Date := ⟨year, month, day⟩
  if date.isInCalendar then pure date else failure

/-- Takes hours and minutes. -/
def hourAndMinute : Reader (Nat × Nat) := do
  let hour ← fixed 2
  literal [':']
  let minute ← fixed 2
  if hour < 24 ∧ minute < 60 then pure (hour, minute) else failure

/-- Takes the fraction of a second, in nanoseconds. -/
def fraction : Reader Nat := do
  literal ['.']
  let digits ← run1 Char.isDigit
  match Decimal.natural? 10 ((digits ++ List.replicate 9 '0').take 9) with
  | some n => pure n
  | none => failure

/-- Takes seconds, of which there may be a fraction and one more than sixty. -/
def seconds : Reader (Nat × Nat) := do
  literal [':']
  let n ← fixed 2
  let part ← maybe fraction
  if n ≤ 60 then pure (n, part.getD 0) else failure

/-- Takes a time of the day, perhaps without its seconds. -/
def clock : Reader Clock := do
  let (hour, minute) ← hourAndMinute
  let part ← maybe seconds
  let (second, nanosecond) := part.getD (0, 0)
  pure ⟨hour, minute, second, nanosecond⟩

/-- Takes the seconds by which clocks are ahead of those of the prime meridian. -/
def offset : Reader Int :=
  (do let _ ← satisfying fun c => c == 'Z' || c == 'z'; pure 0) <|> (do
    let sign ← satisfying fun c => c == '+' || c == '-'
    let (hour, minute) ← hourAndMinute
    let ahead : Int := (hour * 60 + minute) * 60
    pure (if sign = '-' then -ahead else ahead))

theorem fixed_nil (count : Nat) : fixed count [] = none := by
  simp [fixed, Decimal.natural?]

end Scaffold.Date
