import Scaffold.Calendar.Reader
import Scaffold.Text.Blank

/-!
# Moments

A moment is written after a pattern, in which directives that begin with a percent sign stand for
its parts. Numbers have a width, up to which they are filled with zeros or spaces; a dash, a low
line or a zero behind the percent sign changes with what. `formatFrom_plain` says that what is no
directive is written as it is.
-/

namespace Scaffold

/-- A moment, in seconds and nanoseconds since the beginning of 1970 at the prime meridian, with the
seconds by which the clocks that show it are ahead. -/
structure Moment where
  seconds : Int
  nanoseconds : Nat
  offset : Int
  zone : String
  deriving Repr, DecidableEq

namespace Moment

/-! ## Parts -/

/-- A moment that clocks at the prime meridian show. -/
def ofSeconds (seconds : Int) : Moment := ⟨seconds, 0, 0, "UTC"⟩

/-- The seconds since the beginning of 1970 that the clocks show. -/
def shown (m : Moment) : Int := m.seconds + m.offset

/-- The days since the beginning of 1970. -/
def days (m : Moment) : Int := m.shown / 86400

/-- The date. -/
def date (m : Moment) : Date := .ofDays m.days

/-- The seconds since midnight. -/
def ofDay (m : Moment) : Nat := (m.shown % 86400).toNat

/-- The hour. -/
def hour (m : Moment) : Nat := m.ofDay / 3600

/-- The hour on a dial of twelve. -/
def dialHour (m : Moment) : Nat := (m.hour + 11) % 12 + 1

/-- The minute. -/
def minute (m : Moment) : Nat := m.ofDay / 60 % 60

/-- The second. -/
def second (m : Moment) : Nat := m.ofDay % 60

/-- The days of a week since Sunday. -/
def daysSinceSunday (m : Moment) : Nat := ((m.days + 4) % 7).toNat

/-- The days of a week since Monday. -/
def daysSinceMonday (m : Moment) : Nat := ((m.days + 3) % 7).toNat

/-- The day of the year, counted from 1. -/
def dayOfYear (m : Moment) : Nat := (m.days - Date.toDays ⟨m.date.year, 1, 1⟩ + 1).toNat

/-- The number of a week, if weeks begin so many days ago at most. -/
def weekSince (m : Moment) (ago : Nat) : Nat := (m.dayOfYear + 6 - ago) / 7

/-- The Thursday of the week that begins on a Monday, which decides its year. -/
def thursday (m : Moment) : Moment :=
  { m with seconds := m.seconds + (3 - (m.daysSinceMonday : Int)) * 86400 }

/-- The number of the week that begins on a Monday, in the year of its Thursday. -/
def week (m : Moment) : Nat := (m.thursday.dayOfYear - 1) / 7 + 1

/-- The names of the days of the week. -/
def dayNames : List String :=
  ["Sunday", "Monday", "Tuesday", "Wednesday", "Thursday", "Friday", "Saturday"]

/-- The names of the months. -/
def monthNames : List String :=
  ["January", "February", "March", "April", "May", "June", "July", "August", "September",
    "October", "November", "December"]

/-- The first three letters of a name. -/
def short (name : String) : String := String.ofList (name.toList.take 3)

/-- The name of the day of the week. -/
def dayName (m : Moment) : String := (dayNames[m.daysSinceSunday]?).getD ""

/-- The name of the month. -/
def monthName (m : Moment) : String := (monthNames[m.date.month - 1]?).getD ""

/-! ## Numbers -/

/-- A text with a character in front of it up to a width. -/
def filled (filler : Char) (width : Nat) (s : String) : String :=
  String.ofList (List.replicate (width - s.length) filler) ++ s

/-- A number with a filler up to a width. Its sign is written in front if there is one. -/
def number (filler? : Option Char) (width : Nat) (signed : Bool) (n : Int) : String :=
  let sign := if n < 0 then "-" else if signed then "+" else ""
  let digits := Decimal.integerText n.natAbs
  match filler? with
  | none => sign ++ digits
  | some '0' => sign ++ filled '0' width digits
  | some filler => filled filler (if sign = "" then width else width + 1) (sign ++ digits)

/-- The parts that are numbers: the letter, the filler, the width, and the number. -/
def numbers (m : Moment) : List (Char × Char × Nat × Int) :=
  [('C', '0', 2, m.date.year / 100), ('y', '0', 2, m.date.year % 100),
    ('q', '0', 1, (m.date.month + 2) / 3), ('m', '0', 2, m.date.month), ('d', '0', 2, m.date.day),
    ('e', ' ', 2, m.date.day), ('w', '0', 1, m.daysSinceSunday),
    ('u', '0', 1, m.daysSinceMonday + 1),
    ('U', '0', 2, m.weekSince m.daysSinceSunday), ('W', '0', 2, m.weekSince m.daysSinceMonday),
    ('V', '0', 2, m.week), ('g', '0', 2, m.thursday.date.year % 100), ('j', '0', 3, m.dayOfYear),
    ('H', '0', 2, m.hour), ('k', ' ', 2, m.hour), ('I', '0', 2, m.dialHour),
    ('l', ' ', 2, m.dialHour), ('M', '0', 2, m.minute), ('S', '0', 2, m.second),
    ('f', '0', 9, m.nanoseconds), ('s', '0', 1, m.seconds), ('Y', '0', 4, m.date.year),
    ('G', '0', 4, m.thursday.date.year)]

/-- The directives of a part that is a number, with every filler that there may be. -/
def numberDirectives (part : Char × Char × Nat × Int) : List (List Char × String) :=
  let (letter, filler, width, n) := part
  let text (filler? : Option Char) : String := number filler? width (width = 4 ∧ 9999 < n) n
  [([letter], text (some filler)), (['-', letter], text none), (['_', letter], text (some ' ')),
    (['0', letter], text (some '0'))]

/-- The distance to the prime meridian with a separator, in hours, minutes and perhaps seconds. -/
def offsetText (m : Moment) (separator : String) (units : Nat) : String :=
  let size := m.offset.natAbs
  let parts := [size / 3600, size / 60 % 60, size % 60].map (Date.padded 2)
  (if m.offset < 0 then "-" else "+") ++ separator.intercalate (parts.take units)

/-- So many digits of the fraction of a second. -/
def fractionText (m : Moment) (digits : Nat) : String :=
  String.ofList ((Date.padded 9 m.nanoseconds).toList.take digits)

/-- The fraction of a second behind a point, as exact as it has to be. -/
def exactFraction (m : Moment) : String :=
  if m.nanoseconds = 0 then ""
  else if m.nanoseconds % 1000000 = 0 then "." ++ m.fractionText 3
  else if m.nanoseconds % 1000 = 0 then "." ++ m.fractionText 6
  else "." ++ m.fractionText 9

/-! ## Patterns -/

/-- The directives that stand for one part each. -/
def simpleDirectives (m : Moment) : List (List Char × String) :=
  (m.numbers.flatMap numberDirectives) ++
    [("a", short m.dayName), ("A", m.dayName), ("b", short m.monthName), ("h", short m.monthName),
      ("B", m.monthName), ("p", if m.hour < 12 then "AM" else "PM"),
      ("P", if m.hour < 12 then "am" else "pm"), (".f", m.exactFraction),
      (".3f", "." ++ m.fractionText 3), (".6f", "." ++ m.fractionText 6),
      (".9f", "." ++ m.fractionText 9), ("3f", m.fractionText 3), ("6f", m.fractionText 6),
      ("9f", m.fractionText 9), ("Z", m.zone), ("z", m.offsetText "" 2), (":z", m.offsetText ":" 2),
      ("::z", m.offsetText ":" 3), (":::z", m.offsetText ":" 1), ("t", "\t"), ("n", "\n"),
      ("%", "%")].map fun (code, text) => (code.toList, text)

/-- Writes a pattern; `skip` is how many characters belong to a directive already written. A percent
sign that begins no directive spoils the pattern. -/
def formatFrom (directives : List (List Char × String)) :
    (skip : Nat) → List Char → Option (List Char)
  | _, [] => some []
  | skip + 1, _ :: cs => formatFrom directives skip cs
  | 0, c :: cs =>
    if c = '%' then
      match directives.find? fun (code, _) => Text.startsWith code cs with
      | some (code, text) => (formatFrom directives code.length cs).map (text.toList ++ ·)
      | none => none
    else (formatFrom directives 0 cs).map (c :: ·)

/-- The directives that stand for patterns of simple ones. -/
def patterns : List (Char × String) :=
  [('D', "%m/%d/%y"), ('x', "%m/%d/%y"), ('F', "%Y-%m-%d"), ('v', "%e-%b-%Y"), ('R', "%H:%M"),
    ('T', "%H:%M:%S"), ('X', "%H:%M:%S"), ('r', "%I:%M:%S %p"), ('c', "%a %b %e %H:%M:%S %Y"),
    ('+', "%Y-%m-%dT%H:%M:%S%.f%:z")]

/-- All directives. -/
def directives (m : Moment) : List (List Char × String) :=
  m.simpleDirectives ++ patterns.map fun (letter, pattern) =>
    ([letter], String.ofList ((formatFrom m.simpleDirectives 0 pattern.toList).getD []))

/-- The moment after a pattern, unless the pattern is spoilt. -/
def format? (m : Moment) (pattern : String) : Option String :=
  (formatFrom m.directives 0 pattern.toList).map String.ofList

/-- The moment as standards write it. -/
def text (m : Moment) : String := (m.format? "%+").getD ""

theorem formatFrom_plain (directives : List (List Char × String)) (cs : List Char)
    (h : '%' ∉ cs) : formatFrom directives 0 cs = some cs := by
  induction cs with
  | nil => rfl
  | cons c cs ih =>
    simp only [List.mem_cons, not_or] at h
    simp [formatFrom, Ne.symm h.1, ih h.2]

/-! ## Reading -/

/-- The moment of a date and a time of the day. -/
def ofClock (date : Date) (clock : Date.Clock) (offset : Int) (zone : String) : Moment :=
  let ofDay : Nat := (clock.hour * 60 + clock.minute) * 60 + clock.second
  ⟨date.toDays * 86400 + ofDay - offset, clock.nanosecond, offset, zone⟩

/-- Takes a date and a time with the distance to the prime meridian, which may be left out. -/
def reader : Reader Moment := do
  let date ← Date.reader
  Reader.literal ['T']
  let clock ← Date.clock
  match ← Reader.maybe Date.offset with
  | none => pure (ofClock date clock 0 "UTC")
  | some offset =>
    let m := ofClock date clock offset ""
    pure { m with zone := m.offsetText ":" 2 }

/-- Takes up to so many digits of a number. -/
def upTo (most : Nat) : Reader Nat := fun cs =>
  let digits := (cs.takeWhile Char.isDigit).take most
  (Decimal.natural? 10 digits).map fun n => (n, cs.drop digits.length)

/-- Takes a date, of which numbers may be short. -/
def shortDate : Reader Date := do
  let year ← upTo 4
  Reader.literal ['-']
  let month ← upTo 2
  Reader.literal ['-']
  let day ← upTo 2
  let date : Date := ⟨year, month, day⟩
  if date.isInCalendar then pure date else failure

/-- Reads a whole text. -/
def whole? {α : Type} (p : Reader α) (s : String) : Option α :=
  match p s.toList with
  | some (a, []) => some a
  | _ => none

end Moment

end Scaffold
