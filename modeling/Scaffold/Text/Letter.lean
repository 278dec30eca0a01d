import Scaffold.Text.Property.Alphabetic
import Scaffold.Text.Property.Numeric
import Scaffold.Text.Property.Cased
import Scaffold.Text.Property.CaseMapping

/-!
# Letters, digits and case

Character classes and case mappings of full Unicode. ASCII characters are decided by comparison,
the others by the property tables; `isAlphanumeric_of_isAlphanum` says that the ASCII letters and
digits of the core library are among the alphanumeric characters. Upper and lower case of a text map
every character to its full image, which may be longer than one character, and a capital sigma at
the end of a word becomes a final sigma. Letters of the Latin script that carry marks, or are
written as one, have small plain letters that stand for them; letters of other scripts have none
here.
-/

namespace Scaffold.Text

/-! ## Classes -/

/-- Letters and whatever else is Alphabetic. -/
def isAlphabetic (c : Char) : Bool :=
  if c.toNat < 128 then c.isAlpha else inSpans alphabeticSpans c.toNat

/-- Decimal digits, letter numbers and other numbers. -/
def isNumeric (c : Char) : Bool :=
  if c.toNat < 128 then c.isDigit else inSpans numericSpans c.toNat

/-- Alphabetic or numeric. -/
def isAlphanumeric (c : Char) : Bool := isAlphabetic c || isNumeric c

/-- The Uppercase property. -/
def isUppercase (c : Char) : Bool :=
  if c.toNat < 128 then c.isUpper else inSpans uppercaseSpans c.toNat

/-- The Lowercase property. -/
def isLowercase (c : Char) : Bool :=
  if c.toNat < 128 then c.isLower else inSpans lowercaseSpans c.toNat

/-- The Cased property. -/
def isCased (c : Char) : Bool :=
  if c.toNat < 128 then c.isAlpha else inSpans casedSpans c.toNat

/-- The Case_Ignorable property. -/
def isCaseIgnorable (c : Char) : Bool :=
  if c.toNat < 128 then ['\'', '.', ':', '^', Char.ofNat 96].contains c
  else inSpans caseIgnorableSpans c.toNat

theorem isAlphanumeric_of_isAlphanum (c : Char) (h : c.isAlphanum = true) (hc : c.toNat < 128) :
    isAlphanumeric c = true := by
  simpa [isAlphanumeric, isAlphabetic, isNumeric, hc, Char.isAlphanum] using h

/-! ## Case mappings -/

/-- The full upper-case mapping of a character. -/
def upperOf (c : Char) : List Char :=
  if c.toNat < 128 then [c.toUpper]
  else (mapPoint upperShifts upperExpansions c.toNat).map Char.ofNat

/-- The full lower-case mapping of a character, regardless of its neighbours. -/
def lowerOf (c : Char) : List Char :=
  if c.toNat < 128 then [c.toLower]
  else (mapPoint lowerShifts lowerExpansions c.toNat).map Char.ofNat

/-- The capital sigma, whose lower case depends on its place in the word. -/
def capitalSigma : Char := 'Σ'

/-- The lower-case sigma at the end of a word. -/
def finalSigma : Char := 'ς'

/-- Whether the first character that counts for case is cased. -/
def nextCountingIsCased (cs : List Char) : Bool :=
  match cs.dropWhile isCaseIgnorable with
  | [] => false
  | c :: _ => isCased c

/-- Lower case of a text; `before` holds the characters already read, the last one first. -/
def lowerFrom (before : List Char) : List Char → List Char
  | [] => []
  | c :: cs =>
    (if c = capitalSigma then
      if nextCountingIsCased before && !nextCountingIsCased cs then [finalSigma] else lowerOf c
    else lowerOf c) ++ lowerFrom (c :: before) cs

/-- Lower case of a text, with final sigmas at the ends of words. -/
def toLowercase (s : String) : String := String.ofList (lowerFrom [] s.toList)

/-- Upper case of a text. -/
def toUppercase (s : String) : String := String.ofList (s.toList.flatMap upperOf)

theorem toUppercase_append (s t : String) :
    toUppercase (s ++ t) = toUppercase s ++ toUppercase t := by
  simp [toUppercase]

/-- Lower case of ASCII letters only. -/
def toLowercaseAscii (s : String) : String := String.ofList (s.toList.map Char.toLower)

/-! ## Plain letters -/

/-- Plain small letters with the letters that they stand for. -/
def plainLatin : List (String × String) :=
  [("a", "ÀÁÂÃÄÅĀĂĄàáâãäåāăąª"), ("ae", "Ææ"), ("c", "ÇĆĈĊČçćĉċč"), ("d", "ÐĎĐðďđ"),
    ("e", "ÈÉÊËĒĔĖĘĚèéêëēĕėęě"), ("g", "ĜĞĠĢĝğġģ"), ("h", "ĤĦĥħ"), ("i", "ÌÍÎÏĨĪĬĮİìíîïĩīĭįı"),
    ("ij", "Ĳĳ"), ("j", "Ĵĵ"), ("k", "Ķķĸ"), ("l", "ĹĻĽĿŁĺļľŀł"), ("n", "ÑŃŅŇñńņňŉ"),
    ("ng", "Ŋŋ"), ("o", "ÒÓÔÕÖØŌŎŐòóôõöøōŏőº"), ("oe", "Œœ"), ("r", "ŔŖŘŕŗř"),
    ("s", "ŚŜŞŠśŝşšſ"), ("ss", "ß"), ("t", "ŢŤŦţťŧ"), ("th", "Þþ"), ("u", "ÙÚÛÜŨŪŬŮŰŲùúûüũūŭůűųµ"),
    ("w", "Ŵŵ"), ("x", "×"), ("y", "ÝŶŸýÿŷ"), ("z", "ŹŻŽźżž")]

/-- The plain small letters for a Latin letter, if there are any. -/
def plainLetters? (c : Char) : Option String :=
  (plainLatin.find? fun (_, letters) => letters.toList.contains c).map (·.1)

end Scaffold.Text
