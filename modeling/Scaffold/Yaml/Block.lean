import Scaffold.Yaml.Value
import Scaffold.Text.Search

/-!
# Writing values in block style

Values are written one item and one entry a line. What a line begins with decides how the next
collection goes on: a collection right behind a dash or question mark starts in the same line, a
sequence behind the colon of an entry starts in the next line without being indented further.
Scalars are written plain if that gives the same value back, else in quotes; a text with line feeds
is written line by line where that is possible.
-/

namespace Scaffold.Yaml

/-! ## The pen -/

/-- What has been written, the last character first, with the column reached. `afterSpace` tells
that no space is needed before what comes next, `atIndent` that the line holds nothing but
indentation and indicators. -/
structure Pen where
  written : List Char
  column : Nat
  afterSpace : Bool
  atIndent : Bool

namespace Pen

/-- A blank page. -/
def blank : Pen := ⟨[], 0, true, true⟩

/-- Writes characters of a line. -/
def put (pen : Pen) (cs : List Char) : Pen :=
  { pen with written := cs.reverse ++ pen.written, column := pen.column + cs.length }

/-- Ends the line with a break. -/
def endLine (pen : Pen) (ending : Char) : Pen :=
  { pen with written := ending :: pen.written, column := 0 }

/-- Moves to a column, in a new line unless this one is still free. -/
def indentTo (pen : Pen) (column : Nat) : Pen :=
  let pen :=
    if ¬ pen.atIndent ∨ column < pen.column ∨ (pen.column = column ∧ ¬ pen.afterSpace) then
      pen.endLine '\n'
    else pen
  { pen.put (List.replicate (column - pen.column) ' ') with afterSpace := true, atIndent := true }

/-- Puts a space unless there is one. -/
def separate (pen : Pen) : Pen := if pen.afterSpace then pen else pen.put [' ']

/-- Writes an indicator that further indentation may follow. -/
def indicator (pen : Pen) (c : Char) : Pen :=
  { pen.separate.put [c] with afterSpace := false }

/-- Writes characters that end the indentation. -/
def word (pen : Pen) (cs : List Char) : Pen :=
  { pen.put cs with afterSpace := false, atIndent := false }

end Pen

/-! ## How a scalar can be written -/

/-- Whether a character shows as itself. -/
def isPrintable (c : Char) : Bool :=
  let n := c.toNat
  n == 10 || (0x20 ≤ n && n ≤ 0x7E) || (0xA0 ≤ n && n ≤ 0xD7FF) ||
    (0xE000 ≤ n && n ≤ 0xFFFD && n != 0xFEFF) || 0x10000 ≤ n

/-- Whether a character breaks a line of a text that is to be written. -/
def breaksLine (c : Char) : Bool := isBreak c || c == '\r' || c.toNat == 0x85

/-- Whether a character is a space or breaks a line. -/
def isWhite (c : Char) : Bool := isSpace c || breaksLine c

/-- Whether an indicator at the beginning forbids the plain form. -/
def opensIndicator : List Char → Bool
  | [] => false
  | c :: cs =>
    (Char.ofNat 96 :: "#,[]\x7b\x7d&*!|>'\"%@".toList).contains c ||
      ((c == '?' || c == ':' || c == '-') && (cs.head?.map isWhite).getD true)

/-- Whether an indicator inside forbids the plain form; `before` is the preceding character. -/
def holdsIndicator (before : Char) : List Char → Bool
  | [] => false
  | c :: cs =>
    (c == ':' && (cs.head?.map isWhite).getD true) || (c == '#' && isWhite before) ||
      holdsIndicator c cs

/-- Whether characters of two kinds stand side by side. -/
def hasPair (p q : Char → Bool) : List Char → Bool
  | c :: d :: cs => (p c && q d) || hasPair p q (d :: cs)
  | _ => false

/-- Whether a text ends with a character of a kind. -/
def endsIn (p : Char → Bool) (cs : List Char) : Bool := (cs.getLast?.map p).getD false

/-- Whether a text begins like the mark of a document. -/
def opensMark (cs : List Char) : Bool :=
  Text.startsWith "---".toList cs || Text.startsWith "...".toList cs

/-- Whether a text needs escapes. -/
def needsEscapes (cs : List Char) : Bool :=
  cs.any (!isPrintable ·) || hasPair (· == ' ') breaksLine cs

/-- Whether a text can be written plain. -/
def allowsPlain (cs : List Char) : Bool :=
  match cs with
  | [] => true
  | c :: rest =>
    !(opensMark cs || opensIndicator cs || holdsIndicator c rest || needsEscapes cs ||
      cs.any breaksLine || c == ' ' || endsIn (· == ' ') cs)

/-- Whether a text can be written in single quotes. -/
def allowsSingle (cs : List Char) : Bool := !needsEscapes cs && !hasPair breaksLine (· == ' ') cs

/-- Whether a text can be written line by line. -/
def allowsLines (cs : List Char) : Bool := !cs.isEmpty && !needsEscapes cs && !endsIn (· == ' ') cs

/-! ## Writing scalars -/

/-- An upper-case hexadecimal number of a width. -/
def hexDigits (width n : Nat) : List Char :=
  let digits := (Nat.toDigits 16 n).map Char.toUpper
  List.replicate (width - digits.length) '0' ++ digits

/-- The letter of the escape for a character that has one. -/
def escapeLetter? (n : Nat) : Option Char :=
  [(0, '0'), (7, 'a'), (8, 'b'), (9, 't'), (10, 'n'), (11, 'v'), (12, 'f'), (13, 'r'), (27, 'e'),
    (34, '"'), (92, '\\'), (0x85, 'N'), (0x2028, 'L'), (0x2029, 'P')].lookup n

/-- A character inside double quotes. -/
def escaped (c : Char) : List Char :=
  let n := c.toNat
  if isPrintable c ∧ ¬ breaksLine c ∧ c ≠ '"' ∧ c ≠ '\\' then [c]
  else
    match escapeLetter? n with
    | some letter => ['\\', letter]
    | none =>
      if n ≤ 0xFF then '\\' :: 'x' :: hexDigits 2 n
      else if n ≤ 0xFFFF then '\\' :: 'u' :: hexDigits 4 n
      else '\\' :: 'U' :: hexDigits 8 n

/-- Writes the inside of single quotes; after a break the text goes on at an indentation. -/
def putSingle (indent : Nat) : (broke : Bool) → List Char → Pen → Pen
  | broke, [], pen => if broke then pen.indentTo indent else pen
  | broke, c :: cs, pen =>
    if breaksLine c then putSingle indent true cs { pen.endLine c with atIndent := true }
    else if c = ' ' then putSingle indent broke cs (pen.put [c])
    else
      let pen := if broke then pen.indentTo indent else pen
      putSingle indent false cs
        { pen.put (if c = '\'' then [c, c] else [c]) with atIndent := false }

/-- Writes lines at an indentation. -/
def putLines (indent : Nat) : (broke : Bool) → List Char → Pen → Pen
  | _, [], pen => pen
  | broke, c :: cs, pen =>
    if breaksLine c then putLines indent true cs { pen.endLine c with atIndent := true }
    else
      let pen := if broke then pen.indentTo indent else pen
      putLines indent false cs { pen.put [c] with atIndent := false }

/-- What follows the bar before lines: a digit if they begin with a space or break, and how their
last breaks count. -/
def lineHints (cs : List Char) : List Char :=
  (if (cs.head?.map fun c => c == ' ' || breaksLine c) = some true then ['2'] else []) ++
    match cs.reverse with
    | c :: d :: _ => if ¬ breaksLine c then ['-'] else if breaksLine d then ['+'] else []
    | [c] => if breaksLine c then ['+'] else ['-']
    | [] => ['-']

/-- Writes a scalar whose lines, if it has several, go to an indentation. `isKey` tells that it has
to stay in its line. -/
def putText (indent : Nat) (isKey : Bool) (s : String) (pen : Pen) : Pen :=
  let cs := s.toList
  let literal := cs.contains '\n'
  if literal ∧ allowsLines cs ∧ ¬ isKey then
    let pen := pen.separate.word ('|' :: lineHints cs)
    putLines indent true cs { pen.endLine '\n' with afterSpace := true, atIndent := true }
  else if ¬ literal ∧ isPlainText s ∧ ¬ hasLeadingZero cs ∧ allowsPlain cs then
    pen.separate.word cs
  else if ¬ literal ∧ allowsSingle cs ∧ ¬ (isKey ∧ cs.any breaksLine) then
    (putSingle indent false cs (pen.separate.word ['\''])).word ['\'']
  else pen.separate.word ('"' :: cs.flatMap escaped ++ ['"'])

/-- The tag before a value. -/
def tagText (tag : String) : List Char :=
  if tag = "!" then "!<!>".toList
  else '!' :: tag.toList.flatMap fun c =>
    if isTagChar true c ∧ c ≠ '%' then [c]
    else (String.singleton c).toUTF8.toList.flatMap fun b => '%' :: hexDigits 2 b.toNat

/-! ## Writing values -/

/-- The most bytes that a key before a colon may have. -/
def simpleKeyLimit : Nat := 128

/-- The text that a scalar is written with, quotes and escapes aside. -/
def Value.scalarText? : Value → Option String
  | .null => some "null"
  | .bool b => some (if b then "true" else "false")
  | .number (.int n) => some (Decimal.integerText n)
  | .number (.float x) => some (Decimal.floatText .yaml x)
  | .text s => some s
  | _ => none

/-- Whether a key can stand before a colon in one line; `room` is what its tag leaves it. -/
def isSimpleKey (room : Int) : Value → Bool
  | .sequence items => items.isEmpty
  | .mapping entries => entries.isEmpty
  | .tagged tag content => isSimpleKey (room - (tagText tag).length) content
  | v =>
    match v.scalarText? with
    | some s => !s.toList.any breaksLine && (s.utf8ByteSize : Int) ≤ room
    | none => false

/-- The indentation inside a collection that stands in something of an indentation, if any. -/
def deeper : Option Nat → Nat
  | none => 0
  | some n => n + 2

mutual

/-- Writes a value that stands in something of an indentation; `inEntry` tells that it is a key or
the value of an entry, `isKey` that it has to stay before a colon. -/
def putValue (indent : Option Nat) (inEntry isKey : Bool) : Value → Pen → Pen
  | .null, pen => pen.separate.word "null".toList
  | .bool b, pen => pen.separate.word (if b then "true".toList else "false".toList)
  | .number (.int n), pen => pen.separate.word (Decimal.integerText n).toList
  | .number (.float x), pen => pen.separate.word (Decimal.floatText .yaml x).toList
  | .text s, pen => putText ((indent.getD 0) + 2) isKey s pen
  | .tagged tag content, pen =>
    putValue indent inEntry isKey content (pen.separate.word (tagText tag))
  | .sequence items, pen =>
    if items.isEmpty then pen.separate.word ['[', ']']
    else
      let inner := if inEntry ∧ ¬ pen.atIndent then indent.getD 0 else deeper indent
      putItems inner items pen
  | .mapping entries, pen =>
    if entries.isEmpty then pen.separate.word ['\x7b', '\x7d']
    else putEntries (deeper indent) entries pen

/-- Writes the items of a sequence. -/
def putItems (indent : Nat) : List Value → Pen → Pen
  | [], pen => pen
  | v :: rest, pen =>
    putItems indent rest
      (putValue (some indent) false false v ((pen.indentTo indent).indicator '-'))

/-- Writes the entries of a mapping. -/
def putEntries (indent : Nat) : List (Value × Value) → Pen → Pen
  | [], pen => pen
  | (k, v) :: rest, pen =>
    let pen := pen.indentTo indent
    let pen :=
      if isSimpleKey simpleKeyLimit k then (putValue (some indent) true true k pen).word [':']
      else
        let pen := putValue (some indent) true false k (pen.indicator '?')
        (pen.indentTo indent).indicator ':'
    putEntries indent rest (putValue (some indent) true false v pen)

end

/-- A value in block style. -/
def Value.blockText (v : Value) : String :=
  String.ofList (putValue none false false v .blank).written.reverse

end Scaffold.Yaml
