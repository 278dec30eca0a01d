/-!
# Characters and places of a YAML text

A YAML text is read after all its line breaks have been made alike; only the two Unicode separators
stay what they are, since they are kept when lines are joined. A mark is a place in the text: how
many characters lie before it, in which line and in which column it is.
-/

namespace Scaffold.Yaml

/-! ## Characters -/

/-- The byte order mark. -/
def byteOrderMark : Char := Char.ofNat 0xFEFF

/-- Whether a character may occur in a YAML text at all. -/
def isAllowed (c : Char) : Bool :=
  let n := c.toNat
  n == 9 || n == 10 || n == 13 || (0x20 ≤ n && n ≤ 0x7E) || n == 0x85 ||
    (0xA0 ≤ n && n ≤ 0xD7FF) || (0xE000 ≤ n && n ≤ 0xFFFD) || 0x10000 ≤ n

/-- Whether a character ends a line. -/
def isBreak (c : Char) : Bool := c == '\n' || c.toNat == 0x2028 || c.toNat == 0x2029

/-- Spaces and tabs. -/
def isSpace (c : Char) : Bool := c == ' ' || c == '\t'

/-- The characters of names of anchors, directives and tag handles. -/
def isWordChar (c : Char) : Bool := c.isAlphanum || c == '_' || c == '-'

/-- The characters with a meaning of their own inside brackets. -/
def isFlowIndicator (c : Char) : Bool :=
  c == ',' || c == '[' || c == ']' || c == '\x7b' || c == '\x7d'

/-- The text with every line break that is no Unicode separator made a line feed. -/
def alikeBreaks : List Char → List Char
  | [] => []
  | '\r' :: '\n' :: cs => '\n' :: alikeBreaks cs
  | c :: cs => (if c = '\r' ∨ c.toNat = 0x85 then '\n' else c) :: alikeBreaks cs

/-- Whether a text is at its end, at the end of a line, or at a space. -/
def atGap : List Char → Bool
  | [] => true
  | c :: _ => isSpace c || isBreak c

/-- Whether a text starts with the mark that begins a document, or with the one that ends it. -/
def atDocumentMark : List Char → Bool
  | '-' :: '-' :: '-' :: cs => atGap cs
  | '.' :: '.' :: '.' :: cs => atGap cs
  | _ => false

/-! ## Places -/

/-- A place in the text. -/
structure Mark where
  index : Nat
  line : Nat
  column : Nat
  deriving Repr, DecidableEq

namespace Mark

/-- The beginning of the text. -/
def start : Mark := ⟨0, 0, 0⟩

/-- The place some characters further in the same line. -/
def advance (mark : Mark) (n : Nat) : Mark :=
  { mark with index := mark.index + n, column := mark.column + n }

/-- The place behind one character of the same line. -/
def next (mark : Mark) : Mark := mark.advance 1

/-- The beginning of the next line. -/
def nextLine (mark : Mark) : Mark := ⟨mark.index + 1, mark.line + 1, 0⟩

end Mark

/-- The rest of a text with the place where it begins. -/
structure Cursor where
  rest : List Char
  mark : Mark

/-- What was read, and where reading goes on. -/
structure Reading (α : Type) where
  value : α
  cursor : Cursor

/-- Reads a run of characters of one kind, which are not line breaks. -/
def takeRun (p : Char → Bool) (cursor : Cursor) : Reading (List Char) :=
  let run := cursor.rest.takeWhile p
  ⟨run, cursor.rest.dropWhile p, cursor.mark.advance run.length⟩

/-- The cursor behind a number of characters of the same line. -/
def Cursor.skip (cursor : Cursor) (n : Nat) : Cursor :=
  ⟨cursor.rest.drop n, cursor.mark.advance n⟩

/-- The cursor behind spaces and tabs. -/
def Cursor.skipSpaces (cursor : Cursor) : Cursor := (takeRun isSpace cursor).cursor

end Scaffold.Yaml
