import Scaffold.Calendar.Reader

/-!
# Scalars of TOML

Texts in single and double quotes, on one line or over several, whole numbers in four bases,
decimals, the two booleans, and moments of time. Only backslashes in double quotes have a meaning of
their own. `quoted_empty` says that nothing between two quotes is the empty text.
-/

namespace Scaffold.Toml

open Reader

/-! ## Blanks -/

/-- Whether a character may set apart what stands on a line. -/
def isBlank (c : Char) : Bool := c == ' ' || c == '\t'

/-- Whether a character may stand in a text or a comment as it is. -/
def isPlain (c : Char) : Bool := c == '\t' || (' ' ≤ c && c != Char.ofNat 0x7F)

/-- Takes blanks, if there are any. -/
def blanks : Reader Unit := fun cs => some ((), cs.dropWhile isBlank)

/-- Takes the end of a line. -/
def lineEnd : Reader Unit := literal ['\n'] <|> literal ['\r', '\n']

/-- Takes a comment. -/
def comment : Reader Unit := do
  literal ['#']
  let _ ← run isPlain
  pure ()

/-- Takes one piece of what may stand between the parts of a list. -/
def gapPiece : Reader Unit := (do let _ ← satisfying isBlank; pure ()) <|> lineEnd <|> comment

/-- Takes blanks, line ends and comments, if there are any. -/
def gap : Reader Unit := do
  let _ ← many gapPiece
  pure ()

/-! ## Texts -/

/-- The character that an escape of one letter stands for. -/
def escaped? (c : Char) : Option Char :=
  match c with
  | 'b' => some (Char.ofNat 8)
  | 't' => some '\t'
  | 'n' => some '\n'
  | 'f' => some (Char.ofNat 12)
  | 'r' => some '\r'
  | 'e' => some (Char.ofNat 27)
  | '"' => some '"'
  | '\\' => some '\\'
  | _ => none

/-- The number of hexadecimal digits behind a letter that announces a code point. -/
def codeLength? (c : Char) : Option Nat :=
  match c with
  | 'x' => some 2
  | 'u' => some 4
  | 'U' => some 8
  | _ => none

/-- Takes the code point of a character, written with so many hexadecimal digits. -/
def codePoint (digits : Nat) : Reader Char := fun cs =>
  match Decimal.natural? 16 (cs.take digits) with
  | some n =>
    if digits ≤ cs.length ∧ n.isValidChar then some (Char.ofNat n, cs.drop digits) else none
  | none => none

/-- Takes an escape. -/
def escape : Reader Char := do
  literal ['\\']
  let c ← satisfying fun _ => true
  match escaped? c, codeLength? c with
  | some d, _ => pure d
  | none, some digits => codePoint digits
  | none, none => failure

/-- Takes a backslash at the end of a line with all white space behind it, which adds nothing. -/
def continuation : Reader Unit := do
  literal ['\\']
  blanks
  lineEnd
  let _ ← many ((do let _ ← satisfying isBlank; pure ()) <|> lineEnd)
  pure ()

/-- Takes a character of a text in double quotes. -/
def quotedChar : Reader Char := escape <|> satisfying fun c => isPlain c && c != '"' && c != '\\'

/-- Takes a character of a text in single quotes. -/
def literalChar : Reader Char := satisfying fun c => isPlain c && c != '\''

/-- Takes a text between two quotes on one line. -/
def shortText (quote : Char) (char : Reader Char) : Reader String := do
  literal [quote]
  let cs ← many char
  literal [quote]
  pure (String.ofList cs)

/-- Takes a quote that is not the first of three. -/
def looseQuote (quote : Char) : Reader Char := fun cs =>
  if Text.startsWith [quote, quote, quote] cs then none else satisfying (· == quote) cs

/-- Takes a piece of a text over several lines. -/
def longPiece (quote : Char) (char : Reader Char) : Reader (List Char) :=
  (do let c ← char; pure [c]) <|> (do lineEnd; pure ['\n']) <|>
    (do let c ← looseQuote quote; pure [c])

/-- Takes a text between two times three quotes. A line end behind the first three is dropped; up to
two quotes may stand before the last three. -/
def longText (quote : Char) (piece : Reader (List Char)) : Reader String := do
  literal [quote, quote, quote]
  let _ ← maybe lineEnd
  let pieces ← many piece
  literal [quote, quote, quote]
  let more ← atMost (satisfying (· == quote)) 2
  pure (String.ofList (pieces.flatten ++ more))

/-- Takes a text in double quotes on one line. -/
def quoted : Reader String := shortText '"' quotedChar

/-- Takes a text in single quotes on one line. -/
def unescaped : Reader String := shortText '\'' literalChar

/-- Takes a text in double quotes over several lines. -/
def longQuoted : Reader String :=
  longText '"' ((do continuation; pure []) <|> longPiece '"' quotedChar)

/-- Takes a text in single quotes over several lines. -/
def longUnescaped : Reader String := longText '\'' (longPiece '\'' literalChar)

/-- Takes a text. -/
def text : Reader String := longQuoted <|> longUnescaped <|> quoted <|> unescaped

/-! ## Numbers -/

/-- Takes digits between which single underscores may stand. -/
def digits (isDigit : Char → Bool) : Reader (List Char) := do
  let c ← satisfying isDigit
  let cs ← many (do let _ ← maybe (literal ['_']); satisfying isDigit)
  pure (c :: cs)

/-- Takes a sign, if there is one. -/
def sign : Reader (List Char) := do
  let c? ← maybe (satisfying fun c => c == '+' || c == '-')
  pure c?.toList

/-- Takes the digits of a decimal number, zero alone or digits that do not begin with it. -/
def wholeDigits : Reader (List Char) := fun cs =>
  match cs with
  | '0' :: rest => some (['0'], rest)
  | _ => digits Char.isDigit cs

/-- Takes a whole number that is written in a base. -/
def based (start : List Char) (base : Nat) : Reader Int := do
  literal start
  let ds ← digits fun c => (Decimal.digitValue? base c).isSome
  match Decimal.natural? base ds with
  | some n => pure (Int.ofNat n)
  | none => failure

/-- Takes a decimal whole number. -/
def decimal : Reader Int := do
  let s ← sign
  let ds ← wholeDigits
  match Decimal.integer? 10 (s ++ ds) with
  | some n => pure n
  | none => failure

/-- Takes a whole number. It has to fit in 128 bits, with or without a sign. -/
def integer : Reader Int := do
  let n ← based ['0', 'x'] 16 <|> based ['0', 'o'] 8 <|> based ['0', 'b'] 2 <|> decimal
  if -(Nat.pow 2 127) ≤ n ∧ n < Nat.pow 2 128 then pure n else failure

/-- Takes the fraction of a decimal. -/
def fraction : Reader (List Char) := do
  literal ['.']
  let ds ← digits Char.isDigit
  pure ('.' :: ds)

/-- Takes the exponent of a decimal. -/
def exponent : Reader (List Char) := do
  let _ ← satisfying fun c => c == 'e' || c == 'E'
  let s ← sign
  let ds ← digits Char.isDigit
  pure ('e' :: s ++ ds)

/-- Takes what makes a number a decimal. -/
def fractionAndExponent : Reader (List Char) :=
  (do
    let f ← fraction
    let e? ← maybe exponent
    pure (f ++ e?.getD [])) <|> exponent

/-- Takes a decimal with a fraction or an exponent, which has to be finite. -/
def finite : Reader Float := do
  let s ← sign
  let ds ← wholeDigits
  let more ← fractionAndExponent
  match Decimal.float? (s ++ ds ++ more) with
  | some x => if x.isInf then failure else pure x
  | none => failure

/-- Takes an infinity or what is no number. -/
def special : Reader Float := do
  let s ← sign
  let x : Float ← (do literal "inf".toList; pure (1.0 / 0.0)) <|>
    (do literal "nan".toList; pure (0.0 / 0.0))
  pure (if s = ['-'] then -x else x)

/-- Takes a decimal. -/
def float : Reader Float := finite <|> special

/-- Takes a boolean. -/
def boolean : Reader Bool :=
  (do literal "true".toList; pure true) <|> (do literal "false".toList; pure false)

/-! ## Moments -/

/-- Takes the time that follows a date. -/
def timeOfDate : Reader Unit := do
  let _ ← satisfying fun c => c == 'T' || c == 't' || c == ' '
  let _ ← Date.clock
  let _ ← maybe Date.offset
  pure ()

/-- Takes a date, a time, or both, and gives it as it is written. -/
def moment : Reader String := do
  let cs ← taken ((do let _ ← Date.reader; let _ ← maybe timeOfDate; pure ()) <|>
    (do let _ ← Date.clock; pure ()))
  pure (String.ofList cs)

theorem quoted_empty (rest : List Char) : quoted ('"' :: '"' :: rest) = some ("", rest) := by
  have h : many quotedChar ('"' :: rest) = some ([], '"' :: rest) := many_of_none (by rfl)
  change (do
    let cs ← many quotedChar
    literal ['"']
    pure (String.ofList cs) : Reader String) ('"' :: rest) = some ("", rest)
  simp only [bind, StateT.bind, h]
  rfl

end Scaffold.Toml
