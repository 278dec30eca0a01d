import Scaffold.Decimal.Read
import Scaffold.Text.Pattern.Basic
import Scaffold.Text.Reader

/-!
# Reading patterns

The usual notation: letters stand for themselves, a point for any character but a line end, brackets
for one of several characters, and bars, stars, plus signs, question marks and braces for choices
and repetitions. Groups nest, and there are no more of them than characters. `ofText?_nil` says that
nothing written is the empty pattern.
-/

namespace Scaffold.Text.Pattern

open Reader

/-- How letters, points and edges are meant. -/
structure Mode where
  ignoresCase : Bool
  pointTakesAll : Bool
  edgesAreLines : Bool

/-- The mode in which a pattern begins. -/
def Mode.plain : Mode := ⟨false, false, false⟩

/-- Switches what a letter stands for on or off. -/
def Mode.set (mode : Mode) (on : Bool) : Char → Option Mode
  | 'i' => some { mode with ignoresCase := on }
  | 's' => some { mode with pointTakesAll := on }
  | 'm' => some { mode with edgesAreLines := on }
  | 'u' => some mode
  | _ => none

/-! ## Characters -/

/-- The characters that a letter behind a backslash stands for. -/
def classOf? (c : Char) : Option (Char → Bool) :=
  match c with
  | 'd' => some Char.isDigit
  | 'D' => some fun d => !d.isDigit
  | 'w' => some isWordChar
  | 'W' => some fun d => !isWordChar d
  | 's' => some isBlank
  | 'S' => some fun d => !isBlank d
  | _ => none

/-- The characters of a named property. -/
def property? (name : String) : Option (Char → Bool) :=
  match name with
  | "L" | "Letter" | "Alphabetic" | "alpha" => some isAlphabetic
  | "N" | "Number" => some isNumeric
  | "Lu" | "Uppercase" | "upper" => some isUppercase
  | "Ll" | "Lowercase" | "lower" => some isLowercase
  | "digit" => some Char.isDigit
  | "alnum" => some isAlphanumeric
  | "space" => some isBlank
  | "word" => some isWordChar
  | _ => none

/-- The character that a letter behind a backslash stands for. -/
def control? (c : Char) : Option Char :=
  match c with
  | 'n' => some '\n'
  | 't' => some '\t'
  | 'r' => some '\r'
  | 'f' => some (Char.ofNat 12)
  | 'v' => some (Char.ofNat 11)
  | 'a' => some (Char.ofNat 7)
  | _ => if c.isAlphanum || 128 ≤ c.toNat then none else some c

/-- Takes a code point in braces, or one of so many digits. -/
def codePoint (digits : Nat) : Reader Char := do
  let braced ← maybe do
    literal ['\x7b']
    let ds ← run1 fun c => (Decimal.digitValue? 16 c).isSome
    literal ['\x7d']
    pure ds
  let ds ← match braced with
    | some ds => pure ds
    | none => (fun cs =>
        if digits ≤ cs.length then some (cs.take digits, cs.drop digits) else none :
          Reader (List Char))
  match Decimal.natural? 16 ds with
  | some n => if n.isValidChar then pure (Char.ofNat n) else failure
  | none => failure

/-- Takes the name of a property. -/
def propertyName : Reader String := do
  let c ← satisfying fun _ => true
  if c = '\x7b' then do
    let cs ← run1 fun c => c != '\x7d'
    literal ['\x7d']
    pure (String.ofList cs)
  else pure (String.ofList [c])

/-- What an escape stands for: one character or several. -/
inductive Escape where
  | char (c : Char)
  | test (test : Char → Bool)

/-- Takes an escape that stands for characters. -/
def escape : Reader Escape := do
  literal ['\\']
  let c ← satisfying fun _ => true
  match classOf? c, control? c with
  | some test, _ => pure (.test test)
  | none, some d => pure (.char d)
  | none, none =>
    if c = 'x' then Escape.char <$> codePoint 2
    else if c = 'u' then Escape.char <$> codePoint 4
    else if c = 'U' then Escape.char <$> codePoint 8
    else if c = 'p' ∨ c = 'P' then do
      let name ← propertyName
      match property? name with
      | some test => pure (.test fun d => test d == (c == 'p'))
      | none => failure
    else failure

/-- Whether two characters are the same but for their case. -/
def sameButCase (c d : Char) : Bool := lowerOf c == lowerOf d || upperOf c == upperOf d

/-- The characters that a character stands for. -/
def testOf (mode : Mode) (c : Char) : Char → Bool :=
  if mode.ignoresCase then sameButCase c else (· == c)

/-! ## Sets -/

/-- Takes a character of a set. -/
def setChar : Reader Escape :=
  escape <|> Escape.char <$> satisfying fun c => c != ']' && c != '\\' && c != '['

/-- Whether a character is in a range. -/
def inRange (mode : Mode) (first last c : Char) : Bool :=
  (first ≤ c && c ≤ last) ||
    (mode.ignoresCase && (lowerOf c ++ upperOf c).any fun d => first ≤ d && d ≤ last)

/-- Takes a named property in a set. -/
def setProperty : Reader (Char → Bool) := do
  literal ['[', ':']
  let negated ← maybe (literal ['^'])
  let cs ← run1 Char.isAlpha
  literal [':', ']']
  match property? (String.ofList cs) with
  | some test => pure fun c => test c != negated.isSome
  | none => failure

/-- Takes a range or a single character of a set. -/
def setItem (mode : Mode) : Reader (Char → Bool) :=
  setProperty <|> do
    match ← setChar with
    | .test test => pure test
    | .char c =>
      let last? ← maybe do
        literal ['-']
        match ← setChar with
        | .char d => if c ≤ d then pure d else failure
        | .test _ => failure
      match last? with
      | some d => pure (inRange mode c d)
      | none => pure (testOf mode c)

/-- Takes a set of characters in brackets. -/
def set (mode : Mode) : Reader (Char → Bool) := do
  literal ['[']
  let negated ← maybe (literal ['^'])
  let bracket ← maybe (literal [']'])
  let tests ← many (setItem mode)
  literal [']']
  let tests := if bracket.isSome then testOf mode ']' :: tests else tests
  if tests.isEmpty then failure
  else pure fun c => tests.any (fun test => test c) != negated.isSome

/-! ## Patterns -/

/-- The characters that do not stand for themselves. -/
def isSpecial (c : Char) : Bool := "\\.+*?()|[\x7b^$".toList.contains c

/-- The edge that a letter behind a backslash stands for. -/
def edgeOf? (c : Char) : Option (Option Char → Option Char → Bool) :=
  match c with
  | 'b' => some isWordEdge
  | 'B' => some fun before after => !isWordEdge before after
  | 'A' => some isStart
  | 'z' => some isEnd
  | _ => none

/-- Takes an edge. -/
def edgeReader (mode : Mode) : Reader Pattern := do
  let c ← satisfying fun c => c == '^' || c == '$' || c == '\\'
  if c = '^' then pure (.edge (if mode.edgesAreLines then isLineStart else isStart))
  else if c = '$' then pure (.edge (if mode.edgesAreLines then isLineEnd else isEnd))
  else do
    let d ← satisfying fun _ => true
    match edgeOf? d with
    | some test => pure (.edge test)
    | none => failure

/-- Takes what stands for one character. -/
def single (mode : Mode) : Reader Pattern :=
  (do let _ ← satisfying (· == '.'); pure (.char fun c => mode.pointTakesAll || c != '\n')) <|>
  (do let test ← set mode; pure (.char test)) <|>
  (do
    match ← escape with
    | .char c => pure (.char (testOf mode c))
    | .test test => pure (.char test)) <|>
  (do let c ← satisfying (!isSpecial ·); pure (.char (testOf mode c)))

/-- Takes a number. -/
def count : Reader Nat := do
  let ds ← run1 Char.isDigit
  match Decimal.natural? 10 ds with
  | some n => pure n
  | none => failure

/-- Takes how often something is repeated. Whether much or little is preferred makes no
difference. -/
def repetition : Reader (Nat × Option Nat) := do
  let range ← (do literal ['*']; pure (0, none)) <|>
    (do literal ['+']; pure (1, none)) <|> (do literal ['?']; pure (0, some 1)) <|> (do
      literal ['\x7b']
      let least ← count
      let comma ← maybe (literal [','])
      let most ← maybe count
      literal ['\x7d']
      if comma.isNone then (if most.isNone then pure (least, some least) else failure)
      else if (most.getD least) < least then failure
      else pure (least, most))
  let _ ← maybe (literal ['?'])
  pure range

/-- Takes letters that switch the mode, behind a hyphen off. -/
def switches (mode : Mode) : Reader Mode := do
  let on ← run Char.isAlpha
  let hyphen ← maybe (literal ['-'])
  let off ← if hyphen.isSome then run1 Char.isAlpha else pure []
  match on.foldlM (fun mode c => mode.set true c) mode with
  | some mode =>
    match off.foldlM (fun mode c => mode.set false c) mode with
    | some mode => pure mode
    | none => failure
  | none => failure

/-- Takes the opening of a group, and gives the mode inside. -/
def groupStart (mode : Mode) : Reader Mode := do
  literal ['(']
  let question ← maybe (literal ['?'])
  if question.isNone then pure mode
  else (do
      let _ ← maybe (literal ['P'])
      literal ['<']
      let _ ← satisfying fun c => c.isAlpha || c == '_'
      let _ ← run fun c => isWordChar c || c == '.'
      literal ['>']
      pure mode) <|> (do
      let mode ← switches mode
      literal [':']
      pure mode)

/-- Takes the mode that holds for the rest of a group. -/
def modeOfRest (mode : Mode) : Reader Mode := do
  let switched ← maybe do
    literal ['(', '?']
    let mode ← switches mode
    literal [')']
    pure mode
  pure (switched.getD mode)

/-- Takes a choice of sequences with at most so many levels of groups. -/
def choice : (levels : Nat) → Mode → Reader Pattern
  | 0, _ => failure
  | levels + 1, mode => do
    let mode ← modeOfRest mode
    let group : Reader Pattern := do
      let inner ← groupStart mode
      let p ← choice levels inner
      literal [')']
      pure p
    let item : Reader Pattern := do
      let p ← group <|> edgeReader mode <|> single mode
      let ranges ← many repetition
      pure (ranges.foldl (fun p (least, most) => p.times least most) p)
    let first ← many item
    let more ← many (do literal ['|']; many item)
    pure (more.foldl (fun p items => either p (sequence items)) (sequence first))

/-- Reads a pattern. -/
def ofText? (s : String) : Option Pattern :=
  match choice (s.length + 1) Mode.plain s.toList with
  | some (p, []) => some p
  | _ => none

theorem ofText?_nil : ofText? "" = some .empty := by
  simp [ofText?]
  rfl

end Scaffold.Text.Pattern
