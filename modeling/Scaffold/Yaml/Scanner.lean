import Scaffold.Yaml.Token

/-!
# Cutting a text into tokens

The scanner reads a YAML text token by token. Indentation makes tokens of its own: one when a block
begins further right than the one around it, one when a block ends. A key is only recognised by the
colon behind it, so that the scanner remembers where a key may have begun and puts the tokens of the
key there when it meets the colon. The beginning of such a key has to lie in the same line and not
too far back. A text that is no YAML yields the tokens that are certain before the place where that
is found out.
-/

namespace Scaffold.Yaml

/-- Where a key may have begun: before the token of this number, at this place. A required one must
turn out to be a key. -/
structure KeyStart where
  number : Nat
  required : Bool
  mark : Mark

/-- How far behind the beginning of a key its colon may be. -/
def keyReach : Nat := 1024

/-- Whether a colon at a mark can still belong to the key. -/
def KeyStart.reaches (start : KeyStart) (mark : Mark) : Bool :=
  start.mark.line == mark.line && mark.index ≤ start.mark.index + keyReach

/-- The state of the scanner. The tokens are kept with the last one first, the indentations with the
innermost one first, -1 standing for no block at all. There is a possible key for every open bracket
and one outside. -/
structure Scanner where
  cursor : Cursor
  tokens : List Token
  indent : Int
  outerIndents : List Int
  keyStart : Option KeyStart
  outerKeyStarts : List (Option KeyStart)
  keyAllowed : Bool

namespace Scanner

/-- The scanner before a text. -/
def start (text : List Char) : Scanner :=
  ⟨⟨text, .start⟩, [], -1, [], none, [], true⟩

/-- Whether the scanner is inside brackets. -/
def inFlow (s : Scanner) : Bool := !s.outerKeyStarts.isEmpty

/-- The column where the scanner is. -/
def column (s : Scanner) : Int := s.cursor.mark.column

/-- Adds a token. -/
def emit (s : Scanner) (token : Token) : Scanner := { s with tokens := token :: s.tokens }

/-- Puts a token before the token of a number. -/
def emitAt (s : Scanner) (number : Nat) (token : Token) : Scanner :=
  let later := s.tokens.length - number
  { s with tokens := s.tokens.take later ++ token :: s.tokens.drop later }

/-- Moves on to a cursor. -/
def moveTo (s : Scanner) (cursor : Cursor) : Scanner := { s with cursor := cursor }

/-- Skips some characters of the line. -/
def skip (s : Scanner) (n : Nat) : Scanner := s.moveTo (s.cursor.skip n)

/-! ## Blocks -/

/-- Begins a block at a column that lies further right than the block around it. The token for it
goes before the token of a number, if one is given. -/
def openBlock (s : Scanner) (column : Int) (number : Option Nat) (token : Token) : Scanner :=
  if s.inFlow ∨ column ≤ s.indent then s
  else
    let deeper := { s with indent := column, outerIndents := s.indent :: s.outerIndents }
    match number with
    | some n => deeper.emitAt n token
    | none => deeper.emit token

/-- The block ends, the indentation and the indentations further out after all blocks have ended
that lie to the right of a column. -/
def closed (column : Int) : List Token → Int → List Int → List Token × Int × List Int
  | tokens, indent, [] => (tokens, indent, [])
  | tokens, indent, outer :: rest =>
    if column < indent then closed column (.blockEnd :: tokens) outer rest
    else (tokens, indent, outer :: rest)

/-- Ends the blocks that lie to the right of a column. -/
def closeBlocks (s : Scanner) (column : Int) : Scanner :=
  if s.inFlow then s
  else
    let (tokens, indent, outer) := closed column s.tokens s.indent s.outerIndents
    { s with tokens := tokens, indent := indent, outerIndents := outer }

/-! ## Keys -/

/-- Gives up the possible key, unless it is required. -/
def dropKey (s : Scanner) : Option Scanner :=
  match s.keyStart with
  | some start => if start.required then none else some { s with keyStart := none }
  | none => some s

/-- Notes that a key may begin here, if one is allowed. -/
def noteKey (s : Scanner) : Option Scanner :=
  if s.keyAllowed then do
    let start : KeyStart :=
      ⟨s.tokens.length, !s.inFlow && s.indent == s.column, s.cursor.mark⟩
    let s ← s.dropKey
    some { s with keyStart := some start }
  else some s

/-- Forgets a possible key that can no longer become one; `none` if it is required. -/
def freshKey? (mark : Mark) : Option KeyStart → Option (Option KeyStart)
  | none => some none
  | some start =>
    if start.reaches mark then some (some start)
    else if start.required then none
    else some none

/-- Forgets the possible keys that can no longer become one. -/
def refreshKeys (s : Scanner) : Option Scanner := do
  let keyStart ← freshKey? s.cursor.mark s.keyStart
  let outer ← s.outerKeyStarts.mapM (freshKey? s.cursor.mark)
  some { s with keyStart := keyStart, outerKeyStarts := outer }

/-- The number of the first token that may still get a key before it. -/
def certain (s : Scanner) : Nat :=
  (s.keyStart :: s.outerKeyStarts).foldl (fun n start =>
    match start with
    | some start => min n start.number
    | none => n) s.tokens.length

/-- The tokens that will stay as they are. -/
def certainTokens (s : Scanner) : List Token := s.tokens.reverse.take s.certain

/-! ## Between tokens -/

/-- Skips spaces, comments and line breaks. A tab counts as a space except where a block could
begin; after a line break a key is allowed outside brackets. -/
def skipGap (flow : Bool) : (inComment keyAllowed : Bool) → Mark → List Char → Cursor × Bool
  | _, keyAllowed, mark, [] => (⟨[], mark⟩, keyAllowed)
  | inComment, keyAllowed, mark, c :: cs =>
    if isBreak c then skipGap flow false (keyAllowed || !flow) mark.nextLine cs
    else if inComment then skipGap flow true keyAllowed mark.next cs
    else if c = '#' then skipGap flow true keyAllowed mark.next cs
    else if c = ' ' ∨ (c = '\t' ∧ (flow ∨ ¬ keyAllowed)) ∨
        (c = byteOrderMark ∧ mark.column = 0) then
      skipGap flow false keyAllowed mark.next cs
    else (⟨c :: cs, mark⟩, keyAllowed)

/-- Moves to the next token and ends the blocks that it lies left of. -/
def toNextToken (s : Scanner) : Scanner :=
  let (cursor, keyAllowed) := skipGap s.inFlow false s.keyAllowed s.cursor.mark s.cursor.rest
  let s := { s with cursor := cursor, keyAllowed := keyAllowed }
  s.closeBlocks s.column

/-! ## Tokens one by one -/

/-- Ends all blocks and gives up the possible key. -/
def leaveBlocks (s : Scanner) : Option Scanner := do
  let s ← (s.closeBlocks (-1)).dropKey
  some { s with keyAllowed := false }

/-- Reads a directive. -/
def readDirective (s : Scanner) : Option Scanner := do
  let s ← s.leaveBlocks
  let directive ← directive? s.cursor
  some ((s.moveTo directive.cursor).emit directive.value)

/-- Reads the mark that begins or ends a document. -/
def readDocumentMark (s : Scanner) (token : Token) : Option Scanner := do
  let s ← s.leaveBlocks
  some ((s.skip 3).emit token)

/-- Reads an opening bracket. -/
def readOpening (s : Scanner) (token : Token) : Option Scanner := do
  let s ← s.noteKey
  let s := { s with outerKeyStarts := s.keyStart :: s.outerKeyStarts, keyStart := none }
  some (({ s with keyAllowed := true }.skip 1).emit token)

/-- Reads a closing bracket. -/
def readClosing (s : Scanner) (token : Token) : Option Scanner := do
  let s ← s.dropKey
  let s := match s.outerKeyStarts with
    | outer :: rest => { s with keyStart := outer, outerKeyStarts := rest }
    | [] => s
  some (({ s with keyAllowed := false }.skip 1).emit token)

/-- Reads a comma inside brackets. -/
def readFlowEntry (s : Scanner) : Option Scanner := do
  let s ← s.dropKey
  some (({ s with keyAllowed := true }.skip 1).emit .flowEntry)

/-- Reads the dash of a block entry. -/
def readBlockEntry (s : Scanner) : Option Scanner := do
  if ¬ s.inFlow ∧ ¬ s.keyAllowed then none
  else
    let s ← (s.openBlock s.column none .blockSequence).dropKey
    some (({ s with keyAllowed := true }.skip 1).emit .blockEntry)

/-- Reads the question mark before a key. -/
def readKey (s : Scanner) : Option Scanner := do
  if ¬ s.inFlow ∧ ¬ s.keyAllowed then none
  else
    let s ← (s.openBlock s.column none .blockMapping).dropKey
    some (({ s with keyAllowed := !s.inFlow }.skip 1).emit .key)

/-- Reads the colon before a value. What a possible key began before becomes the key. -/
def readValue (s : Scanner) : Option Scanner := do
  match ← freshKey? s.cursor.mark s.keyStart with
  | some start =>
    let s := (s.emitAt start.number .key).openBlock start.mark.column (some start.number)
      .blockMapping
    some (({ s with keyStart := none, keyAllowed := false }.skip 1).emit .value)
  | none =>
    if ¬ s.inFlow ∧ ¬ s.keyAllowed then none
    else
      let s := s.openBlock s.column none .blockMapping
      some (({ s with keyAllowed := !s.inFlow }.skip 1).emit .value)

/-- Reads something that a key may begin with. -/
def readProperty (s : Scanner) (reading? : Option (Reading Token)) : Option Scanner := do
  let s ← s.noteKey
  let reading ← reading?
  some (({ s with keyAllowed := false }.moveTo reading.cursor).emit reading.value)

/-- Reads a block scalar. -/
def readBlockScalar (s : Scanner) (literal : Bool) : Option Scanner := do
  let s ← s.dropKey
  let scalar ← blockScalar literal s.indent (s.cursor.skip 1)
  some (({ s with keyAllowed := true }.moveTo scalar.cursor).emit (.scalar false scalar.value))

/-- A quoted scalar read as a token. -/
def quotedToken (reading? : Option (Reading String)) : Option (Reading Token) :=
  reading?.map fun reading => ⟨.scalar false reading.value, reading.cursor⟩

/-- Reads a plain scalar. -/
def readPlain (s : Scanner) : Option Scanner := do
  let s ← s.noteKey
  let plain ← plainFrom s.inFlow (s.indent + 1) false .empty s.cursor.mark s.cursor.rest
  some (({ s with keyAllowed := plain.value.brokeOff }.moveTo plain.cursor).emit
    (.scalar true plain.value.text))

/-- The characters that no plain scalar begins with. -/
def indicators : List Char := Char.ofNat 96 :: "-?:,[]\x7b\x7d#&*!|>'\"%@".toList

/-- Whether a plain scalar can begin with a character before the rest of the text. -/
def beginsPlain (flow : Bool) (c : Char) (cs : List Char) : Bool :=
  !(indicators.contains c || atGap [c]) ||
    (c == '-' && !(cs.head?.map isSpace == some true)) ||
    (!flow && (c == '?' || c == ':') && !atGap cs)

/-- Reads the token at a character other than the end of the text. -/
def readToken (s : Scanner) (c : Char) (cs : List Char) : Option Scanner :=
  if s.column = 0 ∧ c = '%' then s.readDirective
  else if s.column = 0 ∧ atDocumentMark (c :: cs) then
    s.readDocumentMark (if c = '-' then .documentStart else .documentEnd)
  else if c = '[' then s.readOpening .openSequence
  else if c = '\x7b' then s.readOpening .openMapping
  else if c = ']' then s.readClosing .closeSequence
  else if c = '\x7d' then s.readClosing .closeMapping
  else if c = ',' then s.readFlowEntry
  else if c = '-' ∧ atGap cs then s.readBlockEntry
  else if c = '?' ∧ (s.inFlow ∨ atGap cs) then s.readKey
  else if c = ':' ∧ (s.inFlow ∨ atGap cs) then s.readValue
  else if c = '*' then
    s.readProperty ((anchorName? (s.cursor.skip 1)).map fun r => ⟨.alias r.value, r.cursor⟩)
  else if c = '&' then
    s.readProperty ((anchorName? (s.cursor.skip 1)).map fun r => ⟨.anchor r.value, r.cursor⟩)
  else if c = '!' then s.readProperty (tag? s.inFlow s.cursor)
  else if c = '|' ∧ ¬ s.inFlow then s.readBlockScalar true
  else if c = '>' ∧ ¬ s.inFlow then s.readBlockScalar false
  else if c = '\'' then
    s.readProperty (quotedToken (singleQuotedFrom false .empty s.cursor.mark.next cs))
  else if c = '"' then
    s.readProperty (quotedToken (doubleQuotedFrom .text .empty s.cursor.mark.next cs))
  else if beginsPlain s.inFlow c cs then s.readPlain
  else none

/-- Ends the text. -/
def finish (s : Scanner) : Option Scanner := do
  let s ← s.leaveBlocks
  some (s.emit .streamEnd)

/-- Reads tokens up to the end of the text or to what is no YAML. Every token takes a character at
least, so that `fuel` need not exceed the length of the text. -/
def scan : (fuel : Nat) → Scanner → List Token
  | 0, s => s.certainTokens
  | fuel + 1, s =>
    match s.refreshKeys with
    | none => s.certainTokens
    | some s =>
      let next := s.toNextToken
      match next.cursor.rest with
      | [] =>
        match next.finish with
        | some done => done.tokens.reverse
        | none => s.certainTokens
      | c :: cs =>
        match next.readToken c cs with
        | some more => scan fuel more
        | none => s.certainTokens

end Scanner

/-- A text without a byte order mark before it. -/
def withoutMark : List Char → List Char
  | [] => []
  | c :: cs => if c = byteOrderMark then cs else c :: cs

/-- The tokens of a text, as far as it is YAML. A byte order mark before the text is no part of it,
and a text with characters that are not allowed has no tokens. -/
def tokensOf (text : List Char) : List Token :=
  if (withoutMark text).all isAllowed then
    let chars := alikeBreaks (withoutMark text)
    Scanner.scan (chars.length + 1) (.start chars)
  else []

end Scaffold.Yaml
