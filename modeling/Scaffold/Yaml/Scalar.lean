import Scaffold.Yaml.Mark

/-!
# Reading scalars

A scalar may run over several lines, which are folded: a single line break between two lines becomes
a space, of several the first one is dropped, and spaces around breaks are dropped. `Gathered` holds
what has been read of such a text. Block scalars keep their lines or fold them by rules of their
own.
-/

namespace Scaffold.Yaml

/-! ## Folding lines -/

/-- The text of a scalar as far as it has been read, all lists with the last character first. Spaces
and breaks wait until it is known that more text follows. -/
structure Gathered where
  text : List Char
  spaces : List Char
  folding : Bool
  firstBreak : Option Char
  moreBreaks : List Char

namespace Gathered

/-- Nothing read yet. -/
def empty : Gathered := ⟨[], [], false, none, []⟩

/-- What waiting breaks become. -/
def folded (g : Gathered) : List Char :=
  match g.firstBreak with
  | some '\n' => if g.moreBreaks.isEmpty then [' '] else g.moreBreaks
  | some c => g.moreBreaks ++ [c]
  | none => g.moreBreaks

/-- Adds what has been waiting to the text. -/
def settle (g : Gathered) : Gathered :=
  ⟨(if g.folding then g.folded else g.spaces) ++ g.text, [], false, none, []⟩

/-- Reads a character other than a space or break. -/
def push (g : Gathered) (c : Char) : Gathered :=
  let g := g.settle
  { g with text := c :: g.text }

/-- Reads a space. -/
def space (g : Gathered) (c : Char) : Gathered :=
  if g.folding then g else { g with spaces := c :: g.spaces }

/-- Reads a line break. -/
def lineBreak (g : Gathered) (c : Char) : Gathered :=
  if g.folding then { g with moreBreaks := c :: g.moreBreaks }
  else { g with spaces := [], folding := true, firstBreak := some c }

/-- Reads a line break that is escaped, hence no part of the text. -/
def escapedBreak (g : Gathered) : Gathered :=
  let g := g.settle
  { g with folding := true }

/-- The text read. -/
def result (g : Gathered) : String := String.ofList g.text.reverse

end Gathered

/-! ## Plain scalars -/

/-- A plain scalar and whether it ended after a line break. -/
structure Plain where
  text : String
  brokeOff : Bool

/-- Reads a plain scalar. `flow` tells whether it stands inside brackets, `indent` is the least
column of its further lines, and `afterGap` whether the last character was a space or break. -/
def plainFrom (flow : Bool) (indent : Int) :
    (afterGap : Bool) → Gathered → Mark → List Char → Option (Reading Plain)
  | _, g, mark, [] => some ⟨⟨g.result, g.folding⟩, [], mark⟩
  | afterGap, g, mark, c :: cs =>
    if isSpace c then
      if g.folding ∧ (mark.column : Int) < indent ∧ c = '\t' then none
      else plainFrom flow indent true (g.space c) mark.next cs
    else if isBreak c then plainFrom flow indent true (g.lineBreak c) mark.nextLine cs
    else if afterGap ∧ ((¬ flow ∧ (mark.column : Int) < indent) ∨ c = '#' ∨
        (mark.column = 0 ∧ atDocumentMark (c :: cs))) then
      some ⟨⟨g.result, g.folding⟩, c :: cs, mark⟩
    else if flow ∧ c = ':' ∧ (cs.head?.map fun d => isFlowIndicator d || d == '?') = some true then
      none
    else if (c = ':' ∧ atGap cs) ∨ (flow ∧ isFlowIndicator c) then
      some ⟨⟨g.result, g.folding⟩, c :: cs, mark⟩
    else plainFrom flow indent false (g.push c) mark.next cs

/-! ## Quoted scalars -/

/-- What an escape in double quotes stands for: a character, or one given by so many hexadecimal
digits. -/
inductive Escape where
  | char (c : Char)
  | digits (count : Nat)

/-- The escape that a character after a backslash makes. -/
def escape? (c : Char) : Option Escape :=
  match c with
  | '0' => some (.char (Char.ofNat 0))
  | 'a' => some (.char (Char.ofNat 7))
  | 'b' => some (.char (Char.ofNat 8))
  | 't' | '\t' => some (.char '\t')
  | 'n' => some (.char '\n')
  | 'v' => some (.char (Char.ofNat 11))
  | 'f' => some (.char (Char.ofNat 12))
  | 'r' => some (.char '\r')
  | 'e' => some (.char (Char.ofNat 27))
  | ' ' => some (.char ' ')
  | '"' => some (.char '"')
  | '/' => some (.char '/')
  | '\\' => some (.char '\\')
  | 'N' => some (.char (Char.ofNat 0x85))
  | '_' => some (.char (Char.ofNat 0xA0))
  | 'L' => some (.char (Char.ofNat 0x2028))
  | 'P' => some (.char (Char.ofNat 0x2029))
  | 'x' => some (.digits 2)
  | 'u' => some (.digits 4)
  | 'U' => some (.digits 8)
  | _ => none

/-- The value of a hexadecimal digit. -/
def hexValue? (c : Char) : Option Nat :=
  if c.isDigit then some (c.toNat - 48)
  else if 'a' ≤ c ∧ c ≤ 'f' then some (c.toNat - 87)
  else if 'A' ≤ c ∧ c ≤ 'F' then some (c.toNat - 55)
  else none

/-- Whether a number is the code point of a character. -/
def isCodePoint (n : Nat) : Bool := n < 0xD800 || (0xDFFF < n && n ≤ 0x10FFFF)

/-- Where a quoted text stands: in its characters, after a backslash, or in the digits of an escape,
so many of which are still to come. -/
inductive QuoteState where
  | text
  | escape
  | digits (missing value : Nat)

/-- Reads a scalar in double quotes, behind the first of them. -/
def doubleQuotedFrom : QuoteState → Gathered → Mark → List Char → Option (Reading String)
  | _, _, _, [] => none
  | .text, g, mark, c :: cs =>
    if isSpace c then doubleQuotedFrom .text (g.space c) mark.next cs
    else if isBreak c then doubleQuotedFrom .text (g.lineBreak c) mark.nextLine cs
    else if mark.column = 0 ∧ atDocumentMark (c :: cs) then none
    else if c = '"' then some ⟨g.settle.result, cs, mark.next⟩
    else if c = '\\' then doubleQuotedFrom .escape g mark.next cs
    else doubleQuotedFrom .text (g.push c) mark.next cs
  | .escape, g, mark, c :: cs =>
    if isBreak c then doubleQuotedFrom .text g.escapedBreak mark.nextLine cs
    else
      match escape? c with
      | some (.char d) => doubleQuotedFrom .text (g.push d) mark.next cs
      | some (.digits n) => doubleQuotedFrom (.digits n 0) g mark.next cs
      | none => none
  | .digits missing value, g, mark, c :: cs =>
    match hexValue? c with
    | none => none
    | some d =>
      let value := 16 * value + d
      if 1 < missing then doubleQuotedFrom (.digits (missing - 1) value) g mark.next cs
      else if isCodePoint value then
        doubleQuotedFrom .text (g.push (Char.ofNat value)) mark.next cs
      else none

/-- Reads a scalar in single quotes, behind the first of them. Two quotes stand for one; `doubled`
tells that the first of two has been read. -/
def singleQuotedFrom : (doubled : Bool) → Gathered → Mark → List Char → Option (Reading String)
  | _, _, _, [] => none
  | doubled, g, mark, c :: cs =>
    if doubled then singleQuotedFrom false (g.push c) mark.next cs
    else if isSpace c then singleQuotedFrom false (g.space c) mark.next cs
    else if isBreak c then singleQuotedFrom false (g.lineBreak c) mark.nextLine cs
    else if mark.column = 0 ∧ atDocumentMark (c :: cs) then none
    else if c = '\'' then
      if cs.head? = some '\'' then singleQuotedFrom true g mark.next cs
      else some ⟨g.settle.result, cs, mark.next⟩
    else singleQuotedFrom false (g.push c) mark.next cs

/-! ## Block scalars -/

/-- What happens to the line breaks at the end of a block scalar. -/
inductive Chomping where
  | strip
  | clip
  | keep

/-- The header of a block scalar: how it ends, and how far its lines are indented if that is
said. -/
structure BlockHeader where
  chomping : Chomping
  increment : Option Nat

/-- The chomping that a sign in the header asks for. -/
def chomping? : Char → Option Chomping
  | '+' => some .keep
  | '-' => some .strip
  | _ => none

/-- Reads the indicators behind the one that begins a block scalar. Zero is no indentation. -/
def blockIndicators (cs : List Char) : Option (BlockHeader × Nat) :=
  match cs with
  | c :: d :: _ =>
    match chomping? c with
    | some chomping =>
      if d = '0' then none
      else if d.isDigit then some (⟨chomping, some (d.toNat - 48)⟩, 2)
      else some (⟨chomping, none⟩, 1)
    | none =>
      if c = '0' then none
      else if c.isDigit then
        match chomping? d with
        | some chomping => some (⟨chomping, some (c.toNat - 48)⟩, 2)
        | none => some (⟨.clip, some (c.toNat - 48)⟩, 1)
      else some (⟨.clip, none⟩, 0)
  | [c] =>
    match chomping? c with
    | some chomping => some (⟨chomping, none⟩, 1)
    | none =>
      if c = '0' then none
      else if c.isDigit then some (⟨.clip, some (c.toNat - 48)⟩, 1)
      else some (⟨.clip, none⟩, 0)
  | [] => some (⟨.clip, none⟩, 0)

/-- Reads the empty lines before a block scalar whose indentation is not said. Gives the widest
column reached and the breaks, the last one first. -/
def openingBreaks (widest : Nat) (breaks : List Char) (mark : Mark) :
    List Char → Option (Reading (Nat × List Char))
  | [] => some ⟨(max widest mark.column, breaks), [], mark⟩
  | c :: cs =>
    if c = ' ' then openingBreaks widest breaks mark.next cs
    else if c = '\t' then none
    else if isBreak c then openingBreaks (max widest mark.column) (c :: breaks) mark.nextLine cs
    else some ⟨(max widest mark.column, breaks), c :: cs, mark⟩

/-- The text of a block scalar as far as it has been read, lists with the last character first.
`waiting` is the break that ended the last line, `breaks` are those of the empty lines since, and
`spaced` tells whether the last line began with a space. -/
structure BlockText where
  text : List Char
  waiting : Option Char
  breaks : List Char
  spaced : Bool

/-- Begins a line, its first character given: a folded break before it becomes a space, unless one
of the two lines begins with a space or empty lines lie between them. -/
def BlockText.beginLine (literal : Bool) (b : BlockText) (c : Char) : BlockText :=
  let joined : List Char :=
    if ¬ literal ∧ b.waiting = some '\n' ∧ ¬ b.spaced ∧ ¬ isSpace c then
      if b.breaks.isEmpty then [' '] else []
    else b.waiting.toList
  ⟨c :: (b.breaks ++ joined ++ b.text), none, [], isSpace c⟩

/-- The text of a block scalar when it ends. -/
def BlockText.result (b : BlockText) (chomping : Chomping) : String :=
  String.ofList <| List.reverse <|
    match chomping with
    | .strip => b.text
    | .clip => b.waiting.toList ++ b.text
    | .keep => b.breaks ++ b.waiting.toList ++ b.text

/-- Reads the lines of a block scalar with a known indentation. -/
def blockLines (literal : Bool) (indent : Nat) :
    (inLine : Bool) → BlockText → Mark → List Char → Option (Reading BlockText)
  | _, b, mark, [] => some ⟨b, [], mark⟩
  | true, b, mark, c :: cs =>
    if isBreak c then blockLines literal indent false { b with waiting := some c } mark.nextLine cs
    else blockLines literal indent true { b with text := c :: b.text } mark.next cs
  | false, b, mark, c :: cs =>
    if mark.column < indent ∧ c = ' ' then blockLines literal indent false b mark.next cs
    else if mark.column < indent ∧ c = '\t' then none
    else if isBreak c then
      blockLines literal indent false { b with breaks := c :: b.breaks } mark.nextLine cs
    else if mark.column = indent then
      blockLines literal indent true (b.beginLine literal c) mark.next cs
    else some ⟨b, c :: cs, mark⟩

/-- Moves behind a comment and the break that ends its line, if only a comment or nothing is left in
the line. -/
def finishLine? (cursor : Cursor) : Option Cursor :=
  let cursor := cursor.skipSpaces
  let cursor := match cursor.rest with
    | '#' :: _ => (takeRun (!isBreak ·) cursor).cursor
    | _ => cursor
  match cursor.rest with
  | [] => some cursor
  | c :: cs => if isBreak c then some ⟨cs, cursor.mark.nextLine⟩ else none

/-- Reads a block scalar behind the indicator that begins it; `parent` is the indentation of what it
stands in, -1 if there is none. -/
def blockScalar (literal : Bool) (parent : Int) (cursor : Cursor) : Option (Reading String) := do
  let (header, length) ← blockIndicators cursor.rest
  let cursor ← finishLine? (cursor.skip length)
  let least : Nat := max 1 (parent + 1).toNat
  match header.increment with
  | some increment =>
    let indent := if 0 ≤ parent then parent.toNat + increment else increment
    let body ← blockLines literal indent false ⟨[], none, [], false⟩ cursor.mark cursor.rest
    some ⟨body.value.result header.chomping, body.cursor⟩
  | none =>
    let opening ← openingBreaks 0 [] cursor.mark cursor.rest
    let (widest, breaks) := opening.value
    let indent := max widest least
    let body ← blockLines literal indent false ⟨[], none, breaks, false⟩ opening.cursor.mark
      opening.cursor.rest
    some ⟨body.value.result header.chomping, body.cursor⟩

end Scaffold.Yaml
