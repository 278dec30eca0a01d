import Scaffold.Yaml.Scalar

/-!
# Tokens

The tokens of a YAML text, and the reading of those that are more than an indicator: directives,
anchors, aliases and tags.
-/

namespace Scaffold.Yaml

/-- A token of a YAML text. -/
inductive Token where
  | streamEnd
  | version (major minor : Nat)
  | tagHandle (handle lead : String)
  | documentStart
  | documentEnd
  | blockSequence
  | blockMapping
  | blockEnd
  | openSequence
  | closeSequence
  | openMapping
  | closeMapping
  | blockEntry
  | flowEntry
  | key
  | value
  | alias (name : String)
  | anchor (name : String)
  | tag (handle suffix : String)
  | scalar (plain : Bool) (text : String)
  deriving Repr, DecidableEq

/-! ## Anchors and aliases -/

/-- Whether an anchor or alias may end before a text. -/
def endsName (cs : List Char) : Bool :=
  atGap cs || ['?', ':', ',', ']', '\x7d', '%', '@', Char.ofNat 96].contains (cs.headD ' ')

/-- Reads the name of an anchor or alias, behind its indicator. -/
def anchorName? (cursor : Cursor) : Option (Reading String) :=
  let name := takeRun isWordChar cursor
  if name.value.isEmpty ∨ ¬ endsName name.cursor.rest then none
  else some ⟨String.ofList name.value, name.cursor⟩

/-! ## Tags -/

/-- The characters of a tag besides letters and digits. -/
def tagSigns : List Char := ";/?:@&=+$.%!~*'()".toList

/-- Whether a character may stand in a tag; inside angle brackets a few more may. -/
def isTagChar (verbatim : Bool) (c : Char) : Bool :=
  isWordChar c || tagSigns.contains c || (verbatim && (c == ',' || c == '[' || c == ']'))

/-- The bytes of a run of tag characters, in which a percent sign begins two hexadecimal digits. -/
def tagBytes? : List Char → Option (List UInt8)
  | [] => some []
  | '%' :: a :: b :: cs => do
    let high ← hexValue? a
    let low ← hexValue? b
    let rest ← tagBytes? cs
    some (UInt8.ofNat (16 * high + low) :: rest)
  | c :: cs => do
    if c = '%' then none
    else
      let rest ← tagBytes? cs
      some ((String.singleton c).toUTF8.toList ++ rest)

/-- Reads the characters of a tag. They must not be missing unless `mayLack`. -/
def tagText? (verbatim mayLack : Bool) (cursor : Cursor) : Option (Reading String) := do
  let run := takeRun (isTagChar verbatim) cursor
  if run.value.isEmpty ∧ ¬ mayLack then none
  else
    let bytes ← tagBytes? run.value
    let text ← String.fromUTF8? ⟨bytes.toArray⟩
    some ⟨text, run.cursor⟩

/-- Reads a tag handle: an exclamation mark, perhaps a word and another mark. -/
def tagHandle? (cursor : Cursor) : Option (Reading String) :=
  match cursor.rest with
  | '!' :: _ =>
    let word := takeRun isWordChar (cursor.skip 1)
    match word.cursor.rest with
    | '!' :: _ => some ⟨String.ofList ('!' :: word.value ++ ['!']), word.cursor.skip 1⟩
    | _ => some ⟨String.ofList ('!' :: word.value), word.cursor⟩
  | _ => none

/-- Whether a handle is more than a first exclamation mark with a word: one that ends in a mark. -/
def isClosedHandle (handle : String) : Bool :=
  1 < handle.length && handle.toList.getLast? == some '!'

/-- Reads a tag. -/
def tag? (flow : Bool) (cursor : Cursor) : Option (Reading Token) := do
  let tag ← match cursor.rest with
    | '!' :: '<' :: _ => do
      let text ← tagText? true false (cursor.skip 2)
      match text.cursor.rest with
      | '>' :: _ => some (⟨.tag "" text.value, text.cursor.skip 1⟩ : Reading Token)
      | _ => none
    | _ => do
      let handle ← tagHandle? cursor
      if isClosedHandle handle.value then
        let suffix ← tagText? false false handle.cursor
        some ⟨.tag handle.value suffix.value, suffix.cursor⟩
      else
        let more ← tagText? false true handle.cursor
        let suffix := String.ofList (handle.value.toList.drop 1) ++ more.value
        if suffix = "" then some ⟨.tag "" "!", more.cursor⟩
        else some ⟨.tag "!" suffix, more.cursor⟩
  if atGap tag.cursor.rest ∨ (flow ∧ tag.cursor.rest.head? = some ',') then some tag else none

/-! ## Directives -/

/-- Reads a number of at most nine digits. -/
def versionNumber? (cursor : Cursor) : Option (Reading Nat) :=
  let digits := takeRun Char.isDigit cursor
  if digits.value.isEmpty ∨ 9 < digits.value.length then none
  else some ⟨digits.value.foldl (fun n c => 10 * n + (c.toNat - 48)) 0, digits.cursor⟩

/-- Reads the version of the version directive. -/
def versionValue? (cursor : Cursor) : Option (Reading Token) := do
  let major ← versionNumber? cursor.skipSpaces
  match major.cursor.rest with
  | '.' :: _ => do
    let minor ← versionNumber? (major.cursor.skip 1)
    some ⟨.version major.value minor.value, minor.cursor⟩
  | _ => none

/-- Reads the handle of the tag directive and what it stands for. -/
def tagValue? (cursor : Cursor) : Option (Reading Token) := do
  let handle ← tagHandle? cursor.skipSpaces
  if handle.value = "!" ∨ isClosedHandle handle.value then
    match handle.cursor.rest with
    | c :: _ =>
      if isSpace c then do
        let lead ← tagText? true false handle.cursor.skipSpaces
        if atGap lead.cursor.rest then
          some ⟨.tagHandle handle.value lead.value, lead.cursor⟩
        else none
      else none
    | [] => none
  else none

/-- Reads a directive, its percent sign included. -/
def directive? (cursor : Cursor) : Option (Reading Token) := do
  let name := takeRun isWordChar (cursor.skip 1)
  if name.value.isEmpty ∨ ¬ atGap name.cursor.rest then none
  else
    let directive ←
      if name.value = "YAML".toList then versionValue? name.cursor
      else if name.value = "TAG".toList then tagValue? name.cursor
      else none
    let cursor ← finishLine? directive.cursor
    some ⟨directive.value, cursor⟩

end Scaffold.Yaml
