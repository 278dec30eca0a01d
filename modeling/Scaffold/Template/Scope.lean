import Scaffold.Template.Syntax
import Scaffold.Template.Failure
import Scaffold.Text.Blank
import Scaffold.Text.Search
import Scaffold.Decimal.Read

/-!
# Scopes

A name is looked up from the inside out: in the frames that loops, macros and inserted templates
open, and last in the context that the caller supplied. A frame holds what was assigned in it and,
for a loop, the current item. A path goes on from a name to attributes and indices; an index in
brackets that is itself a path is replaced by its value first.
-/

namespace Scaffold.Template

/-! ## The context -/

/-- What the caller supplies: names with their values, the latest binding first. -/
abbrev Context := List (String × Value)

namespace Context

/-- Binds a name, whatever it was bound to before. -/
def bind (context : Context) (name : String) (value : Value) : Context := (name, value) :: context

/-- The value of a name. -/
def get? (context : Context) (name : String) : Option Value := lookupEntry name context

/-- The context as one map. -/
def toValue (context : Context) : Value := .ofEntries context.reverse

@[simp] theorem get?_bind_self (context : Context) (name : String) (value : Value) :
    (context.bind name value).get? name = some value := by
  simp [bind, get?, lookupEntry]

theorem get?_bind_of_ne (context : Context) {name other : String} (value : Value)
    (h : name ≠ other) : (context.bind name value).get? other = context.get? other := by
  simp [bind, get?, lookupEntry, h]

end Context

/-! ## Paths into values -/

/-- How the quotes stand while a path is cut at its points: inside single or double quotes, or after
a backslash, from where on nothing is special. -/
structure Quoting where
  single : Bool
  double : Bool
  escaped : Bool

/-- The state after one more character. -/
def Quoting.next (q : Quoting) (c : Char) : Quoting :=
  if q.escaped then q
  else if c = '\\' then { q with escaped := true }
  else if c = '"' ∧ ¬ q.single then { q with double := !q.double }
  else if c = '\'' ∧ ¬ q.double then { q with single := !q.single }
  else q

/-- Whether a point separates here. -/
def Quoting.isOpen (q : Quoting) : Bool := !q.single && !q.double && !q.escaped

/-- Cuts a path at the points outside quotes; `current` is the piece read so far, last character
first. -/
def cutAtPoints (q : Quoting) (current : List Char) : List Char → List (List Char)
  | [] => if current.isEmpty then [] else [current.reverse]
  | c :: cs =>
    if c = '.' ∧ q.isOpen then current.reverse :: cutAtPoints q [] cs
    else cutAtPoints (q.next c) (c :: current) cs

/-- Whether a character is a quote of one of the kinds that keys in paths are put in. -/
def isPathQuote (c : Char) : Bool := c == '"' || c == '\''

/-- The key that a piece of a path stands for: without quotes, and with the two escapes undone. -/
def keyOfPiece (piece : List Char) : String :=
  let bare := Text.dropEndWhile isPathQuote (piece.dropWhile isPathQuote)
  Text.replaceAll "~0" "~" (Text.replaceAll "~1" "/" (String.ofList bare))

/-- The keys that a path leads through. -/
def pathKeys (path : List Char) : List String :=
  (cutAtPoints ⟨false, false, false⟩ [] path).map keyOfPiece

/-- The position that a key denotes in a list: digits without a leading zero. -/
def position? (key : String) : Option Nat :=
  match key.toList with
  | '0' :: _ :: _ => none
  | cs => Decimal.natural? 10 cs

/-- What a key leads to. -/
def Value.key? (v : Value) (key : String) : Option Value :=
  match v with
  | .object entries => lookupEntry key entries
  | .array items => (position? key).bind (items[·]?)
  | _ => none

/-- What several keys lead to, one after the other. -/
def Value.keys? (v : Value) : List String → Option Value
  | [] => some v
  | k :: ks => (Value.key? v k).bind (Value.keys? · ks)

/-- What a path leads to; the empty path leads to the value itself. -/
def Value.path? (v : Value) (path : List Char) : Option Value := Value.keys? v (pathKeys path)

/-- Splits a path into its name and the rest behind the first point, if there is one. -/
def splitPath (path : String) : String × Option (List Char) :=
  match Text.cutFirst? ['.'] path.toList with
  | some (first, rest) => (String.ofList first, some rest)
  | none => (path, none)

/-- What a path leads to, given the value of its name. -/
def follow (rest : Option (List Char)) (v : Value) : Option Value :=
  match rest with
  | none => some v
  | some rest => Value.path? v rest

/-! ## Frames -/

/-- The current round of a loop. -/
structure Round where
  keyName : Option String
  itemName : String
  key : String
  item : Value
  /-- Rounds done before this one. -/
  index : Nat
  /-- Rounds in all. -/
  count : Nat

/-- What opened a frame. -/
inductive FrameKind where
  | page
  | definition (space name : String)
  | inserted
  | loop (round : Round)

/-- A level of scope with what was assigned in it, the latest assignment first. -/
structure Frame where
  kind : FrameKind
  assigned : List (String × Value)

/-- A frame without assignments. -/
def Frame.ofKind (kind : FrameKind) : Frame := ⟨kind, []⟩

/-- What the special loop variable offers. -/
def Round.special? (round : Round) (rest : Option (List Char)) : Option Value :=
  match rest.map String.ofList with
  | some "index" => some (.number (.int (round.index + 1)))
  | some "index0" => some (.number (.int round.index))
  | some "first" => some (.bool (round.index == 0))
  | some "last" => some (.bool (round.index + 1 == round.count))
  | _ => none

/-- What a path means to a loop. -/
def Round.find? (round : Round) (path : String) : Option Value :=
  let (first, rest) := splitPath path
  if first = "loop" then round.special? rest
  else if first = round.itemName then follow rest round.item
  else if round.keyName = some path then some (.string round.key)
  else none

/-- What a path means in a frame. -/
def Frame.find? (frame : Frame) (path : String) : Option Value :=
  let (first, rest) := splitPath path
  match (lookupEntry first frame.assigned).bind (follow rest) with
  | some v => some v
  | none =>
    match frame.kind with
    | .loop round => round.find? path
    | _ => none

/-- Whether frames further out are hidden. -/
def Frame.isOutermost (frame : Frame) : Bool :=
  match frame.kind with
  | .page | .definition _ _ => true
  | .inserted | .loop _ => false

/-- What a path means in some frames, the innermost one first. -/
def findInFrames (path : String) : List Frame → Option Value
  | [] => none
  | frame :: rest =>
    match frame.find? path with
    | some v => some v
    | none => if frame.isOutermost then none else findInFrames path rest

/-- Assigns a name in the innermost frame. -/
def assignLocal (name : String) (value : Value) : List Frame → List Frame
  | [] => []
  | frame :: rest => { frame with assigned := (name, value) :: frame.assigned } :: rest

/-- Assigns a name in the innermost frame that is not a loop. -/
def assignGlobal (name : String) (value : Value) : List Frame → List Frame
  | [] => []
  | frame :: rest =>
    match frame.kind with
    | .loop _ => frame :: assignGlobal name value rest
    | _ => { frame with assigned := (name, value) :: frame.assigned } :: rest

/-- Whether the innermost frame is a loop. -/
def inLoop : List Frame → Bool
  | ⟨.loop _, _⟩ :: _ => true
  | _ => false

/-! ## Looking up paths -/

/-- What names mean at a place in a page. -/
structure Scope where
  /-- The name of the page, for messages. -/
  page : String
  context : Context
  /-- The innermost frame first. -/
  frames : List Frame

namespace Scope

/-- What a path without brackets means. -/
def find? (scope : Scope) (path : String) : Option Value :=
  match findInFrames path scope.frames with
  | some v => some v
  | none =>
    let (first, rest) := splitPath path
    (scope.context.get? first).bind (follow rest)

/-- How far the scan for indices has come. -/
inductive IndexScan where
  | outside
  /-- Right behind an opening bracket. -/
  | opened
  /-- In brackets that are nested `depth` deep, with what was read in them, last character first. -/
  | inside (depth : Nat) (read : List Char)

/-- Whether an index is a plain position. -/
def isPosition (index : List Char) : Bool :=
  match Decimal.natural? 10 (match index with | '+' :: cs => cs | cs => cs) with
  | some n => n < Nat.pow 2 64
  | none => false

/-- The indices in brackets that are to be looked up: neither quoted texts nor positions. -/
def indicesFrom : IndexScan → List Char → List String
  | _, [] => []
  | .outside, c :: cs => indicesFrom (if c = '[' then .opened else .outside) cs
  | .opened, c :: cs => indicesFrom (if isPathQuote c then .outside else .inside 1 [c]) cs
  | .inside depth read, c :: cs =>
    let depth := if c = ']' then depth - 1 else if c = '[' then depth + 1 else depth
    if depth = 0 then
      let index := read.reverse
      (if isPosition index then [] else [String.ofList index]) ++ indicesFrom .outside cs
    else indicesFrom (.inside depth (c :: read)) cs

/-- The indices of a path that are to be looked up. -/
def indices (path : String) : List String := indicesFrom .outside path.toList

/-- Replaces the first occurrence of an index in brackets by its value behind a point. -/
def replaceIndex (path index value : String) : String :=
  match Text.cutFirst? (s!"[{index}]").toList path.toList with
  | some (before, rest) => String.ofList before ++ "." ++ value ++ String.ofList rest
  | none => path ++ "." ++ value

/-- Writes a path without brackets, quoted keys in double quotes. -/
def withoutBrackets (path : String) : String :=
  let path := Text.replaceAll "/" "~1" path
  let path := Text.replaceAll "['" ".\"" path
  let path := Text.replaceAll "[\"" ".\"" path
  let path := Text.replaceAll "[" "." path
  let path := Text.replaceAll "']" "\"" path
  let path := Text.replaceAll "\"]" "\"" path
  Text.replaceAll "]" "" path

/-- How the value of an index is written into a path. -/
def indexText? : Value → Option String
  | .string s => some s!"\"{s}\""
  | .number n => some n.json
  | _ => none

/-- The value of a path with indices nested `depth` deep at most. -/
def resolveAt (scope : Scope) : (depth : Nat) → (path : String) → Except Unresolved Value
  | 0, path => .error (.name path scope.page)
  | depth + 1, path =>
    if path.toList.contains '[' then do
      let evaluated ← (indices path).foldlM (fun done index => do
        match scope.resolveAt depth index with
        | .error cause => .error (.inIndex path cause)
        | .ok v =>
          match indexText? v with
          | some text => .ok (replaceIndex done index text)
          | none => .error (.indexKind index path)) path
      let evaluated := withoutBrackets evaluated
      match scope.find? evaluated with
      | some v => .ok v
      | none => .error (.element path scope.page evaluated)
    else
      match scope.find? path with
      | some v => .ok v
      | none => .error (.name path scope.page)

/-! ## The whole scope as a value -/

/-- What a loop adds to the names of its frame. -/
def roundEntries (round : Round) : List (String × Value) :=
  (round.itemName, round.item) ::
    match round.keyName with
    | some k => [(k, .string round.key)]
    | none => []

/-- What is visible in some frames as entries, later ones winning, and whether the frames further
out and the context are hidden. -/
def visibleEntries : List Frame → List (String × Value) × Bool
  | [] => ([], false)
  | frame :: rest =>
    let own := frame.assigned.reverse ++
      match frame.kind with
      | .loop round => roundEntries round
      | _ => []
    match frame.kind with
    | .definition _ _ => (own, true)
    | _ =>
      let (outer, hidden) := visibleEntries rest
      (own ++ outer, hidden)

/-- Everything that is visible as one map. Where a name is assigned in several frames, the outermost
one shows. -/
def toValue (scope : Scope) : Value :=
  let (entries, hidden) := visibleEntries scope.frames
  .ofEntries ((if hidden then [] else scope.context.reverse) ++ entries)

/-- The name under which a template finds everything visible as a text. -/
def contextName : String := "__tera_context"

/-- The value of a path. -/
def resolve (scope : Scope) (path : String) : Except Unresolved Value :=
  if path = contextName then .ok (.string (Json.pretty scope.toValue))
  else scope.resolveAt (path.length + 1) path

/-- The macro whose body is being rendered in the innermost frame. -/
def site? (scope : Scope) : Option (String × String) :=
  match scope.frames with
  | ⟨.definition space name, _⟩ :: _ => some (space, name)
  | _ => none

end Scope

end Scaffold.Template
