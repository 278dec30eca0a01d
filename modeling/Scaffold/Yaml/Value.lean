import Scaffold.Yaml.Node
import Scaffold.Value.Basic
import Scaffold.Decimal.Read

/-!
# Values

A plain scalar is null, a boolean, a number or a text, as its form says; a quoted one is a text.
Local tags are kept around the value they stand before. The entries of a mapping keep their order,
and no two of them have the same key.
-/

namespace Scaffold.Yaml

/-- A value of a YAML document. -/
inductive Value where
  | null
  | bool (b : Bool)
  | number (n : Number)
  | text (s : String)
  | sequence (items : List Value)
  | mapping (entries : List (Value × Value))
  | tagged (tag : String) (content : Value)
  deriving Repr, Inhabited

/-! ## Plain scalars -/

/-- Whether a text stands for null. -/
def isNullText (s : String) : Bool := s == "~" || s == "null" || s == "Null" || s == "NULL"

/-- The truth value that a text stands for. -/
def boolOf? (s : String) : Option Bool :=
  if s = "true" ∨ s = "True" ∨ s = "TRUE" then some true
  else if s = "false" ∨ s = "False" ∨ s = "FALSE" then some false
  else none

/-- A text without the sign in front of it, if there is one of those given. -/
def withoutSign (signs : List Char) : List Char → List Char
  | [] => []
  | c :: cs => if signs.contains c then cs else c :: cs

/-- Whether a text starts with a sign. -/
def hasSign : List Char → Bool
  | c :: _ => c == '+' || c == '-'
  | [] => false

/-- Whether a text consists of digits that do not make a number: after a sign, a zero before further
digits. -/
def hasLeadingZero (cs : List Char) : Bool :=
  match withoutSign ['-', '+'] cs with
  | '0' :: d :: ds => (d :: ds).all Char.isDigit
  | _ => false

/-- The base that the letter after a zero stands for. -/
def baseOf? : Char → Option Nat
  | 'x' => some 16
  | 'o' => some 8
  | 'b' => some 2
  | _ => none

/-- The number written after a zero and the letter of a base. -/
def basedNatural? : List Char → Option Nat
  | '0' :: c :: cs => (baseOf? c).bind fun base => Decimal.natural? base cs
  | _ => none

/-- The whole number that a text stands for, whatever its size. -/
def integerOf? (cs : List Char) : Option Int :=
  match cs with
  | '-' :: rest =>
    match basedNatural? rest with
    | some n => some (-(n : Int))
    | none =>
      if hasLeadingZero cs then none
      else (Decimal.natural? 10 rest).map fun n => -(n : Int)
  | _ =>
    let unsigned := withoutSign ['+'] cs
    match basedNatural? unsigned with
    | some n => some (n : Int)
    | none =>
      if hasLeadingZero cs then none
      else (Decimal.natural? 10 unsigned).map fun n => (n : Int)

/-- The double that a text stands for. -/
def floatOf? (cs : List Char) : Option Float :=
  let s := String.ofList cs
  let unsigned := withoutSign ['+'] cs
  let u := String.ofList unsigned
  if cs.head? = some '+' ∧ hasSign unsigned then none
  else if u = ".inf" ∨ u = ".Inf" ∨ u = ".INF" then some (1 / 0)
  else if s = "-.inf" ∨ s = "-.Inf" ∨ s = "-.INF" then some (-1 / 0)
  else if s = ".nan" ∨ s = ".NaN" ∨ s = ".NAN" then some (0 / 0)
  else (Decimal.float? unsigned).filter Float.isFinite

/-- How a whole number is held: in 64 bits, or not at all although 128 bits would do; beyond that it
is no whole number any more. -/
inductive IntegerSize where
  | fits
  | refused
  | tooLarge
  deriving DecidableEq

/-- The size of a whole number. -/
def integerSize (n : Int) : IntegerSize :=
  if -(Nat.pow 2 63) ≤ n ∧ n < Nat.pow 2 64 then .fits
  else if -(Nat.pow 2 127) ≤ n ∧ n < Nat.pow 2 128 then .refused
  else .tooLarge

/-- The value of a plain scalar; `none` for a whole number that is refused. -/
def plainValue? (s : String) : Option Value :=
  if s = "" ∨ isNullText s then some .null
  else
    match boolOf? s with
    | some b => some (.bool b)
    | none =>
      let cs := s.toList
      match (integerOf? cs).map fun n => (n, integerSize n) with
      | some (n, .fits) => some (.number (.int n))
      | some (_, .refused) => none
      | _ =>
        if hasLeadingZero cs then some (.text s)
        else
          match floatOf? cs with
          | some x => some (.number (.float x))
          | none => some (.text s)

/-- Whether a text would be a text if it stood as a plain scalar. -/
def isPlainText (s : String) : Bool :=
  match plainValue? s with
  | some (.text _) => true
  | _ => false

/-! ## Tagged scalars -/

/-- The beginning of the tags of the standard types. -/
def standardTag (name : String) : String := "tag:yaml.org,2002:" ++ name

/-- The local tag that a tag is. -/
def localTag? (tag : String) : Option String :=
  match tag.toList with
  | '!' :: [] => some "!"
  | '!' :: cs => some (String.ofList cs)
  | _ => none

/-- The value of a scalar with a tag that is no local one: the standard tags of booleans, numbers
and null demand the form, any other makes a text. -/
def taggedValue? (tag s : String) : Option Value :=
  if tag = standardTag "bool" then (boolOf? s).map .bool
  else if tag = standardTag "int" then
    match (integerOf? s.toList).map fun n => (n, integerSize n) with
    | some (n, .fits) => some (.number (.int n))
    | _ => none
  else if tag = standardTag "float" then (floatOf? s.toList).map fun x => .number (.float x)
  else if tag = standardTag "null" then if isNullText s then some .null else none
  else some (.text s)

/-- The value of a scalar. -/
def scalarValue? (p : Properties) (plain : Bool) (s : String) : Option Value :=
  match p.tag with
  | none => if plain then plainValue? s else some (.text s)
  | some tag =>
    match localTag? tag with
    | none => taggedValue? tag s
    | some name =>
      (if plain then plainValue? s else some (.text s)).map (.tagged name)

/-- A value with the local tag of its node around it. -/
def withTag (p : Properties) (v : Value) : Value :=
  match p.tag.bind localTag? with
  | some name => .tagged name v
  | none => v

/-! ## Equality of keys -/

/-- Equality of numbers as keys: not-a-number equals itself. -/
def sameNumber : Number → Number → Bool
  | .int a, .int b => a == b
  | .float a, .float b => a == b || (a.isNaN && b.isNaN)
  | _, _ => false

mutual

/-- Whether two values are the same key; the order of the entries of mappings does not count. -/
def Value.same : Value → Value → Bool
  | .null, .null => true
  | .bool a, .bool b => a == b
  | .number a, .number b => sameNumber a b
  | .text a, .text b => a == b
  | .sequence as, .sequence bs => Value.sameItems as bs
  | .mapping as, .mapping bs => as.length == bs.length && Value.entriesWithin as bs
  | .tagged t a, .tagged u b => t == u && a.same b
  | _, _ => false

/-- Whether two lists hold the same items. -/
def Value.sameItems : List Value → List Value → Bool
  | [], [] => true
  | a :: as, b :: bs => a.same b && Value.sameItems as bs
  | _, _ => false

/-- Whether every one of some entries is among others. -/
def Value.entriesWithin : List (Value × Value) → List (Value × Value) → Bool
  | [], _ => true
  | (k, v) :: rest, bs =>
    (bs.any fun (l, w) => k.same l && v.same w) && Value.entriesWithin rest bs

end

/-! ## Reading values -/

/-- Why a document does not hold what is asked for. A form of fields that is not allowed has a text
of its own. -/
inductive Fault where
  | malformed
  | form (reason : String)
  deriving Repr, DecidableEq

/-- Reads something of a document; the state counts how often an alias has been followed. -/
abbrev Decode (α : Type) := Nat → Except Fault (α × Nat)

namespace Decode

/-- Gives a value without reading anything. -/
def pure {α : Type} (a : α) : Decode α := fun jumps => .ok (a, jumps)

/-- Fails. -/
def fail {α : Type} (fault : Fault) : Decode α := fun _ => .error fault

/-- Reads one thing after another. -/
def bind {α β : Type} (first : Decode α) (next : α → Decode β) : Decode β := fun jumps =>
  match first jumps with
  | .ok (a, jumps) => next a jumps
  | .error fault => .error fault

instance : Monad Decode where
  pure := Decode.pure
  bind := Decode.bind

end Decode

/-- How often aliases may be followed for each piece of content. -/
def jumpsPerWeight : Nat := 100

/-- How deeply collections may be nested. -/
def depthLimit : Nat := 128

/-- The node itself, or the one that it is an alias of. -/
def follow (document : Document) (n : Node) : Decode Node := fun jumps =>
  match n with
  | .alias number =>
    if jumps + 1 > document.root.weight * jumpsPerWeight then .error .malformed
    else
      match document.anchored? number with
      | some target => .ok (target, jumps + 1)
      | none => .error .malformed
  | .cut => .error .malformed
  | other => .ok (other, jumps)

/-- Reads one thing of each of some nodes. -/
def decodeItems {α : Type} (read : Node → Decode α) : List Node → Decode (List α)
  | [] => pure []
  | n :: rest => do
    let a ← read n
    let as ← decodeItems read rest
    pure (a :: as)

/-- Reads entries, after those read before; a repeated key is a fault. -/
def decodeEntries (read : Node → Decode Value) (before : List (Value × Value)) :
    List (Node × Node) → Decode (List (Value × Value))
  | [] => pure before
  | (k, v) :: rest => do
    let key ← read k
    if before.any fun (l, _) => l.same key then Decode.fail .malformed
    else
      let value ← read v
      decodeEntries read (before ++ [(key, value)]) rest

/-- Reads a node as a value, collections up to a depth. -/
def decodeValue (document : Document) : (depth : Nat) → Node → Decode Value
  | depth, n => do
    match ← follow document n with
    | .scalar p plain s =>
      match scalarValue? p plain s with
      | some v => pure v
      | none => Decode.fail .malformed
    | .sequence p items =>
      match depth with
      | 0 => Decode.fail .malformed
      | depth + 1 =>
        let vs ← decodeItems (decodeValue document depth) items
        pure (withTag p (.sequence vs))
    | .mapping p entries =>
      match depth with
      | 0 => Decode.fail .malformed
      | depth + 1 =>
        let es ← decodeEntries (decodeValue document depth) [] entries
        pure (withTag p (.mapping es))
    | .alias _ | .cut => Decode.fail .malformed

/-- Reads a whole document. -/
def Document.decode {α : Type} (document : Document) (read : Node → Decode α) : Except Fault α :=
  match read document.root 0 with
  | .error fault => .error fault
  | .ok (a, _) => if document.complete then .ok a else .error .malformed

/-- The value of a text. -/
def Value.ofText (text : String) : Except Fault Value :=
  let document := Document.ofText text
  document.decode (decodeValue document depthLimit)

end Scaffold.Yaml
