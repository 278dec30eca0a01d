import Scaffold.Template.Filter.Basic
import Scaffold.Template.Scope
import Scaffold.Text.Letter

/-!
# Filters on lists

Items of a list by position, by an attribute or in order, and lists put together. An attribute is a
path into each item; the empty path is the item itself.
-/

namespace Scaffold.Template.Filter

/-- The first value, or the empty text. -/
def orEmpty (v : Option Value) : Value := v.getD (.string "")

/-- What an attribute leads to in an item. -/
def attribute? (path : String) (item : Value) : Option Value := Value.path? item path.toList

/-! ## By position -/

/-- The first item. -/
def first : Filter := fun v _ => do
  let items ← listInput "first" v
  pure (orEmpty items.head?)

/-- The last item. -/
def last : Filter := fun v _ => do
  let items ← listInput "last" v
  pure (orEmpty items.getLast?)

/-- The item at a position. -/
def nth : Filter := fun v args => do
  let items ← listInput "nth" v
  if items.isEmpty then pure (.string "")
  else
    let n ← arg? "nth" "n" "usize" natural? args
    let n ← required (.own "The `nth` filter has to have an `n` argument") n
    pure (orEmpty items[n]?)

/-- A position counted from the start, or from the end if it is negative. -/
def positionOf (length : Nat) (x : Float) : Nat :=
  if x ≥ 0 then x.toUInt64.toNat else (Float.ofNat length + x).toUInt64.toNat

/-- The items between two positions. -/
def slice : Filter := fun v args => do
  let items ← listInput "slice" v
  if items.isEmpty then pure (.array [])
  else
    let start ← arg? "slice" "start" "f64" double? args
    let stop ← arg? "slice" "end" "f64" double? args
    let start := (start.map (positionOf items.length)).getD 0
    let stop := min ((stop.map (positionOf items.length)).getD items.length) items.length
    pure (.array ((items.take stop).drop start))

/-! ## Put together -/

/-- The items as texts with a separator between them. -/
def join : Filter := fun v args => do
  let items ← listInput "join" v
  let sep ← textArg? "truncate" "sep" args
  pure (.string ((unescaped (sep.getD "")).intercalate (items.map Value.text)))

/-- A list followed by another list or by one value. -/
def concat : Filter := fun v args => do
  let items ← listInput "concat" v
  let more ← required (.own "The `concat` filter has to have a `with` argument")
    (lookupEntry "with" args)
  match more with
  | .array others => pure (.array (items ++ others))
  | other => pure (.array (items ++ [other]))

/-! ## In order -/

/-- The name of the kind of a value. -/
def kindName : Value → String
  | .null => "null"
  | .bool _ => "bool"
  | .number _ => "number"
  | .string _ => "string"
  | .array _ => "array"
  | .object _ => "object"

/-- Whether a value comes before or with another of the same kind; lists are compared by length. -/
def notAfter : Value → Value → Bool
  | .bool a, .bool b => !a || b
  | .number a, .number b => a.toFloat ≤ b.toFloat
  | .string a, .string b => a ≤ b
  | .array a, .array b => a.length ≤ b.length
  | _, _ => true

/-- The attributes of items, all of which must have them, paired with the items. -/
def keyed (path : String) (items : List Value) : Except Failure (List (Value × Value)) :=
  items.mapM fun item =>
    match attribute? path item with
    | some key => .ok (key, item)
    | none => .error (.own s!"attribute '{path}' does not reference a field")

/-- The items in the order of an attribute, which must be of one kind. -/
def sort : Filter := fun v args => do
  let items ← listInput "sort" v
  if items.isEmpty then pure (.array [])
  else
    let path ← textArg? "sort" "attribute" args
    let pairs ← keyed (path.getD "") items
    match pairs with
    | [] => pure (.array [])
    | (key, _) :: _ =>
      match key with
      | .null => .error (.own "Null is not a sortable value")
      | .object _ => .error (.own "Object is not a sortable value")
      | _ =>
        match pairs.find? fun (k, _) => kindName k != kindName key with
        | some (k, _) =>
          .error (.own ("expected " ++ kindName key ++ " got " ++ Json.compact k))
        | none =>
          pure (.array ((pairs.mergeSort fun a b => notAfter a.1 b.1).map (·.2)))

/-- A value as what counts for being the same; small and capital letters are only told apart if
asked to. -/
def uniqueKey (exact : Bool) : Value → Value
  | .string s => .string (if exact then s else Text.toLowercase s)
  | v => v

/-- The items that differ in an attribute from all before them. -/
def uniqueFrom (exact : Bool) (path kind : String) (seen : List Value) :
    List Value → Except Failure (List Value)
  | [] => .ok []
  | item :: rest =>
    match attribute? path item with
    | none => uniqueFrom exact path kind seen rest
    | some key =>
      if kindName key != kind then .error (.own "unique filter can't compare multiple types")
      else
        let key := uniqueKey exact key
        if seen.any (·.same key) then uniqueFrom exact path kind seen rest
        else do
          let others ← uniqueFrom exact path kind (key :: seen) rest
          pure (item :: others)

/-- The items without repetitions. -/
def unique : Filter := fun v args => do
  let items ← listInput "unique" v
  match items with
  | [] => pure (.array [])
  | item :: _ =>
    let exact ← flagArg "unique" "case_sensitive" args
    let path ← textArg? "unique" "attribute" args
    let path := path.getD ""
    match attribute? path item with
    | none => .error (.own s!"attribute '{path}' does not reference a field")
    | some .null => .error (.own "Null is not a unique value")
    | some (.array _) => .error (.own "Array is not a unique value")
    | some (.object _) => .error (.own "Object is not a unique value")
    | some key =>
      let kept ← uniqueFrom exact path (kindName key) [] items
      pure (.array kept)

/-! ## By attribute -/

/-- The attribute that a filter cannot do without. -/
def attributeArg (filter : String) (args : Args) : Except Failure String := do
  let path ← textArg? filter "attribute" args
  required (.own s!"The `{filter}` filter has to have an `attribute` argument") path

/-- Whether a value is null. -/
def isNull : Value → Bool
  | .null => true
  | _ => false

/-- The items whose attribute has a value, or has one at all. -/
def select : Filter := fun v args => do
  let items ← listInput "filter" v
  if items.isEmpty then pure (.array [])
  else
    let path ← attributeArg "filter" args
    let wanted := (lookupEntry "value" args).getD .null
    pure (.array (items.filter fun item =>
      let found := (attribute? path item).getD .null
      if isNull wanted then !isNull found else found.same wanted))

/-- The attributes of the items that have one. -/
def mapAttribute : Filter := fun v args => do
  let items ← listInput "map" v
  if items.isEmpty then pure (.array [])
  else
    let path ← attributeArg "map" args
    pure (.array ((items.filterMap (attribute? path)).filter (!isNull ·)))

/-- Adds an item to the list under a key. -/
def addToGroup (key : String) (item : Value) (groups : List (String × Value)) :
    List (String × Value) :=
  match lookupEntry key groups with
  | some (.array items) => insertEntry key (.array (items ++ [item])) groups
  | _ => insertEntry key (.array [item]) groups

/-- The items in lists by their attribute. -/
def groupBy : Filter := fun v args => do
  let items ← listInput "group_by" v
  if items.isEmpty then pure (.object [])
  else
    let path ← attributeArg "group_by" args
    pure (.object (items.foldl (fun groups item =>
      match attribute? path item with
      | none | some .null => groups
      | some (.string key) => addToGroup key item groups
      | some key => addToGroup (Json.compact key) item groups) []))

/-- The filter on lists of a name. -/
def findList? (name : String) : Option Filter :=
  match name with
  | "first" => some first
  | "last" => some last
  | "nth" => some nth
  | "slice" => some slice
  | "join" => some join
  | "concat" => some concat
  | "sort" => some sort
  | "unique" => some unique
  | "filter" => some select
  | "map" => some mapAttribute
  | "group_by" => some groupBy
  | _ => none

end Scaffold.Template.Filter
