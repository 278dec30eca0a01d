import Scaffold.Decimal.Format

/-!
# Values

The values that templates compute with: null, booleans, numbers, texts, lists and maps. A map keeps
its entries in ascending order of their keys, each key once; `Value.ofEntries` brings any list of
entries into this form, a later entry replacing an earlier one of the same key.
-/

namespace Scaffold

/-- A whole number or a double. -/
inductive Number where
  | int (n : Int)
  | float (x : Float)
  deriving Repr, BEq

/-- A value of the template language. -/
inductive Value where
  | null
  | bool (b : Bool)
  | number (n : Number)
  | string (s : String)
  | array (items : List Value)
  | object (entries : List (String × Value))
  deriving Repr, Inhabited

/-! ## Numbers -/

/-- The number as a double. -/
def Number.toFloat : Number → Float
  | .int n => Float.ofInt n
  | .float x => x

/-- A whole number as it is, a double without the decimal places of whole numbers. -/
def Number.text : Number → String
  | .int n => Decimal.integerText n
  | .float x => Decimal.floatText .plain x

/-- The JSON text of a number. -/
def Number.json : Number → String
  | .int n => Decimal.integerText n
  | .float x => Decimal.floatText .json x

/-- A double as a value; the ones that are not finite have no number and become null. -/
def Value.ofFloat (x : Float) : Value := if x.isFinite then .number (.float x) else .null

/-! ## Maps -/

/-- The value of a key in a list of entries. -/
def lookupEntry (key : String) : List (String × Value) → Option Value
  | [] => none
  | (k, v) :: rest => if k = key then some v else lookupEntry key rest

/-- Puts an entry in its place among entries in ascending order of keys. -/
def insertEntry (key : String) (value : Value) : List (String × Value) → List (String × Value)
  | [] => [(key, value)]
  | (k, v) :: rest =>
    if k = key then (key, value) :: rest
    else if key < k then (key, value) :: (k, v) :: rest
    else (k, v) :: insertEntry key value rest

/-- The map of some entries, the last one of a key counting. -/
def Value.ofEntries (entries : List (String × Value)) : Value :=
  .object (entries.foldl (fun sorted (k, v) => insertEntry k v sorted) [])

theorem lookupEntry_insertEntry_self (key : String) (value : Value)
    (entries : List (String × Value)) :
    lookupEntry key (insertEntry key value entries) = some value := by
  induction entries with
  | nil => simp [insertEntry, lookupEntry]
  | cons e rest ih =>
    obtain ⟨k, v⟩ := e
    by_cases hk : k = key
    · simp [insertEntry, lookupEntry, hk]
    · by_cases hlt : key < k <;> simp [insertEntry, lookupEntry, hk, hlt, ih]

theorem lookupEntry_insertEntry_of_ne {key other : String} (value : Value)
    (entries : List (String × Value)) (h : key ≠ other) :
    lookupEntry other (insertEntry key value entries) = lookupEntry other entries := by
  induction entries with
  | nil => simp [insertEntry, lookupEntry, h]
  | cons e rest ih =>
    obtain ⟨k, v⟩ := e
    by_cases hk : k = key
    · subst hk
      simp [insertEntry, lookupEntry, h]
    · by_cases hlt : key < k
      · simp [insertEntry, lookupEntry, hk, hlt, h]
      · simp [insertEntry, lookupEntry, hk, hlt, ih]

/-! ## Equality -/

mutual

/-- Equality of values. A whole number never equals a double. -/
def Value.same : Value → Value → Bool
  | .null, .null => true
  | .bool a, .bool b => a == b
  | .number a, .number b => a == b
  | .string a, .string b => a == b
  | .array as, .array bs => Value.sameItems as bs
  | .object as, .object bs => Value.sameEntries as bs
  | _, _ => false

/-- Equality item by item. -/
def Value.sameItems : List Value → List Value → Bool
  | [], [] => true
  | a :: as, b :: bs => Value.same a b && Value.sameItems as bs
  | _, _ => false

/-- Equality entry by entry. -/
def Value.sameEntries : List (String × Value) → List (String × Value) → Bool
  | [], [] => true
  | (k, a) :: as, (l, b) :: bs => k == l && Value.same a b && Value.sameEntries as bs
  | _, _ => false

end

instance : BEq Value := ⟨Value.same⟩

/-! ## Views -/

/-- The text of a text value. -/
def Value.string? : Value → Option String
  | .string s => some s
  | _ => none

/-- Whether a value is a number. -/
def Value.isNumber : Value → Bool
  | .number _ => true
  | _ => false

/-- What counts as true in a condition: a non-empty text, list or map, a number other than zero,
and true itself. -/
def Value.truthy : Value → Bool
  | .null => false
  | .bool b => b
  | .number (.int n) => n != 0
  | .number (.float x) => x != 0 && x == x
  | .string s => s != ""
  | .array items => !items.isEmpty
  | .object entries => !entries.isEmpty

mutual

/-- How a value prints: a list in brackets, a map as a placeholder, null as nothing. -/
def Value.text : Value → String
  | .null => ""
  | .bool b => if b then "true" else "false"
  | .number n => n.text
  | .string s => s
  | .array items => "[" ++ ", ".intercalate (Value.texts items) ++ "]"
  | .object _ => "[object]"

/-- How the items of a list print. -/
def Value.texts : List Value → List String
  | [] => []
  | v :: vs => v.text :: Value.texts vs

end

@[simp] theorem Value.text_string (s : String) : (Value.string s).text = s := by
  simp [Value.text]

theorem Value.texts_eq_map (vs : List Value) : Value.texts vs = vs.map Value.text := by
  induction vs with
  | nil => simp [Value.texts]
  | cons v vs ih => simp [Value.texts, ih]

end Scaffold
