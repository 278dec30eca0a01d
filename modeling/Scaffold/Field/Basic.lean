import Scaffold.Value.Json

/-!
# Fields

A field has a text, a flag, a list of names or further fields as its value. Fields are kept in the
order in which their names were first written; writing a name again replaces the value in its place,
so that a container holds each name once. Main facts: `Fields.keys_insert` and `Fields.get?_insert`
say what one write does to the names and to the values, and `Fields.insertAll_append` that writes
add up.
-/

namespace Scaffold

/-- The value of a field. -/
inductive Field where
  | text (s : String)
  | flag (b : Bool)
  | list (items : List String)
  | nested (entries : List (String × Field))
  deriving Repr, Inhabited

/-- Named field values in the order of first insertion, each name once. -/
@[ext]
structure Fields where
  entries : List (String × Field)
  nodup : (entries.map Prod.fst).Nodup
  deriving Repr

/-! ## Entries -/

namespace Field

/-- Writes a value under a name: in place if the name is there, at the end if not. -/
def put (key : String) (value : Field) : List (String × Field) → List (String × Field)
  | [] => [(key, value)]
  | (k, v) :: rest => if k = key then (k, value) :: rest else (k, v) :: put key value rest

/-- The value under a name. -/
def find (key : String) : List (String × Field) → Option Field
  | [] => none
  | (k, v) :: rest => if k = key then some v else find key rest

theorem find_put (key other : String) (value : Field) (entries : List (String × Field)) :
    find other (put key value entries) =
      if key = other then some value else find other entries := by
  induction entries with
  | nil => rfl
  | cons e rest ih =>
    obtain ⟨k, v⟩ := e
    by_cases hk : k = key
    · subst hk
      by_cases ho : k = other <;> simp [put, find, ho]
    · by_cases ho : k = other
      · subst ho
        simp [put, find, hk, Ne.symm hk]
      · simp [put, find, hk, ho, ih]

theorem find_isSome_iff (key : String) (entries : List (String × Field)) :
    (find key entries).isSome = true ↔ key ∈ entries.map (·.1) := by
  induction entries with
  | nil => simp [find]
  | cons e rest ih =>
    obtain ⟨k, v⟩ := e
    by_cases hk : k = key
    · simp [find, hk]
    · simp only [find, hk, if_false, ih, List.map_cons, List.mem_cons]
      constructor
      · exact Or.inr
      · rintro (rfl | h)
        · exact absurd rfl hk
        · exact h

theorem keys_put (key : String) (value : Field) (entries : List (String × Field)) :
    (put key value entries).map (·.1) =
      if key ∈ entries.map (·.1) then entries.map (·.1) else entries.map (·.1) ++ [key] := by
  induction entries with
  | nil => simp [put]
  | cons e rest ih =>
    obtain ⟨k, v⟩ := e
    by_cases hk : k = key
    · simp [put, hk]
    · have hk' : key ≠ k := Ne.symm hk
      simp only [put, hk, if_false, List.map_cons, ih, List.mem_cons, hk', false_or]
      split <;> simp_all

/-- Writing a name keeps the names distinct. -/
theorem nodup_put (key : String) (value : Field) {entries : List (String × Field)}
    (h : (entries.map Prod.fst).Nodup) : ((put key value entries).map Prod.fst).Nodup := by
  rw [keys_put]
  split
  · exact h
  · rename_i hk
    refine List.nodup_append.2 ⟨h, by simp, ?_⟩
    intro a ha b hb
    simp only [List.mem_singleton] at hb
    subst hb
    exact fun hab => hk (hab ▸ ha)

/-- The text of a text field. -/
def text? : Field → Option String
  | .text s => some s
  | _ => none

end Field

/-! ## Containers -/

namespace Fields

/-- No fields. -/
def empty : Fields := ⟨[], .nil⟩

instance : Inhabited Fields := ⟨empty⟩

/-- Writes a field, in place if the name is there already. -/
def insert (fields : Fields) (key : String) (value : Field) : Fields :=
  ⟨Field.put key value fields.entries, Field.nodup_put key value fields.nodup⟩

/-- The value of a field. -/
def get? (fields : Fields) (key : String) : Option Field := Field.find key fields.entries

/-- The text of a field that has a text. -/
def text? (fields : Fields) (key : String) : Option String := (fields.get? key).bind Field.text?

/-- Whether there is a field of this name. -/
def contains (fields : Fields) (key : String) : Bool := (fields.get? key).isSome

/-- The names in order. -/
def keys (fields : Fields) : List String := fields.entries.map (·.1)

/-- The number of fields. -/
def size (fields : Fields) : Nat := fields.entries.length

/-- Whether there is no field. -/
def isEmpty (fields : Fields) : Bool := fields.entries.isEmpty

/-- Writes some fields one after another. -/
def insertAll (fields : Fields) (entries : List (String × Field)) : Fields :=
  entries.foldl (fun acc (k, v) => acc.insert k v) fields

/-- Writes the fields of another container over these. -/
def merge (fields other : Fields) : Fields := fields.insertAll other.entries

/-- The container of some fields, written one after another. -/
def ofList (entries : List (String × Field)) : Fields := empty.insertAll entries

@[simp] theorem get?_empty (key : String) : empty.get? key = none := rfl

@[simp] theorem keys_empty : empty.keys = [] := rfl

theorem get?_insert (fields : Fields) (key other : String) (value : Field) :
    (fields.insert key value).get? other = if key = other then some value else fields.get? other :=
  Field.find_put key other value fields.entries

theorem keys_insert (fields : Fields) (key : String) (value : Field) :
    (fields.insert key value).keys =
      if key ∈ fields.keys then fields.keys else fields.keys ++ [key] :=
  Field.keys_put key value fields.entries

theorem contains_iff_mem_keys (fields : Fields) (key : String) :
    fields.contains key = true ↔ key ∈ fields.keys :=
  Field.find_isSome_iff key fields.entries

theorem nodup_keys (fields : Fields) : fields.keys.Nodup := fields.nodup

theorem insertAll_append (fields : Fields) (as bs : List (String × Field)) :
    fields.insertAll (as ++ bs) = (fields.insertAll as).insertAll bs := by
  simp [insertAll, List.foldl_append]

end Fields

/-! ## Values and JSON -/

mutual

/-- The template value of a field. -/
def Field.toValue : Field → Value
  | .text s => .string s
  | .flag b => .bool b
  | .list items => .array (items.map .string)
  | .nested entries => .ofEntries (Field.toValues entries)

/-- The template values of nested fields. -/
def Field.toValues : List (String × Field) → List (String × Value)
  | [] => []
  | (k, f) :: rest => (k, f.toValue) :: Field.toValues rest

end

mutual

/-- The JSON text of a field, nested fields in the order in which they are kept. -/
def Field.json : Field → String
  | .text s => Json.quoted s
  | .flag b => if b then "true" else "false"
  | .list items => "[" ++ ",".intercalate (items.map Json.quoted) ++ "]"
  | .nested entries => "\x7b" ++ ",".intercalate (Field.jsonEntries entries) ++ "\x7d"

/-- The JSON texts of nested fields. -/
def Field.jsonEntries : List (String × Field) → List String
  | [] => []
  | (k, f) :: rest => (Json.quoted k ++ ":" ++ f.json) :: Field.jsonEntries rest

end

mutual

/-- Equality of field values; the order of nested fields counts. -/
def Field.same : Field → Field → Bool
  | .text s, .text t => s == t
  | .flag a, .flag b => a == b
  | .list as, .list bs => as == bs
  | .nested as, .nested bs => Field.sameEntries as bs
  | _, _ => false

/-- Equality of nested fields, entry by entry. -/
def Field.sameEntries : List (String × Field) → List (String × Field) → Bool
  | [], [] => true
  | (k, f) :: as, (l, g) :: bs => k == l && f.same g && Field.sameEntries as bs
  | _, _ => false

end

instance : BEq Field := ⟨Field.same⟩

/-- Containers are equal if they hold equal fields in the same order. -/
instance : BEq Fields := ⟨fun a b => Field.sameEntries a.entries b.entries⟩

/-- The JSON text of a container, fields in the order in which they are kept. -/
def Fields.json (fields : Fields) : String :=
  "\x7b" ++ ",".intercalate (Field.jsonEntries fields.entries) ++ "\x7d"

end Scaffold
