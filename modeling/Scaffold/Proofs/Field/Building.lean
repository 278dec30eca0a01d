import Mathlib.Data.Finset.Card
import Scaffold.Proofs.Expansion.Reporting

/-!
# Containers that are built up

A container is built from nothing by writing fields, by merging other containers into it, and by
collecting a list of fields. The key notions are `Construction`, how a container is built, and its
`writes`, all the fields that were written on the way, those of merged containers included. Main
facts:

* `Fields.get?_insertAll`, `Fields.keys_insertAll` : what writing fields one after another does to
  the values and to the names;
* `Fields.merge_insertAll` : merging a container is repeating the writes that built it, which rests
  on its names being distinct;
* `Construction.fields_eq` : a container is what its writes make of the empty one, however it was
  built;
* `construction_reflects_writes` : what its names, its values and its context are;
* `merge_is_ordered_monoid` : merging is associative, positions included, and does nothing with the
  empty container or with the container itself.
-/

namespace Scaffold

/-! ## The last of several writes -/

/-- The value that was written last under a name, if any was. -/
def lastValue {α : Type} (key : String) : List (String × α) → Option α
  | [] => none
  | (k, v) :: rest => (lastValue key rest).or (if k = key then some v else none)

section

variable {α : Type} {key : String}

theorem lastValue_eq_none_iff {writes : List (String × α)} :
    lastValue key writes = none ↔ key ∉ writes.map (·.1) := by
  induction writes with
  | nil => simp [lastValue]
  | cons w rest ih =>
    obtain ⟨k, v⟩ := w
    rw [lastValue, Option.or_eq_none_iff, ih, List.map_cons, List.mem_cons, not_or, and_comm]
    simp [eq_comm]

/-- The last value of a name is behind the last mention of it. -/
theorem lastValue_eq_some_iff {writes : List (String × α)} {value : α} :
    lastValue key writes = some value ↔
      ∃ before after, writes = before ++ (key, value) :: after ∧ key ∉ after.map (·.1) := by
  induction writes with
  | nil => simp [lastValue]
  | cons w rest ih =>
    obtain ⟨k, v⟩ := w
    rw [lastValue, Option.or_eq_some_iff]
    constructor
    · rintro (hrest | ⟨hrest, hhead⟩)
      · obtain ⟨before, after, rfl, hafter⟩ := ih.1 hrest
        exact ⟨(k, v) :: before, after, rfl, hafter⟩
      · split at hhead
        · rename_i hk
          cases hhead
          exact ⟨[], rest, by rw [hk]; rfl, lastValue_eq_none_iff.1 hrest⟩
        · cases hhead
    · rintro ⟨_ | ⟨first, before⟩, after, hsplit, hafter⟩
      · cases hsplit
        exact .inr ⟨lastValue_eq_none_iff.2 hafter, if_pos rfl⟩
      · cases hsplit
        exact .inl (ih.2 ⟨before, after, rfl, hafter⟩)

theorem mem_of_lastValue {writes : List (String × α)} {value : α}
    (h : lastValue key writes = some value) : (key, value) ∈ writes := by
  obtain ⟨before, after, rfl, -⟩ := lastValue_eq_some_iff.1 h
  exact List.mem_append_right _ List.mem_cons_self

theorem lastValue_map {β : Type} (f : α → β) (key : String) (writes : List (String × α)) :
    lastValue key (writes.map fun w => (w.1, f w.2)) = (lastValue key writes).map f := by
  induction writes with
  | nil => rfl
  | cons w rest ih =>
    obtain ⟨k, v⟩ := w
    rw [List.map_cons, lastValue, lastValue, ih, Option.map_or]
    split <;> rfl

end

/-! ## Single writes -/

section

variable {key other : String} {value : Field} {entries : List (String × Field)}

/-- Writing a name twice in a row is writing it once. -/
theorem Field.put_put (key : String) (old value : Field) (entries : List (String × Field)) :
    put key value (put key old entries) = put key value entries := by
  induction entries with
  | nil => simp [put]
  | cons e rest ih =>
    obtain ⟨k, v⟩ := e
    by_cases hk : k = key <;> simp [put, hk, ih]

/-- A write to a name that is there can be made earlier. -/
theorem Field.put_comm_of_mem (h : key ∈ entries.map Prod.fst) (hne : key ≠ other)
    (value field : Field) :
    put key value (put other field entries) = put other field (put key value entries) := by
  induction entries with
  | nil => cases h
  | cons e rest ih =>
    obtain ⟨k, v⟩ := e
    rw [List.map_cons, List.mem_cons] at h
    by_cases hk : k = key
    · subst hk
      simp [put, hne]
    · have hrest : key ∈ rest.map Prod.fst := h.resolve_left (Ne.symm hk)
      by_cases ho : k = other
      · subst ho
        simp [put, hk]
      · simp [put, hk, ho, ih hrest]

/-- Writing the value that is there changes nothing. -/
theorem Field.put_of_find (h : find key entries = some value) :
    put key value entries = entries := by
  induction entries with
  | nil => cases h
  | cons e rest ih =>
    obtain ⟨k, v⟩ := e
    rw [find] at h
    rw [put]
    by_cases hk : k = key
    · rw [if_pos hk] at h ⊢
      cases h
      rfl
    · rw [if_neg hk] at h ⊢
      rw [ih h]

/-- A new name goes to the end. -/
theorem Field.put_of_not_mem (h : key ∉ entries.map Prod.fst) (value : Field) :
    put key value entries = entries ++ [(key, value)] := by
  induction entries with
  | nil => rfl
  | cons e rest ih =>
    obtain ⟨k, v⟩ := e
    rw [List.map_cons, List.mem_cons, not_or] at h
    rw [put, if_neg (Ne.symm h.1), ih h.2, List.cons_append]

/-- A field of another name is not moved by a write. -/
theorem Field.getElem?_put (hne : key ≠ other) {field : Field} {i : Nat}
    (h : entries[i]? = some (other, field)) (value : Field) :
    (put key value entries)[i]? = some (other, field) := by
  induction entries generalizing i with
  | nil => cases h
  | cons e rest ih =>
    obtain ⟨k, v⟩ := e
    rw [put]
    cases i with
    | zero =>
      cases h
      rw [if_neg (Ne.symm hne)]
      rfl
    | succ i =>
      split
      · exact h
      · exact ih h

end

namespace Fields

variable {fields : Fields} {key other : String} {value : Field}
  {writes : List (String × Field)}

/-! ## Writes in turn -/

/-- **The last write of a name** counts; a name that is not written keeps its value. -/
theorem get?_insertAll (fields : Fields) (writes : List (String × Field)) (key : String) :
    (fields.insertAll writes).get? key = (lastValue key writes).or (fields.get? key) := by
  induction writes generalizing fields with
  | nil => rfl
  | cons w rest ih =>
    obtain ⟨k, v⟩ := w
    show ((fields.insert k v).insertAll rest).get? key = _
    rw [ih, get?_insert, lastValue, Option.or_assoc]
    by_cases hk : k = key
    · rw [if_pos hk, if_pos hk, Option.some_or]
    · rw [if_neg hk, if_neg hk, Option.none_or]

/-- **New names follow those that are there**, in the order of their first writes. -/
theorem keys_insertAll (fields : Fields) (writes : List (String × Field)) :
    (fields.insertAll writes).keys =
      fields.keys ++ ((writes.map (·.1)).filter (· ∉ fields.keys)).eraseDups := by
  induction writes generalizing fields with
  | nil => exact (List.append_nil _).symm
  | cons w rest ih =>
    obtain ⟨k, v⟩ := w
    show ((fields.insert k v).insertAll rest).keys = _
    rw [ih, keys_insert, List.map_cons]
    by_cases hk : k ∈ fields.keys
    · -- the name is there, so that this write only replaces a value
      rw [if_pos hk, List.filter_cons_of_neg (by simpa using hk)]
    · -- the name is new: it goes to the end, and counts as there from now on
      rw [if_neg hk, List.filter_cons_of_pos (by simpa using hk), List.eraseDups_cons,
        List.filter_filter, List.append_assoc, List.singleton_append]
      refine congrArg (fun names => fields.keys ++ k :: names.eraseDups)
        (List.filter_congr fun name _ => ?_)
      by_cases hname : name = k <;> simp [hname]

/-- **A field whose name is not written** stays where it is. -/
theorem getElem?_insertAll {name : String} {field : Field} (hname : name ∉ writes.map (·.1))
    {i : Nat} (h : fields.entries[i]? = some (name, field)) :
    (fields.insertAll writes).entries[i]? = some (name, field) := by
  induction writes generalizing fields with
  | nil => exact h
  | cons w rest ih =>
    obtain ⟨k, v⟩ := w
    rw [List.map_cons, List.mem_cons, not_or] at hname
    exact ih hname.2 (Field.getElem?_put (Ne.symm hname.1) h v)

/-- A write to a name that is there can be made before others to other names. -/
theorem insert_insertAll_of_mem (h : key ∈ fields.keys) (hwrites : key ∉ writes.map (·.1))
    (value : Field) :
    (fields.insertAll writes).insert key value = (fields.insert key value).insertAll writes := by
  induction writes generalizing fields with
  | nil => rfl
  | cons w rest ih =>
    obtain ⟨k, v⟩ := w
    rw [List.map_cons, List.mem_cons, not_or] at hwrites
    have hkept : key ∈ (fields.insert k v).keys := by
      rw [keys_insert]
      split
      · exact h
      · exact List.mem_append_left _ h
    have hcomm : (fields.insert k v).insert key value = (fields.insert key value).insert k v :=
      Fields.ext (Field.put_comm_of_mem h hwrites.1 value v)
    show ((fields.insert k v).insertAll rest).insert key value =
      ((fields.insert key value).insert k v).insertAll rest
    rw [ih hkept hwrites.2, hcomm]

/-- Writing fields of distinct names, one of them with another value, is writing that value last. -/
theorem insertAll_put {entries : List (String × Field)} (h : (entries.map (·.1)).Nodup)
    (fields : Fields) (key : String) (value : Field) :
    fields.insertAll (Field.put key value entries) =
      (fields.insertAll entries).insert key value := by
  induction entries generalizing fields with
  | nil => rfl
  | cons e rest ih =>
    obtain ⟨k, v⟩ := e
    rw [List.map_cons, List.nodup_cons] at h
    rw [Field.put]
    by_cases hk : k = key
    · subst hk
      have hthere : k ∈ (fields.insert k v).keys := by
        rw [keys_insert]
        split
        · assumption
        · simp
      rw [if_pos rfl]
      have htwice : (fields.insert k v).insert k value = fields.insert k value :=
        Fields.ext (Field.put_put k v value fields.entries)
      show (fields.insert k value).insertAll rest =
        ((fields.insert k v).insertAll rest).insert k value
      rw [insert_insertAll_of_mem hthere h.1, htwice]
    · rw [if_neg hk]
      exact ih h.2 (fields.insert k v)

/-- Writes that repeat what is there change nothing. -/
theorem insertAll_of_get? (h : ∀ e ∈ writes, fields.get? e.1 = some e.2) :
    fields.insertAll writes = fields := by
  induction writes with
  | nil => rfl
  | cons w rest ih =>
    obtain ⟨k, v⟩ := w
    have hfirst : fields.insert k v = fields :=
      Fields.ext (Field.put_of_find (h (k, v) List.mem_cons_self))
    show (fields.insert k v).insertAll rest = fields
    rw [hfirst]
    exact ih fun e he => h e (List.mem_cons_of_mem _ he)

/-- New fields of distinct names go to the end. -/
theorem insertAll_of_new (hdistinct : (writes.map (·.1)).Nodup)
    (hnew : ∀ name ∈ writes.map (·.1), name ∉ fields.keys) :
    (fields.insertAll writes).entries = fields.entries ++ writes := by
  induction writes generalizing fields with
  | nil => rw [List.append_nil]; rfl
  | cons w rest ih =>
    obtain ⟨k, v⟩ := w
    rw [List.map_cons, List.nodup_cons] at hdistinct
    have hk : k ∉ fields.keys := hnew k List.mem_cons_self
    have hfirst : (fields.insert k v).entries = fields.entries ++ [(k, v)] :=
      Field.put_of_not_mem hk v
    show ((fields.insert k v).insertAll rest).entries = _
    rw [ih hdistinct.2, hfirst, List.append_assoc, List.singleton_append]
    intro name hname
    rw [keys_insert, if_neg hk, List.mem_append, List.mem_singleton, not_or]
    refine ⟨hnew name (List.mem_cons_of_mem _ hname), ?_⟩
    rintro rfl
    exact hdistinct.1 hname

/-! ## Merging -/

/-- **Merging a container is repeating the writes that built it.** -/
theorem merge_insertAll (base fields : Fields) (writes : List (String × Field)) :
    fields.merge (base.insertAll writes) = (fields.merge base).insertAll writes := by
  induction writes generalizing base with
  | nil => rfl
  | cons w rest ih =>
    obtain ⟨k, v⟩ := w
    show fields.merge ((base.insert k v).insertAll rest) = _
    rw [ih]
    exact congrArg (·.insertAll rest) (insertAll_put base.nodup fields k v)

/-- A container is the collection of its fields. -/
theorem ofList_entries (fields : Fields) : ofList fields.entries = fields :=
  Fields.ext (insertAll_of_new fields.nodup fun _ _ => List.not_mem_nil)

/-- Every field of a container is found under its name. -/
theorem get?_of_mem {e : String × Field} (he : e ∈ fields.entries) :
    fields.get? e.1 = some e.2 := by
  obtain ⟨before, after, hsplit⟩ := List.append_of_mem he
  have hdistinct := fields.nodup
  rw [← ofList_entries fields, ofList, get?_insertAll, get?_empty, Option.or_none,
    lastValue_eq_some_iff]
  refine ⟨before, after, hsplit, fun hafter => ?_⟩
  rw [hsplit, List.map_append, List.map_cons, List.nodup_append] at hdistinct
  exact (List.nodup_cons.1 hdistinct.2.1).1 hafter

/-- Two containers with the same names in the same order and with the same values are the same. -/
theorem eq_of_get? {first second : Fields} (hkeys : first.keys = second.keys)
    (hget : ∀ key ∈ first.keys, first.get? key = second.get? key) : first = second := by
  have hpairs (c : Fields) :
      c.entries.map (fun e => (e.1, some e.2)) = c.keys.map fun key => (key, c.get? key) := by
    rw [keys, List.map_map]
    exact List.map_congr_left fun e he => congrArg (e.1, ·) (get?_of_mem he).symm
  have hentries : first.entries.map (fun e => (e.1, some e.2)) =
      second.entries.map fun e => (e.1, some e.2) := by
    rw [hpairs, hpairs, ← hkeys]
    exact List.map_congr_left fun key hkey => congrArg (key, ·) (hget key hkey)
  have hinjective : Function.Injective fun e : String × Field => (e.1, some e.2) := by
    rintro ⟨k, v⟩ ⟨k', v'⟩ h
    cases h
    rfl
  exact Fields.ext (List.map_injective_iff.2 hinjective hentries)

/-- Merging a container into itself changes nothing. -/
theorem merge_self (fields : Fields) : fields.merge fields = fields :=
  insertAll_of_get? fun _ he => get?_of_mem he

/-- Of a name that both containers have, the merged one counts. -/
theorem get?_merge (other fields : Fields) (key : String) :
    (fields.merge other).get? key = (other.get? key).or (fields.get? key) := by
  have hother : other.get? key = lastValue key other.entries := by
    rw [← Option.or_none (o := lastValue key other.entries), ← get?_empty key, ← get?_insertAll]
    exact congrArg (·.get? key) (ofList_entries other).symm
  rw [merge, get?_insertAll, hother]

end Fields

/-! ## Constructions -/

/-- How a container is built: from nothing, by writing a field, by merging a container that is built
in turn, or by collecting fields. -/
inductive Construction where
  | empty
  | insert (base : Construction) (key : String) (value : Field)
  | merge (base other : Construction)
  | collect (entries : List (String × Field))

namespace Construction

/-- The container that is built. -/
def fields : Construction → Fields
  | empty => .empty
  | insert base key value => base.fields.insert key value
  | merge base other => base.fields.merge other.fields
  | collect entries => .ofList entries

/-- Everything that is written on the way, in order. -/
def writes : Construction → List (String × Field)
  | empty => []
  | insert base key value => base.writes ++ [(key, value)]
  | merge base other => base.writes ++ other.writes
  | collect entries => entries

/-- **A container is what its writes make of the empty one**, however it was built. -/
theorem fields_eq (c : Construction) : c.fields = .ofList c.writes := by
  induction c with
  | empty => rfl
  | insert base key value ih =>
    rw [fields, writes, Fields.ofList, Fields.insertAll_append, ih]
    rfl
  | merge base other ihBase ihOther =>
    calc (merge base other).fields
        = (Fields.ofList base.writes).merge (.ofList other.writes) := by
          rw [fields, ihBase, ihOther]
      _ = (Fields.ofList base.writes).insertAll other.writes :=
          Fields.merge_insertAll .empty (.ofList base.writes) other.writes
      _ = .ofList (base.writes ++ other.writes) :=
          (Fields.insertAll_append .empty base.writes other.writes).symm
  | collect entries => rfl

/-- The names of a container are in the order in which they were first written. -/
theorem keys_eq (c : Construction) : c.fields.keys = (c.writes.map (·.1)).eraseDups := by
  rw [fields_eq, Fields.ofList, Fields.keys_insertAll]
  simp

/-- A container has the last value written under each name. -/
theorem get?_eq (c : Construction) (key : String) :
    c.fields.get? key = lastValue key c.writes := by
  rw [fields_eq, Fields.ofList, Fields.get?_insertAll, Fields.get?_empty, Option.or_none]

end Construction

/-- **What a container is like that has been built up**, in terms of all that was written: its names
are distinct, and in the order of their first writes; the value of a name is the one that was
written last, if any was; it has exactly the names that were written, and as many fields as there
are different ones; and its context binds exactly these names, once each, to the values that these
fields have in templates. -/
theorem construction_reflects_writes (c : Construction) :
    c.fields.keys.Nodup ∧
    c.fields.keys = (c.writes.map (·.1)).eraseDups ∧
    (∀ key, c.fields.get? key = lastValue key c.writes) ∧
    (∀ key, c.fields.contains key = true ↔ key ∈ c.writes.map (·.1)) ∧
    c.fields.size = (c.writes.map (·.1)).toFinset.card ∧
    ((Expansion.contextOf c.fields).map (·.1)).Perm c.fields.keys ∧
    ∀ key, (Expansion.contextOf c.fields).get? key =
      (lastValue key c.writes).map Field.toValue := by
  have hmem : ∀ key, key ∈ c.fields.keys ↔ key ∈ c.writes.map (·.1) := by
    intro key
    rw [c.keys_eq, List.mem_eraseDups]
  refine ⟨c.fields.nodup_keys, c.keys_eq, c.get?_eq, ?_, ?_, ?_, ?_⟩
  · intro key
    rw [Fields.contains_iff_mem_keys, hmem]
  · have hset : c.fields.keys.toFinset = (c.writes.map (·.1)).toFinset := by
      ext key
      rw [List.mem_toFinset, List.mem_toFinset, hmem]
    rw [← hset, List.toFinset_card_of_nodup c.fields.nodup_keys, Fields.keys, List.length_map,
      Fields.size]
  · rw [Expansion.names_contextOf]
    exact List.reverse_perm _
  · intro key
    rw [Expansion.get?_contextOf, c.get?_eq]

/-- A name that is written again keeps its place. -/
example : (Construction.insert (.collect [("a", .text "1"), ("b", .text "2")]) "a"
    (.text "3")).fields.entries = [("a", .text "3"), ("b", .text "2")] := by
  rfl

/-- **Merging is a monoid that respects the order and prefers the right side.** Containers that have
been built up can be merged from the left or from the right, with the same fields in the same order;
the empty container changes nothing on either side, and neither does merging a container into
itself; and a name has the value of the container that is merged, if that has one. -/
theorem merge_is_ordered_monoid (a b c : Construction) :
    (a.fields.merge b.fields).merge c.fields = a.fields.merge (b.fields.merge c.fields) ∧
    a.fields.merge .empty = a.fields ∧
    Fields.empty.merge a.fields = a.fields ∧
    a.fields.merge a.fields = a.fields ∧
    ∀ key, (a.fields.merge b.fields).get? key =
      (b.fields.get? key).or (a.fields.get? key) := by
  refine ⟨?_, rfl, ?_, ?_, ?_⟩
  · exact (Fields.merge_insertAll b.fields a.fields c.fields.entries).symm
  · exact Fields.ofList_entries a.fields
  · exact Fields.merge_self a.fields
  · exact Fields.get?_merge b.fields a.fields

end Scaffold
