import Scaffold.Template.Scope

/-!
# What a failed look-up says

A path that means nothing is reported with the name that is missing: its own, or that of an index
in its brackets. The key notion is `Unresolved.Misses`. Main facts:

* `length_lt_of_mem_indices` : the indices of a path are shorter than the path, so that looking
  them up never runs out of depth;
* `misses_of_resolve` : at whatever place of a page a look-up fails, a name that is said to be
  missing is not in the context.
-/

namespace Scaffold.Template

/-- A failed look-up says that a name is missing: the path is this name, or an index in it is. -/
inductive Unresolved.Misses (name : String) : Unresolved → Prop
  | name (page : String) : Unresolved.Misses name (.name name page)
  | inIndex (path : String) {cause : Unresolved} (h : cause.Misses name) :
      Unresolved.Misses name (.inIndex path cause)

/-! ## Outcomes -/

/-- An answer is one that there is. -/
theorem eq_ok_of_toOption {α ε : Type} {x : Except ε α} {a : α} (h : x.toOption = some a) :
    x = .ok a := by
  cases x with
  | error e => cases h
  | ok b =>
    cases h
    rfl

/-- What goes wrong in two steps goes wrong in one of them. -/
theorem eq_error_of_bind {α β ε : Type} {x : Except ε α} {f : α → Except ε β} {e : ε}
    (h : x >>= f = .error e) : x = .error e ∨ ∃ a, x = .ok a ∧ f a = .error e := by
  cases x with
  | error e' =>
    cases h
    exact .inl rfl
  | ok a => exact .inr ⟨a, rfl, h⟩

/-- What goes wrong when a list is gone through goes wrong at one of its items. -/
theorem exists_of_foldlM_eq_error {α β ε : Type} {f : β → α → Except ε β} {items : List α}
    {start : β} {e : ε} (h : items.foldlM f start = .error e) :
    ∃ item ∈ items, ∃ done, f done item = .error e := by
  induction items generalizing start with
  | nil => cases h
  | cons item items ih =>
    rw [List.foldlM_cons] at h
    rcases eq_error_of_bind h with hitem | ⟨done, -, hrest⟩
    · exact ⟨item, List.mem_cons_self, start, hitem⟩
    · obtain ⟨other, hother, done', hstep⟩ := ih hrest
      exact ⟨other, List.mem_cons_of_mem _ hother, done', hstep⟩

/-! ## Paths without points -/

/-- A character that does not occur in a text cuts it nowhere. -/
theorem cutFirst?_eq_none {c : Char} {cs : List Char} (h : c ∉ cs) :
    Text.cutFirst? [c] cs = none := by
  induction cs with
  | nil => rfl
  | cons x cs ih =>
    simp only [List.mem_cons, not_or] at h
    rw [Text.cutFirst?, Text.stripStart?, if_neg h.1]
    dsimp only
    rw [ih h.2]
    rfl

/-- A path without points is a name. -/
theorem splitPath_of_no_point {path : String} (h : '.' ∉ path.toList) :
    splitPath path = (path, none) := by
  rw [splitPath, cutFirst?_eq_none h]

/-- A name that means nothing is not in the context. -/
theorem Scope.get?_of_find? {scope : Scope} {name : String} (hname : '.' ∉ name.toList)
    (h : scope.find? name = none) : scope.context.get? name = none := by
  unfold Scope.find? at h
  rw [splitPath_of_no_point hname] at h
  split at h
  · cases h
  · cases hget : scope.context.get? name with
    | none => rfl
    | some v =>
      dsimp only at h
      rw [hget] at h
      cases h

/-! ## Indices -/

/-- The characters that an index can take from where a scan for indices has come to. -/
def Scope.IndexScan.room : Scope.IndexScan → List Char → Nat
  | .outside, cs => cs.length - 1
  | .opened, cs => cs.length
  | .inside _ read, cs => read.length + cs.length

/-- An index fits into what is left of the path. -/
theorem length_le_of_mem_indicesFrom {scan : Scope.IndexScan} {cs : List Char} {index : String}
    (h : index ∈ Scope.indicesFrom scan cs) : index.length ≤ scan.room cs := by
  induction cs generalizing scan with
  | nil => cases scan <;> cases h
  | cons c cs ih =>
    cases scan with
    | outside =>
      rw [Scope.indicesFrom] at h
      have hrest := ih h
      split at hrest
      · simpa [Scope.IndexScan.room] using hrest
      · simp only [Scope.IndexScan.room, List.length_cons] at hrest ⊢
        omega
    | opened =>
      rw [Scope.indicesFrom] at h
      have hrest := ih h
      split at hrest
      · simp only [Scope.IndexScan.room, List.length_cons] at hrest ⊢
        omega
      · simp only [Scope.IndexScan.room, List.length_cons, List.length_nil] at hrest ⊢
        omega
    | inside depth read =>
      rw [Scope.indicesFrom] at h
      dsimp only at h
      generalize (if c = ']' then depth - 1 else if c = '[' then depth + 1 else depth) = depth' at h
      by_cases hclosed : depth' = 0
      · -- the index ends here, and others may follow
        rw [if_pos hclosed, List.mem_append] at h
        rcases h with h | h
        · split at h
          · cases h
          · rw [List.mem_singleton] at h
            subst h
            simp only [Scope.IndexScan.room, String.length_ofList, List.length_reverse]
            omega
        · have hrest := ih h
          simp only [Scope.IndexScan.room, List.length_cons] at hrest ⊢
          omega
      · rw [if_neg hclosed] at h
        have hrest := ih h
        simp only [Scope.IndexScan.room, List.length_cons] at hrest ⊢
        omega

/-- **An index of a path is shorter than the path.** -/
theorem length_lt_of_mem_indices {path index : String} (h : index ∈ Scope.indices path)
    (hpath : path ≠ "") : index.length < path.length := by
  have hle := length_le_of_mem_indicesFrom h
  have hpos : path.length ≠ 0 := by
    rw [ne_eq, String.length_eq_zero_iff]
    exact hpath
  simp only [Scope.IndexScan.room, String.length_toList] at hle
  omega

/-! ## Looking up -/

/-- A name that is said to be missing is not in the context, if the depth suffices. -/
theorem Scope.misses_of_resolveAt {scope : Scope} {depth : Nat} {path : String} {u : Unresolved}
    (hdepth : path.length < depth) (h : scope.resolveAt depth path = .error u) {name : String}
    (hname : '.' ∉ name.toList) (hmisses : u.Misses name) : scope.context.get? name = none := by
  induction depth generalizing path u with
  | zero => omega
  | succ depth ih =>
    unfold Scope.resolveAt at h
    split at h
    · rename_i hbracket
      have hpath : path ≠ "" := by
        rintro rfl
        simp at hbracket
      rcases eq_error_of_bind h with hindices | ⟨evaluated, -, hfind⟩
      · -- an index could not be looked up, or has no text
        obtain ⟨index, hindex, done, hstep⟩ := exists_of_foldlM_eq_error hindices
        split at hstep
        · rename_i cause hcause
          cases hstep
          cases hmisses with
          | inIndex _ hmisses =>
            have hlength := length_lt_of_mem_indices hindex hpath
            exact ih (by omega) hcause hmisses
        · split at hstep
          · cases hstep
          · cases hstep
            cases hmisses
      · dsimp only at hfind
        split at hfind
        · cases hfind
        · cases hfind
          cases hmisses
    · split at h
      · cases h
      · rename_i hfind
        cases h
        cases hmisses
        exact scope.get?_of_find? hname hfind

/-- **A name that is said to be missing is not in the context.** -/
theorem Scope.misses_of_resolve {scope : Scope} {path : String} {u : Unresolved}
    (h : scope.resolve path = .error u) {name : String} (hname : '.' ∉ name.toList)
    (hmisses : u.Misses name) : scope.context.get? name = none := by
  unfold Scope.resolve at h
  split at h
  · cases h
  · exact Scope.misses_of_resolveAt (Nat.lt_succ_self _) h hname hmisses

end Scaffold.Template
