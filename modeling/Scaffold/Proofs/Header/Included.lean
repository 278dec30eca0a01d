import Mathlib.Data.List.Sort
import Scaffold.Header
import Scaffold.Proofs.Text.Bytes

/-!
# What is included for some names

Of some names, those that look like classes are sorted, repetitions are dropped, and what is left is
qualified. Main facts:

* `sorted_perm`, `pairwise_sorted` : sorting keeps every name and puts them in ascending order, so
  that `List.mergeSort` gives the same (`sorted_eq_mergeSort`);
* `mem_dropRepeats`, `pairwise_dropRepeats` : dropping repetitions then keeps which names there are
  and leaves each of them once, so that the outcome is determined by which names there are
  (`ascending_eq_of_mem_iff`);
* `qualified_injective` : a class behind its module is none of the other names that look like
  classes, behind their modules or alone, because no module looks like a class;
* `includes_determined` : what is included, in which order, and that nothing else counts.
-/

namespace Scaffold.Header

/-! ## Sorting -/

/-- Putting a name in its place adds it and nothing else. -/
theorem insertName_perm (name : String) (names : List String) :
    (insertName name names).Perm (name :: names) := by
  induction names with
  | nil => exact .refl _
  | cons n rest ih =>
    rw [insertName]
    split_ifs
    · exact (ih.cons n).trans (.swap name n rest)
    · exact .refl _

/-- **Sorting keeps every name** as often as it is there. -/
theorem sorted_perm (names : List String) : (sorted names).Perm names := by
  induction names with
  | nil => exact .refl _
  | cons name rest ih => exact (insertName_perm name _).trans (ih.cons name)

theorem pairwise_insertName (name : String) {names : List String}
    (h : names.Pairwise (· ≤ ·)) : (insertName name names).Pairwise (· ≤ ·) := by
  induction names with
  | nil => exact List.pairwise_singleton _ _
  | cons n rest ih =>
    obtain ⟨hfirst, hrest⟩ := List.pairwise_cons.1 h
    rw [insertName]
    split_ifs with hlt
    · refine List.pairwise_cons.2 ⟨fun other hother => ?_, ih hrest⟩
      rcases List.mem_cons.1 ((insertName_perm name rest).mem_iff.1 hother) with rfl | hother
      · exact hlt.le
      · exact hfirst other hother
    · refine List.pairwise_cons.2 ⟨fun other hother => ?_, h⟩
      rcases List.mem_cons.1 hother with rfl | hother
      · exact not_lt.1 hlt
      · exact (not_lt.1 hlt).trans (hfirst other hother)

/-- **Sorted names ascend.** -/
theorem pairwise_sorted (names : List String) : (sorted names).Pairwise (· ≤ ·) := by
  induction names with
  | nil => exact .nil
  | cons name rest ih => exact pairwise_insertName name ih

/-- No other way of sorting gives another list. -/
theorem sorted_eq_mergeSort (names : List String) :
    sorted names = names.mergeSort fun name other => name ≤ other := by
  have hperm := (sorted_perm names).trans (List.mergeSort_perm names (· ≤ ·)).symm
  exact hperm.eq_of_pairwise (fun _ _ _ _ hle hge => le_antisymm hle hge) (pairwise_sorted names)
    (List.pairwise_mergeSort' (· ≤ ·) names)

/-! ## Repetitions -/

/-- Dropping repetitions loses no name. -/
theorem mem_dropRepeats {name : String} {names : List String} :
    name ∈ dropRepeats names ↔ name ∈ names := by
  fun_induction dropRepeats names with
  | case1 a rest ih =>
    rw [ih]
    simp
  | case2 a b rest hne ih => rw [List.mem_cons, ih, ← List.mem_cons]
  | case3 => exact Iff.rfl

/-- Of names that ascend, **no two are the same** once repetitions are dropped: equal names stand
side by side. -/
theorem pairwise_dropRepeats {names : List String} (h : names.Pairwise (· ≤ ·)) :
    (dropRepeats names).Pairwise (· < ·) := by
  fun_induction dropRepeats names with
  | case1 a rest ih => exact ih (List.pairwise_cons.1 h).2
  | case2 a b rest hne ih =>
    obtain ⟨hfirst, hrest⟩ := List.pairwise_cons.1 h
    refine List.pairwise_cons.2 ⟨fun other hother => ?_, ih hrest⟩
    have hab : a < b := lt_of_le_of_ne (hfirst b (.head rest)) hne
    rcases List.mem_cons.1 (mem_dropRepeats.1 hother) with rfl | hother
    · exact hab
    · exact hab.trans_le ((List.pairwise_cons.1 hrest).1 other hother)
  | case3 names hshort =>
    match names, hshort with
    | [], _ => exact .nil
    | [a], _ => exact List.pairwise_singleton _ a
    | a :: b :: rest, hshort => exact absurd rfl (hshort a b rest)

theorem loop_eq_dropRepeats (name : String) (names seen : List String) :
    List.eraseRepsBy.loop (· == ·) name names seen =
      seen.reverse ++ dropRepeats (name :: names) := by
  induction names generalizing name seen with
  | nil => exact List.reverse_cons
  | cons other rest ih =>
    rw [List.eraseRepsBy.loop, dropRepeats]
    by_cases hsame : name = other
    · subst hsame
      rw [beq_self_eq_true, if_pos rfl]
      exact ih name seen
    · rw [beq_false_of_ne hsame, if_neg hsame]
      dsimp only
      rw [ih, List.reverse_cons, List.append_assoc, List.singleton_append]

/-- Whether names are dropped at once or gathered on the way makes no difference. -/
theorem dropRepeats_eq_eraseReps (names : List String) : dropRepeats names = names.eraseReps := by
  cases names with
  | nil => rfl
  | cons name rest => exact (loop_eq_dropRepeats name rest []).symm

/-- **The two steps together** give a strict order. -/
theorem pairwise_ascending (names : List String) : (ascending names).Pairwise (· < ·) :=
  pairwise_dropRepeats (pairwise_sorted names)

theorem mem_ascending {name : String} {names : List String} :
    name ∈ ascending names ↔ name ∈ names :=
  mem_dropRepeats.trans (sorted_perm names).mem_iff

/-- Only which names there are counts, not their order and how often they occur. -/
theorem ascending_eq_of_mem_iff {names others : List String}
    (h : ∀ name, name ∈ names ↔ name ∈ others) : ascending names = ascending others :=
  (pairwise_ascending names).eq_of_mem_iff (pairwise_ascending others) fun name => by
    rw [mem_ascending, mem_ascending, h]

/-! ## Qualifying -/

theorem looksLikeClass_iff {name : String} :
    looksLikeClass name = true ↔
      ∃ c rest, name.toList = 'Q' :: c :: rest ∧ Text.isUppercase c = true := by
  rw [looksLikeClass]
  split
  · rename_i c rest heq
    constructor
    · exact fun hupper => ⟨c, rest, heq, hupper⟩
    · rintro ⟨d, others, hname, hupper⟩
      rw [heq] at hname
      cases hname
      exact hupper
  · rename_i hno
    refine iff_of_false (by simp) ?_
    rintro ⟨c, rest, hname, -⟩
    exact hno c rest hname

/-- A class whose module is known is one of the table. -/
theorem mem_modules_of_moduleOf? {name home : String} (h : moduleOf? name = some home) :
    (name, home) ∈ modules := by
  obtain ⟨before, after, hsplit, -⟩ := List.lookup_eq_some_iff.1 h
  rw [hsplit]
  exact List.mem_append_right _ List.mem_cons_self

/-- The first two characters decide what a name looks like. -/
theorem looksLikeClass_append {name : String} (h : 2 ≤ name.toList.length) (rest : String) :
    looksLikeClass (name ++ rest) = looksLikeClass name := by
  match hname : name.toList, h with
  | c :: d :: tail, _ =>
    have hboth : (name ++ rest).toList = c :: d :: (tail ++ rest.toList) := by
      rw [String.toList_append, hname]
      rfl
    rw [Bool.eq_iff_iff, looksLikeClass_iff, looksLikeClass_iff, hname, hboth]
    simp

/-- No module looks like a class, even with something behind it. -/
theorem looksLikeClass_behind {name home : String} (h : moduleOf? name = some home)
    (rest : String) : looksLikeClass (home ++ rest) = false := by
  have htable : ∀ e ∈ modules, 2 ≤ e.2.toList.length ∧ looksLikeClass e.2 = false := by decide
  obtain ⟨hlength, hlooks⟩ := htable _ (mem_modules_of_moduleOf? h)
  rw [looksLikeClass_append hlength, hlooks]

/-- **Qualified names are different** if the names are. -/
theorem qualified_injective {name other : String} (hname : looksLikeClass name = true)
    (hother : looksLikeClass other = true) (h : qualified name = qualified other) :
    name = other := by
  unfold qualified at h
  cases hn : moduleOf? name with
  | none =>
    cases ho : moduleOf? other with
    | none => rwa [hn, ho] at h
    | some home =>
      rw [hn, ho] at h
      dsimp only at h
      rw [h, String.append_assoc, looksLikeClass_behind ho] at hname
      cases hname
  | some home =>
    cases ho : moduleOf? other with
    | none =>
      rw [hn, ho] at h
      dsimp only at h
      rw [← h, String.append_assoc, looksLikeClass_behind hn] at hother
      cases hother
    | some house =>
      rw [hn, ho] at h
      have htable : ∀ e ∈ modules, ∀ f ∈ modules,
          e.2 ++ "/" ++ e.1 = f.2 ++ "/" ++ f.1 → e.1 = f.1 := by decide
      exact htable _ (mem_modules_of_moduleOf? hn) _ (mem_modules_of_moduleOf? ho) h

/-! ## Included names -/

theorem nodup_includes (names : List String) : (includes names).Nodup := by
  refine List.Nodup.map_on (fun name hname other hother h => ?_) (pairwise_ascending _).nodup
  rw [mem_ascending] at hname hother
  exact qualified_injective (List.mem_filter.1 hname).2 (List.mem_filter.1 hother).2 h

/-- **What is included** are the names that begin with a Q and an upper-case letter, each once, in
the order of their bytes, and behind their modules where these are known. No two of them are the
same then, and neither order nor repetition of the names that are given count. -/
theorem includes_determined (names : List String) :
    (∃ classes : List String,
      classes.Pairwise (fun name other => name.toUTF8.data < other.toUTF8.data) ∧
      (∀ name, name ∈ classes ↔
        name ∈ names ∧ ∃ c rest, name.toList = 'Q' :: c :: rest ∧ Text.isUppercase c = true) ∧
      includes names = classes.map fun name =>
        match moduleOf? name with
        | some home => home ++ "/" ++ name
        | none => name) ∧
    (includes names).Nodup ∧
    ∀ others : List String, (∀ name, name ∈ others ↔ name ∈ names) →
      includes others = includes names := by
  refine ⟨⟨ascending (names.filter looksLikeClass), ?_, fun name => ?_, rfl⟩, nodup_includes names,
    fun others h => ?_⟩
  · exact (pairwise_ascending _).imp fun hlt => (Text.toUTF8_lt_iff _ _).2 hlt
  · rw [mem_ascending, List.mem_filter, looksLikeClass_iff]
  · have hsame : ascending (others.filter looksLikeClass) =
        ascending (names.filter looksLikeClass) :=
      ascending_eq_of_mem_iff fun name => by rw [List.mem_filter, List.mem_filter, h]
    rw [includes, includes, hsame]

/-- A class that is given twice, one with a letter beyond ASCII, and names of no classes. -/
theorem includes_determined_shuffled :
    (∀ name, name ∈ ["QÄrger", "Qt", "QWidget", "QTimer"] ↔
      name ∈ ["QWidget", "QTimer", "QWidget", "Qt", "QÄrger"]) ∧
    includes ["QÄrger", "Qt", "QWidget", "QTimer"] =
      includes ["QWidget", "QTimer", "QWidget", "Qt", "QÄrger"] ∧
    includes ["QÄrger", "Qt", "QWidget", "QTimer"] =
      ["QTimer", "QtWidgets/QWidget", "QÄrger"] := by
  have hsame : ∀ name, name ∈ ["QÄrger", "Qt", "QWidget", "QTimer"] ↔
      name ∈ ["QWidget", "QTimer", "QWidget", "Qt", "QÄrger"] := by
    intro name
    simp only [List.mem_cons, List.not_mem_nil]
    tauto
  refine ⟨hsame, (includes_determined _).2.2 _ hsame, ?_⟩
  decide +kernel

end Scaffold.Header
