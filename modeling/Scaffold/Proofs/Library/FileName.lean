import Mathlib.Data.List.DropRight
import Scaffold.Library.Tokens
import Scaffold.Proofs.Path.Parts
import Scaffold.Proofs.Text.Finding

/-!
# File names with an extension

An extension is put behind a file name only if there is no point in what follows its last slash, so
that it can stay away. The key notion is `HasPoint`: there is a point behind the last slash. Main
facts:

* `exists_lastSegment` : a file name is what follows its last slash, behind a directory or alone;
* `hasPoint_append_iff` : where the point of a text of two can be;
* `withExtension_stable_iff` : an extension can be given again exactly if that leaves a name alone
  which has a point by then, or there is nothing to give;
* `exists_names_append` : whatever is put behind a file name belongs to its last segment;
* `names_withExtension_ne` : a file name that is given one extension and the same file name with
  another one behind it never have the same names.
-/

namespace Scaffold.Library

/-! ## The last segment -/

/-- A file name ends in its last segment, in which there is no slash. -/
theorem exists_lastSegment (fileName : String) :
    ∃ last : String, lastSegment fileName = last.toList ∧ '/' ∉ last.toList ∧
      (fileName = last ∨ ∃ front, fileName = front ++ "/" ++ last) := by
  rw [lastSegment, Text.lastPiece]
  cases hlast : Text.afterLast? ['/'] fileName.toList with
  | none =>
    exact ⟨fileName, rfl, Text.afterLast?_eq_none_iff.1 hlast, .inl rfl⟩
  | some last =>
    obtain ⟨⟨front, hfront⟩, hslash⟩ := Text.exists_of_afterLast?_singleton hlast
    refine ⟨String.ofList last, by simp, by simpa using hslash, .inr ⟨String.ofList front, ?_⟩⟩
    rw [← String.toList_inj, hfront]
    simp

/-- What follows the last slash of a text, or the whole text if there is none. -/
def behindSlash (s : String) : List Char := s.toList.rtakeWhile (· ≠ '/')

/-- A text without a slash belongs to the last segment of what is in front of it. -/
theorem behindSlash_append_of_not_mem {t : String} (ht : '/' ∉ t.toList) (s : String) :
    behindSlash (s ++ t) = behindSlash s ++ t.toList := by
  have hall : ∀ c ∈ t.toList.reverse, decide (c ≠ '/') = true := by
    intro c hc
    rw [decide_eq_true_eq]
    rintro rfl
    exact ht (List.mem_reverse.1 hc)
  rw [behindSlash, behindSlash, List.rtakeWhile, List.rtakeWhile, String.toList_append,
    List.reverse_append, List.takeWhile_append_of_pos hall, List.reverse_append,
    List.reverse_reverse]

theorem behindSlash_of_not_mem {t : String} (ht : '/' ∉ t.toList) : behindSlash t = t.toList := by
  rw [← String.empty_append (s := t), behindSlash_append_of_not_mem ht, String.empty_append]
  rfl

/-- A slash hides everything that is in front of it. -/
theorem behindSlash_append_of_mem {t : String} (ht : '/' ∈ t.toList) (s : String) :
    behindSlash (s ++ t) = behindSlash t := by
  have hstops : (t.toList.reverse.takeWhile (· ≠ '/')).length ≠ t.toList.reverse.length := by
    intro hlength
    have hself := (List.takeWhile_prefix _).eq_of_length hlength
    have hslash := List.takeWhile_eq_self_iff.1 hself '/' (List.mem_reverse.2 ht)
    exact absurd hslash (by decide)
  rw [behindSlash, behindSlash, List.rtakeWhile, List.rtakeWhile, String.toList_append,
    List.reverse_append, List.takeWhile_append, if_neg hstops]

/-- The last segment of a file name is what follows its last slash. -/
theorem lastSegment_eq_behindSlash (fileName : String) :
    lastSegment fileName = behindSlash fileName := by
  obtain ⟨last, hlast, hslash, hname⟩ := exists_lastSegment fileName
  rw [hlast]
  rcases hname with rfl | ⟨front, rfl⟩
  · exact (behindSlash_of_not_mem hslash).symm
  · rw [behindSlash_append_of_not_mem hslash, behindSlash_append_of_mem (by simp) front]
    rfl

/-! ## Points behind the last slash -/

/-- There is a point behind the last slash of a text. -/
def HasPoint (s : String) : Prop := '.' ∈ behindSlash s

instance (s : String) : Decidable (HasPoint s) := inferInstanceAs (Decidable ('.' ∈ behindSlash s))

/-- A point counts in what stands in front of a text only if the text has no slash. -/
theorem hasPoint_append_iff (s t : String) :
    HasPoint (s ++ t) ↔ HasPoint t ∨ '/' ∉ t.toList ∧ HasPoint s := by
  by_cases ht : '/' ∈ t.toList
  · rw [HasPoint, behindSlash_append_of_mem ht]
    simp [HasPoint, ht]
  · rw [HasPoint, behindSlash_append_of_not_mem ht, List.mem_append, HasPoint, HasPoint,
      behindSlash_of_not_mem ht]
    simp only [ht, not_false_eq_true, true_and]
    exact or_comm

theorem not_hasPoint_empty : ¬ HasPoint "" := by
  simp [HasPoint, behindSlash]

/-! ## Giving an extension -/

theorem withExtension_eq (fileName extension : String) :
    withExtension fileName extension =
      if HasPoint fileName then fileName else fileName ++ extension := by
  rw [withExtension, lastSegment_eq_behindSlash]
  by_cases h : HasPoint fileName
  · rw [if_pos h, if_pos (List.contains_iff_mem.2 h)]
  · rw [if_neg h, if_neg (mt List.contains_iff_mem.1 h)]

/-- A file name is left alone exactly if it has a point, or there is nothing to put behind it. -/
theorem withExtension_eq_self_iff (fileName extension : String) :
    withExtension fileName extension = fileName ↔ extension = "" ∨ HasPoint fileName := by
  rw [withExtension_eq]
  by_cases h : HasPoint fileName <;> simp [h]

/-- A file name that is given an extension has a point if it has one with or without it. -/
theorem hasPoint_withExtension_iff (fileName extension : String) :
    HasPoint (withExtension fileName extension) ↔
      HasPoint fileName ∨ HasPoint (fileName ++ extension) := by
  rw [withExtension_eq]
  by_cases h : HasPoint fileName <;> simp [h]

/-- **Giving an extension** leaves a file name alone if there is a point behind its last slash, and
puts the extension behind it otherwise. Giving it again changes nothing exactly if there is nothing
to give, or a point behind the last slash of the file name, with or without the extension. It
changes nothing for any file name exactly if the extension is empty or has a point of its own. -/
theorem withExtension_stable_iff (fileName extension : String) :
    withExtension fileName extension =
      (if HasPoint fileName then fileName else fileName ++ extension) ∧
    (withExtension (withExtension fileName extension) extension =
        withExtension fileName extension ↔
      extension = "" ∨ HasPoint fileName ∨ HasPoint (fileName ++ extension)) ∧
    ((∀ other, withExtension (withExtension other extension) extension =
        withExtension other extension) ↔
      extension = "" ∨ HasPoint extension) := by
  have hstable : ∀ other, withExtension (withExtension other extension) extension =
      withExtension other extension ↔
        extension = "" ∨ HasPoint other ∨ HasPoint (other ++ extension) := by
    intro other
    rw [withExtension_eq_self_iff, hasPoint_withExtension_iff]
  refine ⟨withExtension_eq fileName extension, hstable fileName, ?_⟩
  constructor
  · intro h
    -- the empty file name has no point of its own
    have hempty := (hstable "").1 (h "")
    rw [String.empty_append] at hempty
    rcases hempty with rfl | hpoint | hpoint
    · exact .inl rfl
    · exact absurd hpoint not_hasPoint_empty
    · exact .inr hpoint
  · intro h other
    rw [hstable]
    rcases h with rfl | hpoint
    · exact .inl rfl
    · exact .inr (.inr ((hasPoint_append_iff other extension).2 (.inl hpoint)))

/-- An extension without a point is put behind a file name every time. -/
example : withExtension (withExtension "dir.d/foo" "h") "h" = "dir.d/foohh" := by decide

/-! ## Names of files -/

/-- What is put behind a file name belongs to its last segment. -/
theorem exists_names_append (fileName : String) :
    ∃ (front : List String) (last : String), lastSegment fileName = last.toList ∧
      '/' ∉ last.toList ∧
      ∀ extension,
        Path.names (fileName ++ extension) = front ++ Path.names (last ++ extension) := by
  obtain ⟨last, hlast, hslash, rfl | ⟨front, rfl⟩⟩ := exists_lastSegment fileName
  · exact ⟨[], fileName, hlast, hslash, fun _ => rfl⟩
  · refine ⟨Path.names front, last, hlast, hslash, fun extension => ?_⟩
    rw [String.append_assoc, Path.names_append_slash]

/-- A text without slashes has no other name than itself. -/
theorem eq_of_mem_names {s n : String} (hslash : '/' ∉ s.toList) (hn : n ∈ Path.names s) :
    n = s := by
  rw [Path.names_eq_filterMap, Path.segments_of_no_slash hslash] at hn
  obtain ⟨segment, hsegment, hname⟩ := List.mem_filterMap.1 hn
  rw [List.mem_singleton.1 hsegment] at hname
  exact (Path.nameOf_eq_some_iff.1 hname).1.symm

/-- What can stand behind a file name and make it a name: it is not all points. -/
structure IsExtension (extension : String) : Prop where
  no_slash : '/' ∉ extension.toList
  has_letter : ∃ c ∈ extension.toList, c ≠ '.'

/-- A segment with an extension is a name. -/
theorem IsExtension.isName {extension last : String} (h : IsExtension extension)
    (hslash : '/' ∉ last.toList) : Path.IsName (last ++ extension) := by
  obtain ⟨c, hc, hpoint⟩ := h.has_letter
  have hmem : c ∈ (last ++ extension).toList := by simp [hc]
  -- the texts that are no names have points only
  refine ⟨?_, ?_, ?_, ?_⟩
  · intro hempty
    simp [hempty] at hmem
  · intro hhere
    simp [hhere, hpoint] at hmem
  · intro hup
    simp [hup, hpoint] at hmem
  · simp [hslash, h.no_slash]

/-- **Two extensions keep files apart**, also where the first of them stays away because the file
name has a point already. -/
theorem names_withExtension_ne {given other : String} (hgiven : '/' ∉ given.toList)
    (hother : IsExtension other) (hne : given ≠ other) (fileName : String) :
    Path.names (withExtension fileName given) ≠ Path.names (fileName ++ other) := by
  obtain ⟨front, last, hlast, hslash, hnames⟩ := exists_names_append fileName
  have hname : Path.IsName (last ++ other) := hother.isName hslash
  have hmem : last ++ other ∈ Path.names (last ++ other) := by
    rw [Path.names_eq_filterMap, hname.segments]
    simp [Path.nameOf, hname.partOf]
  intro hsame
  by_cases hpoint : HasPoint fileName
  · -- the first name is left alone, and the other one is longer
    have halone := hnames ""
    rw [String.append_empty, String.append_empty] at halone
    rw [withExtension_eq, if_pos hpoint, hnames, halone, List.append_cancel_left_eq] at hsame
    rw [← hsame] at hmem
    have hempty : other = "" := String.append_eq_left_iff.1 (eq_of_mem_names hslash hmem)
    obtain ⟨c, hc, -⟩ := hother.has_letter
    simp [hempty] at hc
  · rw [withExtension_eq, if_neg hpoint, hnames, hnames, List.append_cancel_left_eq] at hsame
    rw [← hsame] at hmem
    have hboth : last ++ other = last ++ given :=
      eq_of_mem_names (by simp [hslash, hgiven]) hmem
    exact hne (String.append_right_inj last |>.1 hboth).symm

end Scaffold.Library
