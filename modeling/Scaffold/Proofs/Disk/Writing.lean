import Scaffold.Proofs.Disk.Target

/-!
# What writing a file does to a disk

Writing a file first makes the directories that are missing above it and then puts the file at the
target of its path. The key notion is `AddsDirectories`: one disk is another one with directories
made at places that were free. Main facts:

* `ensureDirectories_adds` : making a directory with those above it does nothing else, even if it
  fails half way;
* `writeUnder_cases` : writing a file either fails and adds directories above the path at most, or
  puts the file as well, and the path leads to it from then on.
-/

namespace Scaffold

namespace Disk

/-! ## Places on the way -/

/-- A place is the target of a path that has the first of some parts. -/
def LiesOn (disk : Disk) (ps : List Path.Part) (place : Location) : Prop :=
  ∃ ancestor, Path.parts ancestor ≠ [] ∧ Path.parts ancestor <+: ps ∧ place = disk.target ancestor

/-- A place is the target of a path without its last parts. -/
def LiesAbove (disk : Disk) (path : String) (place : Location) : Prop :=
  disk.LiesOn (Path.parts path).dropLast place

theorem LiesOn.mono {disk : Disk} {ps qs : List Path.Part} {place : Location}
    (h : disk.LiesOn ps place) (hpre : ps <+: qs) : disk.LiesOn qs place := by
  obtain ⟨ancestor, hne, hps, rfl⟩ := h
  exact ⟨ancestor, hne, hps.trans hpre, rfl⟩

/-- Which places lie above a path depends on the working directory only. -/
theorem LiesAbove.congr {a b : Disk} (hworking : b.working = a.working) {path : String}
    {place : Location} (h : b.LiesAbove path place) : a.LiesAbove path place := by
  obtain ⟨ancestor, hne, hps, rfl⟩ := h
  exact ⟨ancestor, hne, hps, target_congr hworking ancestor⟩

/-! ## Directories that are added -/

/-- The second disk is the first one with directories made at some places that were free. -/
structure AddsDirectories (may : Location → Prop) (before after : Disk) : Prop where
  working : after.working = before.working
  get? : ∀ place, after.get? place = before.get? place ∨
    before.get? place = none ∧ after.get? place = some .directory ∧ may place

namespace AddsDirectories

variable {may : Location → Prop} {a b c : Disk}

theorem refl (may : Location → Prop) (disk : Disk) : AddsDirectories may disk disk :=
  ⟨rfl, fun _ => .inl rfl⟩

theorem trans (hab : AddsDirectories may a b) (hbc : AddsDirectories may b c) :
    AddsDirectories may a c := by
  refine ⟨hbc.working.trans hab.working, fun place => ?_⟩
  rcases hab.get? place with h | ⟨hnone, hdir, hmay⟩
  · rcases hbc.get? place with h' | ⟨hnone, hdir, hmay⟩
    · exact .inl (h'.trans h)
    · exact .inr ⟨h ▸ hnone, hdir, hmay⟩
  · rcases hbc.get? place with h' | ⟨hnone', -, -⟩
    · exact .inr ⟨hnone, h'.trans hdir, hmay⟩
    · rw [hdir] at hnone'
      cases hnone'

theorem mono {may' : Location → Prop} (h : AddsDirectories may a b)
    (hmay : ∀ place, may place → may' place) : AddsDirectories may' a b :=
  ⟨h.working, fun place => (h.get? place).imp id fun h => ⟨h.1, h.2.1, hmay place h.2.2⟩⟩

/-- Where something is, it stays. -/
theorem get?_of_isSome (h : AddsDirectories may a b) {place : Location}
    (hsome : (a.get? place).isSome = true) : b.get? place = a.get? place := by
  rcases h.get? place with h | ⟨hnone, -, -⟩
  · exact h
  · rw [hnone] at hsome
    cases hsome

/-- The files are the same. -/
theorem get?_file_iff (h : AddsDirectories may a b) (place : Location) (content : ByteArray) :
    b.get? place = some (.file content) ↔ a.get? place = some (.file content) := by
  rcases h.get? place with h | ⟨hnone, hdir, -⟩
  · rw [h]
  · rw [hnone, hdir]
    constructor <;> intro h <;> cases h

/-- What was reachable stays reachable. -/
theorem keeps (h : AddsDirectories may a b) : Keeps a b := by
  refine ⟨h.working, fun place hdir => ?_, fun place hsome => ?_⟩
  · have hsome : (a.get? place).isSome = true := by
      cases hget : a.get? place with
      | none =>
        rw [isDirectory, hget] at hdir
        cases hdir
      | some entry => rfl
    rw [isDirectory, h.get?_of_isSome hsome]
    exact hdir
  · rw [h.get?_of_isSome hsome]
    exact hsome

/-- A directory put at a free place. -/
theorem of_put {disk : Disk} {place : Location} (hne : place ≠ [])
    (hfree : disk.get? place = none) :
    AddsDirectories (· = place) disk (disk.put place .directory) := by
  refine ⟨rfl, fun other => ?_⟩
  rw [get?_put _ _ _ _ hne]
  by_cases hp : place = other
  · subst hp
    rw [if_pos rfl]
    exact .inr ⟨hfree, rfl, rfl⟩
  · rw [if_neg hp]
    exact .inl rfl

end AddsDirectories

/-! ## Making directories -/

/-- A directory can be made where the name of a slot is free. -/
theorem makeDirectory_eq_ok_iff {disk made : Disk} {path : String} :
    disk.makeDirectory path = .ok made ↔
      ∃ place name, disk.slot path = .ok (place, some name) ∧
        disk.get? (place ++ [name]) = none ∧ made = disk.put (place ++ [name]) .directory := by
  unfold makeDirectory
  rcases disk.slot path with fault | ⟨place, _ | name⟩
  · simp [bind, Except.bind]
  · simp [bind, Except.bind]
  · by_cases hfree : disk.get? (place ++ [name]) = none
    · simp [bind, Except.bind, hfree, eq_comm (a := made)]
    · simp [bind, Except.bind, hfree, Option.isSome_iff_ne_none]

/-- A directory that could be made is put at the target of its path, where nothing was. -/
theorem makeDirectory_eq_ok {disk made : Disk} {path : String}
    (h : disk.makeDirectory path = .ok made) :
    disk.target path ≠ [] ∧ disk.get? (disk.target path) = none ∧
      made = disk.put (disk.target path) .directory := by
  obtain ⟨place, name, hslot, hfree, rfl⟩ := makeDirectory_eq_ok_iff.1 h
  obtain ⟨slot⟩ := hasSlot_of_slot hslot
  rw [slot.target_eq]
  exact ⟨by simp, hfree, rfl⟩

/-- A directory that is ensured is there or has been made. -/
theorem ensureDirectory_adds {disk made : Disk} {path : String}
    (h : disk.ensureDirectory path = .ok made) :
    AddsDirectories (· = disk.target path) disk made := by
  unfold ensureDirectory at h
  split at h
  · rename_i made' hmake
    cases h
    obtain ⟨hne, hfree, rfl⟩ := makeDirectory_eq_ok hmake
    exact .of_put hne hfree
  · split at h
    · cases h
      exact .refl _ _
    · cases h

/-- **Making a directory with those above it** makes directories on its path and does nothing else,
whether or not it succeeds. -/
theorem ensureDirectories_adds (disk : Disk) (ps : List Path.Part)
    (hps : Path.AreParts ps.reverse) :
    AddsDirectories (disk.LiesOn ps.reverse) disk (disk.ensureDirectories ps).1 := by
  induction ps generalizing disk with
  | nil => exact .refl _ _
  | cons part above ih =>
    have hparts : Path.parts (Path.ofParts (part :: above).reverse) = (part :: above).reverse :=
      Path.parts_ofParts hps
    -- the directory itself is on its path
    have hself : ∀ {a b : Disk}, a.working = disk.working →
        a.ensureDirectory (Path.ofParts (part :: above).reverse) = .ok b →
        AddsDirectories (disk.LiesOn (part :: above).reverse) a b := by
      intro a b hworking hensure
      refine (ensureDirectory_adds hensure).mono fun place hplace => ?_
      refine ⟨Path.ofParts (part :: above).reverse, ?_, ?_, ?_⟩
      · rw [hparts]
        simp
      · exact ⟨[], by rw [List.append_nil, hparts]⟩
      · rw [hplace, target_congr hworking]
    have hup : AddsDirectories (disk.LiesOn (part :: above).reverse) disk
        (disk.ensureDirectories above).1 := by
      have habove : Path.AreParts above.reverse := by
        have htake := hps.take above.reverse.length
        rwa [List.reverse_cons, List.take_left] at htake
      refine (ih disk habove).mono fun place hplace => hplace.mono ?_
      rw [List.reverse_cons]
      exact List.prefix_append _ _
    unfold ensureDirectories
    dsimp only
    split
    · rename_i made hensure
      exact hself rfl hensure
    · split
      · rename_i made fault hmade
        rw [hmade] at hup
        exact hup
      · rename_i made hmade
        rw [hmade] at hup
        split
        · rename_i final hensure
          exact hup.trans (hself hup.working hensure)
        · exact hup
    · exact .refl _ _

/-! ## Writing files -/

/-- A file can be written where the name of a slot does not stand for a directory, under a path that
does not ask for one. -/
theorem writeFile_eq_ok_iff {disk final : Disk} {path : String} {content : ByteArray} :
    disk.writeFile path content = .ok final ↔
      ∃ place name, disk.slot path = .ok (place, some name) ∧
        path.toList.getLast? ≠ some '/' ∧ disk.isDirectory (place ++ [name]) = false ∧
        final = disk.put (place ++ [name]) (.file content) := by
  unfold writeFile
  rcases disk.slot path with fault | ⟨place, _ | name⟩
  · simp [bind, Except.bind]
  · simp [bind, Except.bind]
  · by_cases hslash : path.toList.getLast? = some '/'
    · simp [bind, Except.bind, hslash]
    · cases hdirectory : disk.isDirectory (place ++ [name]) with
      | false => simp [bind, Except.bind, hslash, hdirectory, eq_comm (a := final)]
      | true => simp [bind, Except.bind, hdirectory]

/-- A file that could be written is put at the target of its path, where no directory was, and its
path leads to it. -/
theorem writeFile_eq_ok {disk final : Disk} {path : String} {content : ByteArray}
    (h : disk.writeFile path content = .ok final) :
    disk.target path ≠ [] ∧ disk.isDirectory (disk.target path) = false ∧
      final = disk.put (disk.target path) (.file content) ∧
      final.locate path = .ok (disk.target path) := by
  obtain ⟨place, name, hslot, hslash, hfile, rfl⟩ := writeFile_eq_ok_iff.1 h
  obtain ⟨slot⟩ := hasSlot_of_slot hslot
  have hne : place ++ [name] ≠ [] := by simp
  rw [slot.target_eq]
  refine ⟨hne, hfile, rfl, ?_⟩
  refine locate_of_slot slot (keeps_put hne (.inl hfile)) ?_ (.inl (slot.slashes_eq_zero hslash))
  rw [get?_put _ _ _ _ hne, if_pos rfl]
  rfl

/-- What has been written: directories above the path were made as needed, and the file was put at
its target, where no directory was. -/
structure HasWritten (before : Disk) (path : String) (content : ByteArray) (after : Disk) :
    Prop where
  ne_root : before.target path ≠ []
  put : ∃ made, AddsDirectories (before.LiesAbove path) before made ∧
    made.isDirectory (before.target path) = false ∧
    after = made.put (before.target path) (.file content)
  leads : after.locate path = .ok (before.target path)

/-- **Writing a file** under a path fails and adds directories above it at most, or writes it. -/
theorem writeUnder_cases (disk : Disk) (path : String) (content : ByteArray) :
    (∃ made fault, disk.writeUnder path content = (made, some fault) ∧
      AddsDirectories (disk.LiesAbove path) disk made) ∨
    (∃ final, disk.writeUnder path content = (final, none) ∧
      HasWritten disk path content final) := by
  have hparts : Path.AreParts (Path.parts path).dropLast.reverse.reverse := by
    rw [List.reverse_reverse, List.dropLast_eq_take]
    exact (Path.areParts_parts path).take _
  have hadds := ensureDirectories_adds disk (Path.parts path).dropLast.reverse hparts
  rw [List.reverse_reverse] at hadds
  unfold writeUnder
  cases hmade : disk.ensureDirectories (Path.parts path).dropLast.reverse with
  | mk made fault? =>
    rw [hmade] at hadds
    cases fault? with
    | some fault => exact .inl ⟨made, fault, rfl, hadds⟩
    | none =>
      dsimp only
      cases hwrite : made.writeFile path content with
      | error fault => exact .inl ⟨made, fault, rfl, hadds⟩
      | ok final =>
        obtain ⟨hne, hdir, hput, hlocate⟩ := writeFile_eq_ok hwrite
        rw [target_congr hadds.working] at hne hdir hput hlocate
        exact .inr ⟨final, rfl, hne, ⟨made, hadds, hdir, hput⟩, hlocate⟩

namespace HasWritten

variable {before after : Disk} {path : String} {content : ByteArray}

/-- A write without fault has written. -/
theorem of_writeUnder (h : before.writeUnder path content = (after, none)) :
    HasWritten before path content after := by
  rcases before.writeUnder_cases path content with ⟨made, fault, hmade, -⟩ | ⟨final, hfinal, hw⟩
  · rw [h] at hmade
    cases hmade
  · rw [h] at hfinal
    cases hfinal
    exact hw

theorem working (h : HasWritten before path content after) : after.working = before.working := by
  obtain ⟨made, hadds, -, rfl⟩ := h.put
  exact hadds.working

/-- The file is where its path means. -/
theorem get?_target (h : HasWritten before path content after) :
    after.get? (before.target path) = some (.file content) := by
  obtain ⟨made, -, -, rfl⟩ := h.put
  rw [get?_put _ _ _ _ h.ne_root, if_pos rfl]

/-- Everywhere else there is what was there, or a directory above the file that has been made. -/
theorem get?_of_ne (h : HasWritten before path content after) {place : Location}
    (hne : place ≠ before.target path) :
    after.get? place = before.get? place ∨ before.get? place = none ∧
      after.get? place = some .directory ∧ before.LiesAbove path place := by
  obtain ⟨made, hadds, -, rfl⟩ := h.put
  rw [get?_put _ _ _ _ h.ne_root, if_neg (Ne.symm hne)]
  exact hadds.get? place

/-- What was reachable stays reachable. -/
theorem keeps (h : HasWritten before path content after) : Keeps before after := by
  obtain ⟨made, hadds, hdir, rfl⟩ := h.put
  exact hadds.keeps.trans (keeps_put h.ne_root (.inl hdir))

end HasWritten

end Disk

end Scaffold
