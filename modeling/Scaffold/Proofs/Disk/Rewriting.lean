import Scaffold.Proofs.Disk.Writing

/-!
# Writing files again

What becomes of a disk on which files have been written when they are written once more. The key
notions are `putFiles`, files that are put at their places in turn, and `Refiled`, a disk that
differs from another one in what its files contain at most. Main facts:

* `putFiles_eq_self` : files are put in turn without effect where the last one put at each place is
  there already;
* `writeUnder_again` : under a path under which a file has been written, any other content can be
  written, and no directory is made;
* `Refiled.fileAt?_eq` : a path leads to the same file on a refiled disk, unless its place is among
  those that may differ.
-/

namespace Scaffold.Disk

/-! ## Putting entries again -/

section PutEntry

variable (place other : Location) (entry entry' : Entry) (entries : List (Location × Entry))

theorem putEntry_of_findEntry (h : findEntry place entries = some entry) :
    putEntry place entry entries = entries := by
  induction entries with
  | nil => cases h
  | cons first rest ih =>
    obtain ⟨p, e⟩ := first
    rw [findEntry] at h
    rw [putEntry]
    by_cases hp : p = place
    · rw [if_pos hp] at h ⊢
      cases h
      rfl
    · rw [if_neg hp] at h ⊢
      rw [ih h]

theorem putEntry_putEntry :
    putEntry place entry' (putEntry place entry entries) = putEntry place entry' entries := by
  induction entries with
  | nil => simp only [putEntry, if_pos]
  | cons first rest ih =>
    obtain ⟨p, e⟩ := first
    rw [putEntry, putEntry]
    by_cases hp : p = place
    · rw [if_pos hp, if_pos hp, putEntry, if_pos hp]
    · rw [if_neg hp, if_neg hp, putEntry, if_neg hp, ih]

/-- Entries at different places can be put in either order. One of the places has to be there
already, or the two entries are added in the order in which they are put. -/
theorem putEntry_comm (hne : place ≠ other) (hpresent : (findEntry place entries).isSome = true) :
    putEntry other entry' (putEntry place entry entries) =
      putEntry place entry (putEntry other entry' entries) := by
  induction entries with
  | nil => cases hpresent
  | cons first rest ih =>
    obtain ⟨p, e⟩ := first
    rw [findEntry] at hpresent
    by_cases hp : p = place
    · subst hp
      rw [putEntry, if_pos rfl, putEntry, if_neg hne, putEntry, if_neg hne, putEntry, if_pos rfl]
    · rw [if_neg hp] at hpresent
      rw [putEntry, if_neg hp]
      by_cases ho : p = other
      · rw [putEntry, if_pos ho, putEntry, if_pos ho, putEntry, if_neg hp]
      · rw [putEntry, if_neg ho, putEntry, if_neg ho, putEntry, if_neg hp, ih hpresent]

end PutEntry

variable {disk : Disk} {place other : Location} {entry entry' : Entry}

/-- Where a file is, is not the root. -/
theorem ne_nil_of_get?_file {content : ByteArray} (h : disk.get? place = some (.file content)) :
    place ≠ [] := by
  rintro rfl
  cases h

theorem put_of_get? (hne : place ≠ []) (h : disk.get? place = some entry) :
    disk.put place entry = disk := by
  rw [get?, if_neg hne] at h
  rw [put, putEntry_of_findEntry _ _ _ h]

theorem put_put : (disk.put place entry).put place entry' = disk.put place entry' := by
  rw [put, put, put, putEntry_putEntry]

theorem put_comm (hplace : place ≠ []) (hne : place ≠ other)
    (hpresent : (disk.get? place).isSome = true) :
    (disk.put place entry).put other entry' = (disk.put other entry').put place entry := by
  rw [get?, if_neg hplace] at hpresent
  rw [put, put, put, put, putEntry_comm _ _ _ _ _ hne hpresent]

/-! ## Putting files in turn -/

/-- Puts files at their places one after the other. -/
def putFiles (disk : Disk) (files : List (Location × ByteArray)) : Disk :=
  files.foldl (fun disk f => disk.put f.1 (.file f.2)) disk

theorem putFiles_cons (disk : Disk) (f : Location × ByteArray)
    (files : List (Location × ByteArray)) :
    disk.putFiles (f :: files) = (disk.put f.1 (.file f.2)).putFiles files := rfl

/-- What is put at a place does not matter if a file is put there later. -/
theorem putFiles_put {files : List (Location × ByteArray)} (hplace : place ≠ [])
    (hpresent : (disk.get? place).isSome = true) (hlater : ∃ f ∈ files, f.1 = place) :
    (disk.put place entry).putFiles files = disk.putFiles files := by
  induction files generalizing disk with
  | nil =>
    obtain ⟨f, hf, -⟩ := hlater
    cases hf
  | cons f files ih =>
    rw [putFiles_cons, putFiles_cons]
    by_cases hf : f.1 = place
    · rw [hf, put_put]
    · have hrest : ∃ g ∈ files, g.1 = place := by
        obtain ⟨g, hg, hgplace⟩ := hlater
        rcases List.mem_cons.1 hg with rfl | hg
        · exact absurd hgplace hf
        · exact ⟨g, hg, hgplace⟩
      have hstays : ((disk.put f.1 (.file f.2)).get? place).isSome = true := by
        by_cases hroot : f.1 = []
        · rw [get?, if_neg hplace] at hpresent ⊢
          rw [put, findEntry_putEntry, if_neg hf]
          exact hpresent
        · rw [get?_put _ _ _ _ hroot, if_neg hf]
          exact hpresent
      rw [put_comm hplace (Ne.symm hf) hpresent, ih hstays hrest]

/-- **Files that are put in turn leave a disk as it is** if the last one that is put at each place
is there already. The induction drops the first file: it is overwritten later, or there already. -/
theorem putFiles_eq_self {files : List (Location × ByteArray)} (hplaces : ∀ f ∈ files, f.1 ≠ [])
    (hpresent : ∀ f ∈ files, (disk.get? f.1).isSome = true)
    (hlast : ∀ earlier f later, files = earlier ++ f :: later → (∀ g ∈ later, g.1 ≠ f.1) →
      disk.get? f.1 = some (.file f.2)) :
    disk.putFiles files = disk := by
  induction files with
  | nil => rfl
  | cons f files ih =>
    have hrest : disk.putFiles files = disk := by
      refine ih (fun g hg => hplaces g (.tail f hg)) (fun g hg => hpresent g (.tail f hg)) ?_
      intro earlier g later hsplit hlater
      exact hlast (f :: earlier) g later (by rw [hsplit, List.cons_append]) hlater
    rw [putFiles_cons]
    by_cases hlater : ∃ g ∈ files, g.1 = f.1
    · rw [putFiles_put (hplaces f (.head _)) (hpresent f (.head _)) hlater, hrest]
    · push Not at hlater
      rw [put_of_get? (hplaces f (.head _)) (hlast [] f files rfl hlater), hrest]

/-! ## Writing under the same path -/

/-- A slot that could be found is found again. -/
theorem Keeps.slot {before after : Disk} (h : Keeps before after) {path name : String}
    {place : Location} (hslot : before.slot path = .ok (place, some name)) :
    after.slot path = .ok (place, some name) := by
  obtain ⟨hcheck, hlast, hwalk, hdirectory, hpoints, hfits⟩ := slot_eq_ok_iff.1 hslot
  rw [← start_congr h.working] at hwalk
  exact slot_eq_ok_iff.2
    ⟨hcheck, hlast, h.walk hwalk, h.directory place hdirectory, hpoints, hfits⟩

/-- A directory that was reachable stays reachable. -/
theorem Keeps.hasDirectory {before after : Disk} (h : Keeps before after) {path : String}
    (hdirectory : before.hasDirectory path = true) : after.hasDirectory path = true := by
  unfold Disk.hasDirectory Disk.entryAt? at hdirectory
  cases hlocate : before.locate path with
  | error fault =>
    rw [hlocate] at hdirectory
    cases hdirectory
  | ok place =>
    rw [hlocate] at hdirectory
    exact hasDirectory_of_locate (h.locate hlocate) (h.directory place hdirectory)

/-- A directory that could be made is there now. -/
theorem hasDirectory_of_makeDirectory {disk made : Disk} {path : String}
    (h : disk.makeDirectory path = .ok made) : made.hasDirectory path = true := by
  obtain ⟨place, name, hslot, -, rfl⟩ := makeDirectory_eq_ok_iff.1 h
  obtain ⟨slot⟩ := hasSlot_of_slot hslot
  have hne : place ++ [name] ≠ [] := by simp
  have hget : (disk.put (place ++ [name]) .directory).get? (place ++ [name]) =
      some .directory := by
    rw [get?_put _ _ _ _ hne, if_pos rfl]
  have hthere : (disk.put (place ++ [name]) .directory).isDirectory (place ++ [name]) = true := by
    rw [isDirectory, hget]
  have hpresent :
      ((disk.put (place ++ [name]) .directory).get? (place ++ [name])).isSome = true := by
    rw [hget]
    rfl
  exact hasDirectory_of_locate
    (locate_of_slot slot (keeps_put hne (.inr rfl)) hpresent (.inr hthere)) hthere

/-- A directory that has been ensured is there. -/
theorem hasDirectory_of_ensureDirectory {disk made : Disk} {path : String}
    (h : disk.ensureDirectory path = .ok made) : made.hasDirectory path = true := by
  unfold ensureDirectory at h
  split at h
  · rename_i made' hmake
    cases h
    exact hasDirectory_of_makeDirectory hmake
  · split at h
    · rename_i hdirectory
      cases h
      exact hdirectory
    · cases h

/-- A directory that is there need not be made. -/
theorem ensureDirectory_of_hasDirectory {disk : Disk} {path : String}
    (h : disk.hasDirectory path = true) : disk.ensureDirectory path = .ok disk := by
  unfold ensureDirectory
  split
  · rename_i made hmake
    obtain ⟨-, hfree, -⟩ := makeDirectory_eq_ok hmake
    unfold hasDirectory entryAt? at h
    cases hlocate : disk.locate path with
    | error fault =>
      rw [hlocate] at h
      cases h
    | ok place =>
      rw [hlocate] at h
      dsimp only at h
      rw [locate_eq_target hlocate, hfree] at h
      cases h
  · rw [if_pos h]

/-- Directories that have been made need not be made again. -/
theorem ensureDirectories_again {before made after : Disk} {ps : List Path.Part}
    (h : before.ensureDirectories ps = (made, none)) (hkeeps : Keeps made after) :
    after.ensureDirectories ps = (after, none) := by
  cases ps with
  | nil => rfl
  | cons part above =>
    have hensured : ∃ disk : Disk,
        disk.ensureDirectory (Path.ofParts (part :: above).reverse) = .ok made := by
      unfold ensureDirectories at h
      dsimp only at h
      split at h
      · rename_i hensure
        cases h
        exact ⟨_, hensure⟩
      · split at h
        · cases h
        · split at h
          · rename_i hensure
            cases h
            exact ⟨_, hensure⟩
          · cases h
      · cases h
    obtain ⟨disk, hensure⟩ := hensured
    have hthere := hkeeps.hasDirectory (hasDirectory_of_ensureDirectory hensure)
    unfold ensureDirectories
    dsimp only
    rw [ensureDirectory_of_hasDirectory hthere]

/-- A file that could be written can be written with any content later. -/
theorem writeFile_again {before written after : Disk} {path : String} {content : ByteArray}
    (h : before.writeFile path content = .ok written) (hkeeps : Keeps before after)
    (hfile : after.isDirectory (after.target path) = false) (new : ByteArray) :
    after.writeFile path new = .ok (after.put (after.target path) (.file new)) := by
  obtain ⟨place, name, hslot, hslash, -, -⟩ := writeFile_eq_ok_iff.1 h
  obtain ⟨slot⟩ := hasSlot_of_slot hslot
  have hplace : after.target path = place ++ [name] := by
    rw [target_congr hkeeps.working, slot.target_eq]
  rw [hplace] at hfile ⊢
  exact writeFile_eq_ok_iff.2 ⟨place, name, hkeeps.slot hslot, hslash, hfile, rfl⟩

/-- **Under a path under which a file has been written** any content can be written later, unless a
directory has come in its place: the directories above it are there. -/
theorem writeUnder_again {before written after : Disk} {path : String} {content : ByteArray}
    (h : before.writeUnder path content = (written, none)) (hkeeps : Keeps written after)
    (hfile : after.isDirectory (after.target path) = false) (new : ByteArray) :
    after.writeUnder path new = (after.put (after.target path) (.file new), none) := by
  unfold writeUnder at h
  split at h
  · cases h
  · rename_i made hmade
    split at h
    · rename_i final hwrite
      cases h
      obtain ⟨hne, hdirectory, hput, -⟩ := writeFile_eq_ok hwrite
      have hmore : Keeps made after := by
        rw [hput] at hkeeps
        exact (keeps_put hne (.inl hdirectory)).trans hkeeps
      unfold writeUnder
      rw [ensureDirectories_again hmade hmore]
      dsimp only
      rw [writeFile_again hwrite hmore hfile new]
    · cases h

/-! ## Disks with other files -/

/-- What the file contains that a path leads to, if it leads to one. -/
def fileAt? (disk : Disk) (path : String) : Option ByteArray :=
  match disk.entryAt? path with
  | some (.file content) => some content
  | _ => none

/-- A path leads to a file if it leads to its target and the file is there. -/
theorem fileAt?_eq_some_iff {disk : Disk} {path : String} {content : ByteArray} :
    disk.fileAt? path = some content ↔
      disk.locate path = .ok (disk.target path) ∧
        disk.get? (disk.target path) = some (.file content) := by
  unfold fileAt? entryAt?
  cases hlocate : disk.locate path with
  | error fault =>
    constructor
    · intro h
      cases h
    · rintro ⟨h, -⟩
      cases h
  | ok place =>
    obtain rfl := locate_eq_target hlocate
    dsimp only
    constructor
    · intro h
      split at h
      · rename_i found hfound
        cases h
        exact ⟨rfl, hfound⟩
      · cases h
    · rintro ⟨-, h⟩
      rw [h]

/-- Two disks are the same, except that at some places they may have different files. -/
structure Refiled (may : Location → Prop) (before after : Disk) : Prop where
  working : after.working = before.working
  get? : ∀ place, after.get? place = before.get? place ∨
    may place ∧ (∃ content, before.get? place = some (.file content)) ∧
      ∃ content, after.get? place = some (.file content)

namespace Refiled

variable {may : Location → Prop} {a b c : Disk}

theorem refl (may : Location → Prop) (disk : Disk) : Refiled may disk disk :=
  ⟨rfl, fun _ => .inl rfl⟩

theorem symm (h : Refiled may a b) : Refiled may b a := by
  refine ⟨h.working.symm, fun place => ?_⟩
  rcases h.get? place with hsame | ⟨hmay, hbefore, hafter⟩
  · exact .inl hsame.symm
  · exact .inr ⟨hmay, hafter, hbefore⟩

/-- One more file that is put where there is one. -/
theorem put (h : Refiled may a b) {place : Location} (hne : place ≠ []) (hmay : may place)
    {content : ByteArray} (hfile : a.get? place = some (.file content)) (new : ByteArray) :
    Refiled may a (b.put place (.file new)) := by
  refine ⟨h.working, fun other => ?_⟩
  rw [get?_put _ _ _ _ hne]
  by_cases hplace : place = other
  · subst hplace
    rw [if_pos rfl]
    exact .inr ⟨hmay, ⟨content, hfile⟩, ⟨new, rfl⟩⟩
  · rw [if_neg hplace]
    exact h.get? other

/-- The directories are the same. -/
theorem isDirectory_eq (h : Refiled may a b) (place : Location) :
    b.isDirectory place = a.isDirectory place := by
  unfold isDirectory
  rcases h.get? place with hsame | ⟨-, ⟨_, hbefore⟩, ⟨_, hafter⟩⟩
  · rw [hsame]
  · rw [hbefore, hafter]

/-- What is reachable is the same. -/
theorem keeps (h : Refiled may a b) : Keeps a b := by
  refine ⟨h.working, fun place hdirectory => ?_, fun place hpresent => ?_⟩
  · rw [h.isDirectory_eq]
    exact hdirectory
  · rcases h.get? place with hsame | ⟨-, -, ⟨_, hafter⟩⟩
    · rw [hsame]
      exact hpresent
    · rw [hafter]
      rfl

/-- **A path leads to the same file**, unless its place is among those that may differ. -/
theorem fileAt?_eq (h : Refiled may a b) {path : String}
    (hplace : (a.fileAt? path).isSome = true → ¬ may (a.target path)) :
    b.fileAt? path = a.fileAt? path := by
  have htarget : b.target path = a.target path := target_congr h.working path
  cases hfound : a.fileAt? path with
  | some content =>
    rw [hfound] at hplace
    obtain ⟨hlocate, hget⟩ := fileAt?_eq_some_iff.1 hfound
    rw [fileAt?_eq_some_iff, htarget]
    refine ⟨h.keeps.locate hlocate, ?_⟩
    rcases h.get? (a.target path) with hsame | ⟨hmay, -⟩
    · rw [hsame, hget]
    · exact absurd hmay (hplace rfl)
  | none =>
    -- a file that the path leads to now would have been one before
    cases hnow : b.fileAt? path with
    | none => rfl
    | some content =>
      exfalso
      obtain ⟨hlocate, hget⟩ := fileAt?_eq_some_iff.1 hnow
      rw [htarget] at hlocate hget
      have hback := h.symm.keeps.locate hlocate
      have hbefore : ∃ content, a.get? (a.target path) = some (.file content) := by
        rcases h.get? (a.target path) with hsame | ⟨-, hfile, -⟩
        · exact ⟨content, hsame ▸ hget⟩
        · exact hfile
      obtain ⟨content', hget'⟩ := hbefore
      rw [fileAt?_eq_some_iff.2 ⟨hback, hget'⟩] at hfound
      cases hfound

/-- **Where a file has been written** and where there is one in the end, another text is put in its
place, also on a disk with other files. -/
theorem writeUnder_again {before written : Disk} {path : String} {bytes content : ByteArray}
    (hothers : Refiled may a b) (hwrite : before.writeUnder path bytes = (written, none))
    (hkeeps : Keeps written a) (hcontent : a.get? (a.target path) = some (.file content))
    (new : ByteArray) : b.writeUnder path new = (b.put (a.target path) (.file new), none) := by
  have htarget : b.target path = a.target path := target_congr hothers.working path
  have hfile : b.isDirectory (b.target path) = false := by
    rw [hothers.isDirectory_eq, htarget, isDirectory, hcontent]
  rw [Disk.writeUnder_again hwrite (hkeeps.trans hothers.keeps) hfile new, htarget]

end Refiled

end Scaffold.Disk
