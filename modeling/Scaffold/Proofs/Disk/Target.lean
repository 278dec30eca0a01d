import Scaffold.Disk.Basic
import Scaffold.Proofs.Path.Parts

/-!
# Where paths lead

There are no links on a disk, so where a path can lead is known from its text and the working
directory alone: `Disk.target`. Main facts:

* `locate_eq_target` : a path that leads anywhere leads to its target;
* `target_below` : a path placed below a directory leads to a place below that directory, found by
  its names;
* `locate_of_slot` : once the last name of a path is there, the path leads to its target;
* `passes_of_locate_foldl_join` : a path placed below a directory passes through it.
-/

namespace Scaffold.Disk

/-! ## Targets -/

/-- Follows one part of a path from a location. -/
def follow (place : Location) : Path.Part → Location
  | .root => []
  | .here => place
  | .up => place.dropLast
  | .name s => place ++ [s]

/-- The location that a path means, whatever is on the disk. -/
def target (disk : Disk) (path : String) : Location :=
  (Path.parts path).foldl follow disk.working

/-- Following names appends them. -/
theorem foldl_follow_names (place : Location) (ns : List String) :
    (ns.map Path.Part.name).foldl follow place = place ++ ns := by
  induction ns generalizing place with
  | nil => simp
  | cons n ns ih =>
    rw [List.map_cons, List.foldl_cons, ih, follow]
    simp

/-- **The target of a path placed below a directory** is found by its names from there. -/
theorem target_below (disk : Disk) {directory : String} (hdir : directory ≠ "") (path : String) :
    disk.target (Path.below directory path) = disk.target directory ++ Path.names path := by
  rw [target, Path.parts_below hdir, List.foldl_append, foldl_follow_names]
  rfl

/-- Paths placed below the same directory have the same target only if they are the same path. -/
theorem below_eq_of_target_eq (disk : Disk) {directory : String} (hdir : directory ≠ "")
    {x y : String}
    (h : disk.target (Path.below directory x) = disk.target (Path.below directory y)) :
    Path.below directory x = Path.below directory y := by
  rw [target_below disk hdir, target_below disk hdir] at h
  exact (Path.below_eq_below_iff hdir x y).2 (List.append_cancel_left h)

/-- Targets depend on the working directory only. -/
theorem target_congr {a b : Disk} (h : a.working = b.working) (path : String) :
    a.target path = b.target path := by
  rw [target, target, h]

/-- Where a path starts is where its first part leads. -/
theorem start_eq (disk : Disk) (path : String) :
    disk.start path = (Path.opening path).foldl follow disk.working := by
  unfold start Path.opening
  split
  · rfl
  · split <;> rfl

/-- Where a path starts depends on the working directory only. -/
theorem start_congr {a b : Disk} (h : a.working = b.working) (path : String) :
    a.start path = b.start path := by
  rw [start, start, h]

/-! ## Walking -/

/-- **A step is taken from a directory**, to where the piece leads; a name that it takes is there
and is not too long. -/
theorem step_eq_ok_iff {disk : Disk} {place next : Location} {segment : String} :
    disk.step place segment = .ok next ↔
      disk.isDirectory place = true ∧
        (∀ s, Path.partOf segment = some (.name s) →
          ¬ nameLimit < s.utf8ByteSize ∧ (disk.get? (place ++ [s])).isSome = true) ∧
        next = (Path.partOf segment).toList.foldl follow place := by
  unfold step Path.partOf
  constructor
  · intro h
    split at h
    · rename_i hdirectory
      refine ⟨hdirectory, ?_⟩
      split at h
      · rename_i hhere
        cases h
        rw [if_pos hhere]
        refine ⟨fun s hs => ?_, rfl⟩
        cases hs
      · rename_i hhere
        rw [if_neg hhere]
        split at h
        · rename_i hup
          cases h
          rw [if_pos hup]
          refine ⟨fun s hs => ?_, rfl⟩
          cases hs
        · rename_i hup
          rw [if_neg hup]
          split at h
          · cases h
          · rename_i hfits
            split at h
            · rename_i hpresent
              cases h
              refine ⟨fun s hs => ?_, rfl⟩
              cases hs
              exact ⟨hfits, hpresent⟩
            · cases h
    · cases h
  · rintro ⟨hdirectory, hname, rfl⟩
    rw [if_pos hdirectory]
    by_cases hhere : segment = "" ∨ segment = "."
    · rw [if_pos hhere, if_pos hhere]
      rfl
    · rw [if_neg hhere] at hname ⊢
      rw [if_neg hhere]
      by_cases hup : segment = ".."
      · rw [if_pos hup, if_pos hup]
        rfl
      · rw [if_neg hup] at hname ⊢
        rw [if_neg hup]
        obtain ⟨hfits, hpresent⟩ := hname segment rfl
        rw [if_neg hfits, if_pos hpresent]
        rfl

/-- Steps lead to where their pieces lead. -/
theorem walk_eq_ok {disk : Disk} {place last : Location} {segments : List String}
    (h : disk.walk place segments = .ok last) :
    last = (segments.filterMap Path.partOf).foldl follow place := by
  induction segments generalizing place with
  | nil =>
    cases h
    rfl
  | cons segment rest ih =>
    unfold walk at h
    split at h
    · rename_i next hstep
      have hnext := (step_eq_ok_iff.1 hstep).2.2
      rw [ih h, hnext, List.filterMap_cons]
      cases Path.partOf segment <;> rfl
    · cases h

/-- Walking on is walking twice. -/
theorem walk_append (disk : Disk) (place : Location) (first second : List String) :
    disk.walk place (first ++ second) =
      match disk.walk place first with
      | .ok middle => disk.walk middle second
      | .error fault => .error fault := by
  induction first generalizing place with
  | nil => rfl
  | cons segment rest ih =>
    rw [List.cons_append, walk, walk]
    cases disk.step place segment with
    | error fault => rfl
    | ok next => exact ih next

/-- The last of some steps is taken from a directory, where those before it lead. -/
theorem exists_walk_of_concat {disk : Disk} {place last : Location} {front : List String}
    {segment : String} (h : disk.walk place (front ++ [segment]) = .ok last) :
    ∃ middle, disk.walk place front = .ok middle ∧ disk.isDirectory middle = true := by
  rw [walk_append] at h
  split at h
  · rename_i middle hmiddle
    refine ⟨middle, hmiddle, ?_⟩
    rw [walk] at h
    split at h
    · rename_i next hnext
      exact (step_eq_ok_iff.1 hnext).1
    · cases h
  · cases h

/-- A path leads where its pieces do, if it is one that a disk can hold. -/
theorem locate_eq_ok_iff {disk : Disk} {path : String} {place : Location} :
    disk.locate path = .ok place ↔
      checkPath path = .ok () ∧ path ≠ "" ∧
        disk.walk (disk.start path) (Path.segments path) = .ok place := by
  unfold locate
  cases hcheck : checkPath path with
  | error fault =>
    constructor
    · intro h
      cases h
    · rintro ⟨h, -⟩
      cases h
  | ok =>
    show (if path = "" then Except.error Fault.missing
      else disk.walk (disk.start path) (Path.segments path)) = .ok place ↔ _
    by_cases hpath : path = ""
    · rw [if_pos hpath]
      constructor
      · intro h
        cases h
      · rintro ⟨-, h, -⟩
        exact absurd hpath h
    · rw [if_neg hpath]
      constructor
      · intro h
        exact ⟨rfl, hpath, h⟩
      · rintro ⟨-, -, h⟩
        exact h

/-- **A path that leads anywhere leads to its target.** -/
theorem locate_eq_target {disk : Disk} {path : String} {place : Location}
    (h : disk.locate path = .ok place) : place = disk.target path := by
  obtain ⟨-, -, hwalk⟩ := locate_eq_ok_iff.1 h
  rw [walk_eq_ok hwalk, start_eq, target, Path.parts, List.foldl_append]

/-! ## The slot of a path -/

/-- What a slot with a name says about its path: the pieces before the name have been walked, only
slashes follow it. -/
structure HasSlot (disk : Disk) (path : String) (place : Location) (name : String) where
  front : List String
  slashes : Nat
  checked : checkPath path = .ok ()
  segments : Path.segments path = front ++ name :: List.replicate slashes ""
  walked : disk.walk (disk.start path) front = .ok place
  directory : disk.isDirectory place = true
  isName : Path.IsName name
  fits : ¬ nameLimit < name.utf8ByteSize

/-- The pieces behind trailing slashes are empty. -/
theorem exists_eq_append_replicate (segments : List String) :
    ∃ n, segments = withoutTrailing segments ++ List.replicate n "" := by
  have hsplit := List.takeWhile_append_dropWhile (p := (· == "")) (l := segments.reverse)
  refine ⟨(segments.reverse.takeWhile (· == "")).length, ?_⟩
  have hempty : segments.reverse.takeWhile (· == "")
      = List.replicate (segments.reverse.takeWhile (· == "")).length "" := by
    rw [List.eq_replicate_iff]
    exact ⟨rfl, fun b hb => by simpa using List.all_eq_true.1 List.all_takeWhile b hb⟩
  have hrev := congrArg List.reverse hsplit
  rw [List.reverse_append, List.reverse_reverse, hempty, List.reverse_replicate] at hrev
  exact hrev.symm

/-- The last piece before trailing slashes is not empty. -/
theorem getLast?_withoutTrailing_ne {segments : List String} {last : String}
    (h : (withoutTrailing segments).getLast? = some last) : last ≠ "" := by
  rw [withoutTrailing, List.getLast?_reverse] at h
  have := List.head?_dropWhile_not (· == "") segments.reverse
  rw [h] at this
  simpa using this

/-- What is checked for a slot with a name. -/
theorem slot_eq_ok_iff {disk : Disk} {path : String} {place : Location} {name : String} :
    disk.slot path = .ok (place, some name) ↔
      checkPath path = .ok () ∧ (withoutTrailing (Path.segments path)).getLast? = some name ∧
        disk.walk (disk.start path) (withoutTrailing (Path.segments path)).dropLast = .ok place ∧
        disk.isDirectory place = true ∧ ¬ (name = "." ∨ name = "..") ∧
        ¬ nameLimit < name.utf8ByteSize := by
  unfold slot
  constructor
  · intro h
    cases hcheck : checkPath path with
    | error fault =>
      rw [hcheck] at h
      cases h
    | ok =>
      rw [hcheck] at h
      simp only [bind, Except.bind] at h
      cases hlast : (withoutTrailing (Path.segments path)).getLast? with
      | none =>
        rw [hlast] at h
        dsimp only at h
        split at h <;> cases h
      | some last =>
        rw [hlast] at h
        dsimp only at h
        cases hwalk :
            disk.walk (disk.start path) (withoutTrailing (Path.segments path)).dropLast with
        | error fault =>
          rw [hwalk] at h
          cases h
        | ok middle =>
          rw [hwalk] at h
          dsimp only at h
          split at h
          · rename_i hdirectory
            split at h
            · cases h
            · rename_i hpoints
              split at h
              · cases h
              · rename_i hfits
                cases h
                exact ⟨rfl, rfl, rfl, hdirectory, hpoints, hfits⟩
          · cases h
  · rintro ⟨hcheck, hlast, hwalk, hdirectory, hpoints, hfits⟩
    rw [hcheck]
    simp only [bind, Except.bind]
    rw [hlast]
    dsimp only
    rw [hwalk]
    dsimp only
    rw [if_pos hdirectory, if_neg hpoints, if_neg hfits]

/-- **What a slot with a name says.** -/
theorem hasSlot_of_slot {disk : Disk} {path : String} {place : Location} {name : String}
    (h : disk.slot path = .ok (place, some name)) : Nonempty (disk.HasSlot path place name) := by
  obtain ⟨hcheck, hlast, hwalk, hdir, hpoints, hfits⟩ := slot_eq_ok_iff.1 h
  obtain ⟨n, hn⟩ := exists_eq_append_replicate (Path.segments path)
  have hne : withoutTrailing (Path.segments path) ≠ [] := by
    intro he
    rw [he] at hlast
    cases hlast
  -- the name is the last piece, and only slashes follow it
  have hfront : Path.segments path =
      (withoutTrailing (Path.segments path)).dropLast ++ name :: List.replicate n "" := by
    have hname : (withoutTrailing (Path.segments path)).getLast hne = name :=
      Option.some.inj ((List.getLast?_eq_some_getLast hne).symm.trans hlast)
    have hsplit := List.dropLast_concat_getLast hne
    rw [hname] at hsplit
    rw [List.append_cons, hsplit]
    exact hn
  have hmem : name ∈ Path.segments path := by
    rw [hfront]
    simp
  have hisName : Path.IsName name :=
    ⟨getLast?_withoutTrailing_ne hlast, fun he => hpoints (.inl he), fun he => hpoints (.inr he),
      Path.slash_not_mem_of_mem_segments hmem⟩
  exact ⟨⟨_, n, hcheck, hfront, hwalk, hdir, hisName, hfits⟩⟩

/-- Empty pieces stand for no part. -/
theorem filterMap_replicate_empty (n : Nat) :
    (List.replicate n "").filterMap Path.partOf = [] := by
  induction n with
  | zero => rfl
  | succ n ih => rw [List.replicate_succ, List.filterMap_cons, ih]; rfl

/-- The slot of a path is where its target is. -/
theorem HasSlot.target_eq {disk : Disk} {path : String} {place : Location} {name : String}
    (h : disk.HasSlot path place name) : disk.target path = place ++ [name] := by
  rw [target, Path.parts, List.foldl_append, ← start_eq, h.segments, List.filterMap_append,
    List.foldl_append, ← walk_eq_ok h.walked, List.filterMap_cons, h.isName.partOf,
    filterMap_replicate_empty]
  rfl

/-- A path with a name as a piece is not empty. -/
theorem HasSlot.ne_empty {disk : Disk} {path : String} {place : Location} {name : String}
    (h : disk.HasSlot path place name) : path ≠ "" := by
  rintro rfl
  have hmem : name ∈ Path.segments "" := by
    rw [h.segments]
    simp
  rw [Path.segments_of_no_slash (by simp), List.mem_singleton] at hmem
  exact h.isName.ne_empty hmem

/-- A path without a slash at its end has nothing behind its name. -/
theorem HasSlot.slashes_eq_zero {disk : Disk} {path : String} {place : Location} {name : String}
    (h : disk.HasSlot path place name) (hslash : path.toList.getLast? ≠ some '/') :
    h.slashes = 0 := by
  cases hn : h.slashes with
  | zero => rfl
  | succ n =>
    have hlast : (Path.segments path).getLast? = some "" := by
      rw [h.segments, hn, List.replicate_succ', ← List.cons_append, ← List.append_assoc,
        List.getLast?_concat]
    exact absurd (Path.getLast?_eq_slash hlast h.ne_empty) hslash

/-! ## What stays reachable -/

/-- The directories of one disk are directories of another, and what is there stays there. -/
structure Keeps (before after : Disk) : Prop where
  working : after.working = before.working
  directory : ∀ place, before.isDirectory place = true → after.isDirectory place = true
  present : ∀ place, (before.get? place).isSome = true → (after.get? place).isSome = true

theorem Keeps.refl (disk : Disk) : Keeps disk disk := ⟨rfl, fun _ h => h, fun _ h => h⟩

theorem Keeps.trans {a b c : Disk} (hab : Keeps a b) (hbc : Keeps b c) : Keeps a c :=
  ⟨hbc.working.trans hab.working, fun p h => hbc.directory p (hab.directory p h),
    fun p h => hbc.present p (hab.present p h)⟩

/-- Putting something where no directory is keeps what is reachable. -/
theorem keeps_put {disk : Disk} {place : Location} {entry : Entry} (hne : place ≠ [])
    (h : disk.isDirectory place = false ∨ entry = .directory) :
    Keeps disk (disk.put place entry) := by
  refine ⟨rfl, fun other hother => ?_, fun other hother => ?_⟩
  · by_cases hp : place = other
    · subst hp
      rcases h with h | rfl
      · rw [h] at hother
        cases hother
      · simp [isDirectory, get?_put _ _ _ _ hne]
    · simpa [isDirectory, get?_put _ _ _ _ hne, hp] using hother
  · rw [get?_put _ _ _ _ hne]
    split
    · rfl
    · exact hother

/-- A step that could be taken can still be taken. -/
theorem Keeps.step {before after : Disk} (h : Keeps before after) {place next : Location}
    {segment : String} (hstep : before.step place segment = .ok next) :
    after.step place segment = .ok next := by
  obtain ⟨hdirectory, hname, hnext⟩ := step_eq_ok_iff.1 hstep
  refine step_eq_ok_iff.2 ⟨h.directory place hdirectory, fun s hs => ?_, hnext⟩
  obtain ⟨hfits, hpresent⟩ := hname s hs
  exact ⟨hfits, h.present _ hpresent⟩

/-- Steps that could be taken can still be taken. -/
theorem Keeps.walk {before after : Disk} (h : Keeps before after) {place last : Location}
    {segments : List String} (hwalk : before.walk place segments = .ok last) :
    after.walk place segments = .ok last := by
  induction segments generalizing place with
  | nil => exact hwalk
  | cons segment rest ih =>
    unfold Disk.walk at hwalk ⊢
    split at hwalk
    · rename_i next hstep
      rw [h.step hstep]
      exact ih hwalk
    · cases hwalk

/-- A path that led somewhere still leads there. -/
theorem Keeps.locate {before after : Disk} (h : Keeps before after) {path : String}
    {place : Location} (hlocate : before.locate path = .ok place) :
    after.locate path = .ok place := by
  obtain ⟨hcheck, hne, hwalk⟩ := locate_eq_ok_iff.1 hlocate
  rw [← start_congr h.working] at hwalk
  exact locate_eq_ok_iff.2 ⟨hcheck, hne, h.walk hwalk⟩

/-- **Once the name of a slot is there, its path leads to it.** Slashes at the end of the path ask
for a directory. -/
theorem locate_of_slot {before after : Disk} {path : String} {place : Location} {name : String}
    (h : before.HasSlot path place name) (hkeeps : Keeps before after)
    (hpresent : (after.get? (place ++ [name])).isSome = true)
    (hslashes : h.slashes = 0 ∨ after.isDirectory (place ++ [name]) = true) :
    after.locate path = .ok (place ++ [name]) := by
  have hstep : after.step place name = .ok (place ++ [name]) := by
    rw [step_eq_ok_iff, h.isName.partOf]
    refine ⟨hkeeps.directory place h.directory, fun s hs => ?_, rfl⟩
    cases hs
    exact ⟨h.fits, hpresent⟩
  have htail : after.walk (place ++ [name]) (List.replicate h.slashes "") =
      .ok (place ++ [name]) := by
    rcases hslashes with hzero | hdir
    · rw [hzero]
      rfl
    · induction h.slashes with
      | zero => rfl
      | succ n ih =>
        rw [List.replicate_succ, walk, step, if_pos hdir, if_pos (.inl rfl)]
        exact ih
  refine locate_eq_ok_iff.2 ⟨h.checked, h.ne_empty, ?_⟩
  rw [start_congr hkeeps.working, h.segments, walk_append, hkeeps.walk h.walked]
  show after.walk place (name :: List.replicate h.slashes "") = .ok (place ++ [name])
  rw [walk, hstep]
  exact htail

/-! ## Where a path passes through -/

/-- The beginning of a path that a disk can hold is one as well. -/
theorem checkPath_of_append {x y : String} (h : checkPath (x ++ y) = .ok ()) :
    checkPath x = .ok () := by
  unfold checkPath at h ⊢
  split at h
  · cases h
  · rename_i hzero
    split at h
    · cases h
    · rename_i hlength
      have hzero' : ¬ x.toList.contains (Char.ofNat 0) = true := by
        intro hx
        apply hzero
        rw [List.contains_iff_mem] at hx ⊢
        rw [String.toList_append]
        exact List.mem_append_left _ hx
      have hlength' : ¬ pathLimit < x.utf8ByteSize := by
        rw [String.utf8ByteSize_append] at hlength
        omega
      rw [if_neg hzero', if_neg hlength']

/-- **A path that goes on behind a directory by a name** passes through the directory. -/
theorem passes_of_locate_join {disk : Disk} {base s : String} (hbase : base ≠ "")
    (hs : Path.IsName s) {place : Location} (h : disk.locate (Path.join base s) = .ok place) :
    disk.locate base = .ok (disk.target base) ∧ disk.isDirectory (disk.target base) = true := by
  obtain ⟨hcheck, -, hwalk⟩ := locate_eq_ok_iff.1 h
  have habsolute : ¬ Path.isAbsolute s = true := by
    rw [hs.isAbsolute]
    exact Bool.false_ne_true
  -- the name is the last piece, so that a step is taken from where the pieces before it lead
  have hreach : ∃ middle, disk.walk (disk.start base) (Path.segments base) = .ok middle ∧
      disk.isDirectory middle = true ∧ checkPath base = .ok () := by
    rw [Path.join, if_neg habsolute, if_neg hbase] at hcheck hwalk
    split at hwalk
    · -- the slash at the end of the directory adds an empty piece
      rename_i hslash
      rw [if_pos hslash] at hcheck
      have hstart : disk.start (base ++ s) = disk.start base := by
        rw [start, start, Path.isAbsolute_append _ hbase]
      obtain ⟨y, rfl⟩ := Path.exists_eq_append_slash hslash
      rw [hstart, Path.segments_append_slash, hs.segments] at hwalk
      obtain ⟨middle, hmiddle, hdirectory⟩ := exists_walk_of_concat hwalk
      refine ⟨middle, ?_, hdirectory, checkPath_of_append hcheck⟩
      have hpieces : Path.segments (y ++ "/") = Path.segments y ++ [""] := by
        rw [← Path.segments_of_no_slash (s := "") (by simp), ← Path.segments_append_slash,
          String.append_empty]
      rw [hpieces, walk_append, hmiddle]
      show disk.walk middle [""] = .ok middle
      rw [walk, step, if_pos hdirectory, if_pos (.inl rfl)]
      rfl
    · rename_i hslash
      rw [if_neg hslash] at hcheck
      have hstart : disk.start (base ++ "/" ++ s) = disk.start base := by
        rw [start, start, String.append_assoc, Path.isAbsolute_append _ hbase]
      rw [hstart, Path.segments_append_slash, hs.segments] at hwalk
      obtain ⟨middle, hmiddle, hdirectory⟩ := exists_walk_of_concat hwalk
      rw [String.append_assoc] at hcheck
      exact ⟨middle, hmiddle, hdirectory, checkPath_of_append hcheck⟩
  obtain ⟨middle, hmiddle, hdirectory, hchecked⟩ := hreach
  have hlocate : disk.locate base = .ok middle := locate_eq_ok_iff.2 ⟨hchecked, hbase, hmiddle⟩
  obtain rfl := locate_eq_target hlocate
  exact ⟨hlocate, hdirectory⟩

/-- A path placed below a directory by some names passes through the directory. The induction is on
the names, each of which is joined to what stands before it. -/
theorem passes_of_locate_foldl_join {disk : Disk} {base : String} (hbase : base ≠ "")
    {ns : List String} (hns : ∀ n ∈ ns, Path.IsName n) (hne : ns ≠ []) {place : Location}
    (h : disk.locate (ns.foldl Path.join base) = .ok place) :
    disk.locate base = .ok (disk.target base) ∧ disk.isDirectory (disk.target base) = true := by
  induction ns generalizing base with
  | nil => exact absurd rfl hne
  | cons n ns ih =>
    have hn : Path.IsName n := hns n List.mem_cons_self
    rw [List.foldl_cons] at h
    by_cases hlast : ns = []
    · subst hlast
      exact passes_of_locate_join hbase hn h
    · have hmore : ∀ m ∈ ns, Path.IsName m := fun m hm => hns m (List.mem_cons_of_mem _ hm)
      obtain ⟨hlocate, -⟩ := ih (Path.join_ne_empty hn) hmore hlast h
      exact passes_of_locate_join hbase hn hlocate

/-- A path that leads to a directory has a directory. -/
theorem hasDirectory_of_locate {disk : Disk} {path : String} {place : Location}
    (hlocate : disk.locate path = .ok place) (hdirectory : disk.isDirectory place = true) :
    disk.hasDirectory path = true := by
  unfold hasDirectory entryAt?
  rw [hlocate]
  exact hdirectory

end Scaffold.Disk
