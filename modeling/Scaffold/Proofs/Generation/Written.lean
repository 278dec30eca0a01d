import Scaffold.Proofs.Generation.Failing
import Scaffold.Proofs.Template.Lookup

/-!
# Runs that write files

What a run with an output directory leaves on the disk. The key notions are `Generates`, the files
of a manifest written in turn, and `Confined`, a disk that differs from another one below a
directory and above it only. Main facts:

* `Generates.entryAt?` : the last file written under a path is what the path leads to;
* `Generates.get?_of_ne` : elsewhere only directories above the files are made;
* `run_writes_files` : what a run leaves that succeeds;
* `run_confined` : whatever the output paths of a manifest expand to, and whether or not the run
  succeeds, nothing is written outside the output directory.
-/

namespace Scaffold.Generation

variable {around : Surroundings} {console : Console} {request : Request} {job : Job}
  {directory : String}

/-! ## Files written in turn -/

/-- Files are generated below a directory in turn: one whose condition does not hold is skipped, any
other one is rendered with the disk as it is by then, and written. -/
inductive Generates (around : Surroundings) (job : Job) (directory : String) :
    Disk → List Dealt → List Rendered → Disk → Prop
  | done {disk : Disk} : Generates around job directory disk [] [] disk
  | skip {disk after : Disk} {file : Manifest.File} {chance : Chance} {files : List Dealt}
      {rendered : List Rendered}
      (condition : holds ({ around with disk := disk }.drawing (chance.branch 0)) job file
        = .ok false)
      (rest : Generates around job directory disk files rendered after) :
      Generates around job directory disk ((file, chance) :: files) rendered after
  | write {disk written after : Disk} {file : Manifest.File} {chance : Chance} {files : List Dealt}
      {r : Rendered} {rendered : List Rendered}
      (renders : Renders ({ around with disk := disk }.drawing chance) job file r)
      (done : disk.writeUnder (Path.below directory r.name) r.text.toUTF8 = (written, none))
      (rest : Generates around job directory written files rendered after) :
      Generates around job directory disk ((file, chance) :: files) (r :: rendered) after

/-- Files that are produced without failure are generated, and the console receives nothing. -/
theorem generates_of_produceAll (hdir : Request.given job.outputDirectory = some directory)
    {files : List Dealt} {before after : Outputs} {names : List String}
    (h : produceAll around job files before = (after, .ok names)) :
    ∃ rendered, Generates around job directory before.disk files rendered after.disk ∧
      names = rendered.map Rendered.name ∧ after.console = before.console := by
  induction files generalizing before names with
  | nil =>
    cases h
    exact ⟨[], .done, rfl, rfl⟩
  | cons entry files ih =>
    obtain ⟨file, chance⟩ := entry
    have hspec := produce_spec (around.drawing chance) job file before
    rcases hfile : produce (around.drawing chance) job file before with ⟨middle, failure | name?⟩
    · rw [produceAll_cons_of_error hfile] at h
      cases h
    · rw [produceAll_cons_of_ok hfile] at h
      rw [hfile] at hspec
      dsimp only at hspec
      rcases hrest : produceAll around job files middle with ⟨last, failure | more⟩
      · rw [hrest] at h
        cases h
      · rw [hrest] at h
        cases h
        obtain ⟨rendered, hgenerates, rfl, hconsole⟩ := ih hrest
        cases hspec with
        | skipped condition => exact ⟨rendered, .skip condition hgenerates, rfl, hconsole⟩
        | @delivered r _ renders delivers =>
          cases delivers with
          | written given done =>
            rw [hdir] at given
            cases given
            exact ⟨r :: rendered, .write renders done hgenerates, rfl, hconsole⟩
          | echoed given taken =>
            -- a run with an output directory does not echo
            rw [hdir] at given
            cases given

namespace Generates

variable {disk after : Disk} {files : List Dealt} {rendered : List Rendered}

/-- What was reachable stays reachable. -/
theorem keeps (h : Generates around job directory disk files rendered after) :
    Disk.Keeps disk after := by
  induction h with
  | done => exact .refl _
  | skip condition rest ih => exact ih
  | write renders done rest ih => exact (Disk.HasWritten.of_writeUnder done).keeps.trans ih

/-- **Where no file is written** there is what was there, or a directory that has been made above
one of the files. -/
theorem get?_of_ne (h : Generates around job directory disk files rendered after)
    {place : Location}
    (hne : ∀ r ∈ rendered, place ≠ disk.target (Path.below directory r.name)) :
    after.get? place = disk.get? place ∨
      disk.get? place = none ∧ after.get? place = some .directory ∧
        ∃ r ∈ rendered, disk.LiesAbove (Path.below directory r.name) place := by
  induction h with
  | done => exact .inl rfl
  | skip condition rest ih => exact ih hne
  | @write disk written after file chance files r rendered renders done rest ih =>
    have hw := Disk.HasWritten.of_writeUnder done
    have hrest := ih fun s hs => by
      rw [Disk.target_congr hw.working]
      exact hne s (List.mem_cons_of_mem _ hs)
    rcases hw.get?_of_ne (hne r List.mem_cons_self) with hsame | ⟨hnone, hmade, habove⟩
    · rcases hrest with h | ⟨hnone, hmade, s, hs, habove⟩
      · exact .inl (h.trans hsame)
      · refine .inr ⟨hsame ▸ hnone, hmade, s, List.mem_cons_of_mem _ hs, ?_⟩
        exact habove.congr hw.working
    · -- a directory that the first file has made stays
      refine .inr ⟨hnone, ?_, r, List.mem_cons_self, habove⟩
      rcases hrest with h | ⟨hnone', -⟩
      · exact h.trans hmade
      · rw [hmade] at hnone'
        cases hnone'

/-- **The last file written under a path** is what the path leads to. -/
theorem entryAt? (h : Generates around job directory disk files rendered after)
    (hdir : directory ≠ "") {earlier later : List Rendered} {r : Rendered}
    (hsplit : rendered = earlier ++ r :: later)
    (hlast : ∀ s ∈ later, Path.below directory s.name ≠ Path.below directory r.name) :
    after.entryAt? (Path.below directory r.name) = some (.file r.text.toUTF8) := by
  induction h generalizing earlier with
  | done => cases earlier <;> cases hsplit
  | skip condition rest ih => exact ih hsplit
  | @write disk written after file chance files first rendered renders done rest ih =>
    have hw := Disk.HasWritten.of_writeUnder done
    cases earlier with
    | cons e earlier =>
      cases hsplit
      exact ih rfl
    | nil =>
      -- this is the file, and no later one has its target
      cases hsplit
      have htarget : ∀ s ∈ later, disk.target (Path.below directory r.name) ≠
          written.target (Path.below directory s.name) := by
        intro s hs heq
        rw [Disk.target_congr hw.working] at heq
        exact hlast s hs (disk.below_eq_of_target_eq hdir heq).symm
      have hget : after.get? (disk.target (Path.below directory r.name)) =
          some (.file r.text.toUTF8) := by
        rcases rest.get?_of_ne htarget with h | ⟨hnone, -⟩
        · exact h.trans hw.get?_target
        · rw [hw.get?_target] at hnone
          cases hnone
      rw [Disk.entryAt?, rest.keeps.locate hw.leads]
      exact hget

/-- Each path under which a file is written leads to the text of one that has it. -/
theorem exists_entryAt? (h : Generates around job directory disk files rendered after)
    (hdir : directory ≠ "") {r : Rendered} (hr : r ∈ rendered) :
    ∃ s ∈ rendered, Path.below directory s.name = Path.below directory r.name ∧
      after.entryAt? (Path.below directory r.name) = some (.file s.text.toUTF8) := by
  induction h generalizing r with
  | done => cases hr
  | skip condition rest ih => exact ih hr
  | @write disk written after file chance files first rendered renders done rest ih =>
    by_cases hlater : ∃ s ∈ rendered, Path.below directory s.name = Path.below directory r.name
    · obtain ⟨s, hs, hsame⟩ := hlater
      obtain ⟨t, ht, htname, hentry⟩ := ih hs
      rw [hsame] at htname hentry
      exact ⟨t, List.mem_cons_of_mem _ ht, htname, hentry⟩
    · -- no later file has the path, so that it is that of the first
      push Not at hlater
      obtain rfl : r = first := by
        rcases List.mem_cons.1 hr with hfirst | hrest
        · exact hfirst
        · exact absurd rfl (hlater r hrest)
      exact ⟨r, hr, rfl, (Generates.write renders done rest).entryAt? hdir
        (List.nil_append _).symm hlater⟩

/-- **Files with different paths** are all there afterwards. -/
theorem entryAt?_of_pairwise (h : Generates around job directory disk files rendered after)
    (hdir : directory ≠ "")
    (hapart : rendered.Pairwise fun r s =>
      Path.below directory s.name ≠ Path.below directory r.name)
    {r : Rendered} (hr : r ∈ rendered) :
    after.entryAt? (Path.below directory r.name) = some (.file r.text.toUTF8) := by
  obtain ⟨earlier, later, hsplit⟩ := List.append_of_mem hr
  rw [hsplit, List.pairwise_append, List.pairwise_cons] at hapart
  exact h.entryAt? hdir hsplit hapart.2.1.1

/-- Files that render whatever the disk is by then are the ones that are generated. -/
theorem eq_of_renderFile (h : Generates around job directory disk files rendered after)
    {expected : List Rendered}
    (hrender : List.Forall₂
      (fun entry r => ∀ disk,
        renderFile ({ around with disk := disk }.drawing entry.2) job entry.1 = .ok (some r))
      files expected) : rendered = expected := by
  induction h generalizing expected with
  | done =>
    cases hrender
    rfl
  | @skip disk _ _ _ _ _ condition rest ih =>
    cases hrender with
    | cons hfile hrest =>
      rw [← Surroundings.part_drawing, ← renderFile_eq_none_iff, hfile disk] at condition
      cases condition
  | @write disk _ _ _ _ _ _ _ renders done rest ih =>
    cases hrender with
    | cons hfile hrest =>
      have hsome := hfile disk
      rw [renderFile_eq_some_iff.2 renders] at hsome
      cases hsome
      rw [ih hrest]

end Generates

theorem given_of_ne {path : String} (h : path ≠ "") : Request.given (some path) = some path := by
  simp [Request.given, Option.filter, h]

/-- A given path is not empty. -/
theorem ne_empty_of_given {path : Option String} {p : String} (h : Request.given path = some p) :
    p ≠ "" := by
  unfold Request.given at h
  rw [Option.filter_eq_some_iff] at h
  simpa using h.2

/-- A run that succeeds with an output directory generates files, and the console receives
nothing. -/
theorem generates_of_run (hdir : Request.given request.outputDirectory = some directory)
    {outputs : Outputs} {names : List String}
    (h : run around console request = (outputs, .ok names)) :
    ∃ job rendered, prepare around request = .ok job ∧
      Generates around job directory around.disk (dealt around job.plan.manifest.files) rendered
        outputs.disk ∧
      names = rendered.map Rendered.name ∧ outputs.console = console := by
  unfold run at h
  cases hprepare : prepare around request with
  | error failure =>
    rw [hprepare] at h
    cases h
  | ok job =>
    rw [hprepare] at h
    dsimp only at h
    have hgiven : Request.given job.outputDirectory = some directory := by
      rw [(prepare_eq_ok_iff.1 hprepare).2.2]
      exact hdir
    obtain ⟨rendered, hgenerates, hnames, hconsole⟩ := generates_of_produceAll hgiven h
    exact ⟨job, rendered, rfl, hgenerates, hnames, hconsole⟩

/-- **A run that succeeds** with an output directory gives the names of the files it has generated,
in order. Each of their paths leads to the text of the last one that has it, directories were made
above them as needed, and nothing else has changed. -/
theorem run_writes_files (hdir : Request.given request.outputDirectory = some directory)
    {outputs : Outputs} {names : List String}
    (h : run around console request = (outputs, .ok names)) :
    ∃ job rendered, prepare around request = .ok job ∧
      Generates around job directory around.disk (dealt around job.plan.manifest.files) rendered
        outputs.disk ∧
      names = rendered.map Rendered.name ∧
      outputs.console = console ∧
      (∀ earlier r later, rendered = earlier ++ r :: later →
        (∀ s ∈ later, Path.below directory s.name ≠ Path.below directory r.name) →
        outputs.disk.entryAt? (Path.below directory r.name) = some (.file r.text.toUTF8)) ∧
      ∀ place, (∀ r ∈ rendered, place ≠ around.disk.target (Path.below directory r.name)) →
        outputs.disk.get? place = around.disk.get? place ∨
          around.disk.get? place = none ∧ outputs.disk.get? place = some .directory ∧
            ∃ r ∈ rendered, around.disk.LiesAbove (Path.below directory r.name) place := by
  obtain ⟨job, rendered, hprepare, hgenerates, hnames, hconsole⟩ := generates_of_run hdir h
  refine ⟨job, rendered, hprepare, hgenerates, hnames, hconsole, ?_, ?_⟩
  · intro earlier r later hsplit hlast
    exact hgenerates.entryAt? (ne_empty_of_given hdir) hsplit hlast
  · intro place hne
    exact hgenerates.get?_of_ne hne

/-- A run whose names are known has succeeded. -/
theorem exists_run_eq_ok {names : List String}
    (h : (run around console request).2.toOption = some names) :
    ∃ outputs, run around console request = (outputs, .ok names) :=
  ⟨_, Prod.ext rfl (Template.eq_ok_of_toOption h)⟩

/-- A manifest with two files that are written under the same path. -/
def twiceManifest : String := "files:\n- in: a\n  out: b\n- in: a\n  out: ../b\n"

/-- The second file stays. -/
theorem run_writes_files_twice :
    ∃ outputs, ∃ text : String,
      run (smallAround twiceManifest) .unlimited (smallRequest (some "out"))
        = (outputs, .ok ["b", "../b"]) ∧
      outputs.console = .unlimited ∧
      outputs.disk.entryAt? (Path.below "out" "../b") = some (.file text.toUTF8) := by
  have hnames : (run (smallAround twiceManifest) .unlimited
      (smallRequest (some "out"))).2.toOption = some ["b", "../b"] := by
    decide +kernel
  obtain ⟨outputs, hrun⟩ := exists_run_eq_ok hnames
  have hdir : Request.given (smallRequest (some "out")).outputDirectory = some "out" := rfl
  obtain ⟨job, rendered, hprepare, hgenerates, hrendered, hconsole, hlast, hother⟩ :=
    run_writes_files hdir hrun
  obtain ⟨r, rest, rfl, -, hrest⟩ := List.map_eq_cons_iff.1 hrendered.symm
  obtain ⟨s, rest, rfl, hname, hnil⟩ := List.map_eq_cons_iff.1 hrest
  rw [List.map_eq_nil_iff] at hnil
  subst hnil
  refine ⟨outputs, s.text, hrun, hconsole, ?_⟩
  rw [← hname]
  exact hlast [r] s [] rfl (by simp)

/-! ## Nothing outside the output directory -/

/-- A path has the parts of a directory and then names only. -/
def StaysBelow (directory path : String) : Prop :=
  ∃ ns : List String, (∀ n ∈ ns, Path.IsName n) ∧
    Path.parts path = Path.parts directory ++ ns.map .name

/-- A disk differs from another one by files under paths that stay below a directory, and by
directories made under such paths and on the path of the directory itself. -/
structure Confined (directory : String) (before after : Disk) : Prop where
  working : after.working = before.working
  get? : ∀ place, after.get? place = before.get? place ∨
    (∃ path content, StaysBelow directory path ∧ place = before.target path ∧
      after.get? place = some (.file content)) ∨
    before.get? place = none ∧ after.get? place = some .directory ∧
      ∃ path, Path.parts path ≠ [] ∧
        (StaysBelow directory path ∨ Path.parts path <+: Path.parts directory) ∧
        place = before.target path

/-- A path placed below a directory stays below it. -/
theorem staysBelow_below (hdir : directory ≠ "") (name : String) :
    StaysBelow directory (Path.below directory name) :=
  ⟨Path.names name, fun _ hn => Path.isName_of_mem_names hn, Path.parts_below hdir name⟩

/-- What lies above a path that stays below a directory stays below it as well, or lies on the path
of the directory. -/
theorem StaysBelow.of_liesAbove {path : String} (h : StaysBelow directory path) {disk : Disk}
    {place : Location} (habove : disk.LiesAbove path place) :
    ∃ ancestor, Path.parts ancestor ≠ [] ∧
      (StaysBelow directory ancestor ∨ Path.parts ancestor <+: Path.parts directory) ∧
      place = disk.target ancestor := by
  obtain ⟨ns, hns, hparts⟩ := h
  obtain ⟨ancestor, hne, hpre, hplace⟩ := habove
  refine ⟨ancestor, hne, ?_, hplace⟩
  have hpre' : Path.parts ancestor <+: Path.parts directory ++ ns.map .name := by
    rw [← hparts]
    exact hpre.trans (List.dropLast_prefix _)
  rcases List.prefix_or_prefix_of_prefix hpre' (List.prefix_append _ _) with hup | ⟨t, ht⟩
  · exact .inr hup
  · -- the ancestor goes on behind the directory, by the first of the names
    left
    rw [← ht, List.prefix_append_right_inj] at hpre'
    refine ⟨ns.take t.length, fun n hn => hns n (List.mem_of_mem_take hn), ?_⟩
    rw [← ht, List.map_take, ← List.prefix_iff_eq_take.1 hpre']

namespace Confined

theorem refl (directory : String) (disk : Disk) : Confined directory disk disk :=
  ⟨rfl, fun _ => .inl rfl⟩

theorem trans {a b c : Disk} (hab : Confined directory a b) (hbc : Confined directory b c) :
    Confined directory a c := by
  refine ⟨hbc.working.trans hab.working, fun place => ?_⟩
  rcases hbc.get? place with hc | ⟨path, content, hpath, hplace, hc⟩ |
    ⟨hnone, hc, path, hne, hpath, hplace⟩
  · rw [hc]
    exact hab.get? place
  · exact .inr (.inl ⟨path, content, hpath, hplace.trans (Disk.target_congr hab.working path), hc⟩)
  · rcases hab.get? place with hb | ⟨-, content, -, -, hb⟩ | ⟨-, hb, -⟩
    · exact .inr (.inr ⟨hb ▸ hnone, hc, path, hne, hpath,
        hplace.trans (Disk.target_congr hab.working path)⟩)
    · rw [hb] at hnone
      cases hnone
    · rw [hb] at hnone
      cases hnone

/-- Directories made above a path that stays below. -/
theorem of_adds {path : String} (hpath : StaysBelow directory path) {before after : Disk}
    (h : Disk.AddsDirectories (before.LiesAbove path) before after) :
    Confined directory before after := by
  refine ⟨h.working, fun place => ?_⟩
  rcases h.get? place with hsame | ⟨hnone, hmade, habove⟩
  · exact .inl hsame
  · exact .inr (.inr ⟨hnone, hmade, hpath.of_liesAbove habove⟩)

/-- **Writing under a path that stays below** is confined, whether or not it succeeds. -/
theorem of_writeUnder {path : String} (hpath : StaysBelow directory path) (disk : Disk)
    (content : ByteArray) : Confined directory disk (disk.writeUnder path content).1 := by
  rcases disk.writeUnder_cases path content with ⟨made, fault, hmade, hadds⟩ | ⟨final, hfinal, hw⟩
  · rw [hmade]
    exact .of_adds hpath hadds
  · rw [hfinal]
    refine ⟨hw.working, fun place => ?_⟩
    by_cases hplace : place = disk.target path
    · subst hplace
      exact .inr (.inl ⟨path, content, hpath, rfl, hw.get?_target⟩)
    · rcases hw.get?_of_ne hplace with hsame | ⟨hnone, hmade, habove⟩
      · exact .inl hsame
      · exact .inr (.inr ⟨hnone, hmade, hpath.of_liesAbove habove⟩)

end Confined

/-- Writes rendered files below a directory one after the other, whether or not each can be
written. -/
def writeAll (directory : String) (disk : Disk) (rendered : List Rendered) : Disk :=
  rendered.foldl
    (fun disk r => (disk.writeUnder (Path.below directory r.name) r.text.toUTF8).1) disk

theorem writeAll_concat (directory : String) (disk : Disk) (rendered : List Rendered)
    (r : Rendered) :
    writeAll directory disk (rendered ++ [r]) =
      ((writeAll directory disk rendered).writeUnder (Path.below directory r.name)
        r.text.toUTF8).1 := by
  rw [writeAll, List.foldl_append]
  rfl

/-- Writes below a directory are confined. -/
theorem confined_writeAll (hdir : directory ≠ "") (disk : Disk) (rendered : List Rendered) :
    Confined directory disk (writeAll directory disk rendered) := by
  induction rendered generalizing disk with
  | nil => exact .refl _ _
  | cons r rendered ih =>
    have hfirst := Confined.of_writeUnder (staysBelow_below hdir r.name) disk r.text.toUTF8
    rw [writeAll, List.foldl_cons]
    exact hfirst.trans (ih _)

/-- The disk comes from another one by writes below a directory. -/
def WrittenFrom (directory : String) (disk : Disk) (outputs : Outputs) : Prop :=
  ∃ rendered, outputs.disk = writeAll directory disk rendered

/-- One more write below the directory. -/
theorem WrittenFrom.write {disk after : Disk} {before : Outputs}
    (h : WrittenFrom directory disk before) {r : Rendered} {fault? : Option Disk.Fault}
    (done : before.disk.writeUnder (Path.below directory r.name) r.text.toUTF8 = (after, fault?)) :
    WrittenFrom directory disk { before with disk := after } := by
  obtain ⟨rendered, hrendered⟩ := h
  refine ⟨rendered ++ [r], ?_⟩
  rw [writeAll_concat, ← hrendered, done]

/-- One file of a manifest is written below the output directory, or the disk stays as it is. -/
theorem WrittenFrom.produce (hdir : Request.given job.outputDirectory = some directory)
    (file : Manifest.File) {disk : Disk} {before : Outputs}
    (h : WrittenFrom directory disk before) :
    WrittenFrom directory disk (produce around job file before).1 := by
  have hspec := produce_spec around job file before
  rcases hproduce : Generation.produce around job file before with ⟨after, result⟩
  rw [hproduce] at hspec
  cases hspec with
  | skipped condition => exact h
  | unrendered stops => exact h
  | delivered renders delivers =>
    cases delivers with
    | written given done =>
      rw [hdir] at given
      cases given
      exact h.write done
    | echoed given taken => exact h
  | undelivered renders delivers =>
    cases delivers with
    | unwritten given done =>
      rw [hdir] at given
      cases given
      exact h.write done
    | cut given room split written => exact h

/-- Whatever a run does to the disk, it does by writes below the output directory. -/
theorem writtenFrom_run (hdir : Request.given request.outputDirectory = some directory) :
    WrittenFrom directory around.disk (run around console request).1 := by
  unfold run
  cases hprepare : prepare around request with
  | error failure => exact ⟨[], rfl⟩
  | ok job =>
    have hgiven : Request.given job.outputDirectory = some directory := by
      rw [(prepare_eq_ok_iff.1 hprepare).2.2]
      exact hdir
    exact produceAll_preserves (fun file _ _ _ h => h.produce hgiven file) ⟨[], rfl⟩

/-- **Nothing is written outside the output directory.** Whatever a run does to the disk is a
series of writes under paths that stay below the output directory, so that the files it leaves lie
under such paths, and the directories it makes as well or on the path of the output directory; and
to place a path below a directory piece by piece is to place it as a whole. -/
theorem run_confined (hdir : Request.given request.outputDirectory = some directory) :
    (∃ rendered, (run around console request).1.disk = writeAll directory around.disk rendered) ∧
    (∀ name, StaysBelow directory (Path.below directory name)) ∧
    Confined directory around.disk (run around console request).1.disk ∧
    ∀ base x y, Path.below base (x ++ "/" ++ y) = Path.below (Path.below base x) y := by
  have hne := ne_empty_of_given hdir
  have hwrites : WrittenFrom directory around.disk (run around console request).1 :=
    writtenFrom_run hdir
  obtain ⟨rendered, hrendered⟩ := hwrites
  refine ⟨⟨rendered, hrendered⟩, staysBelow_below hne, ?_, Path.below_append_slash⟩
  rw [hrendered]
  exact confined_writeAll hne around.disk rendered

/-- A manifest with an output path that leads out of the output directory. -/
def outwardManifest : String := "files:\n- in: a\n  out: /../b\n"

theorem run_confined_outward :
    Request.given (smallRequest (some "out")).outputDirectory = some "out" ∧
    Confined "out" (smallAround outwardManifest).disk
      (run (smallAround outwardManifest) .unlimited (smallRequest (some "out"))).1.disk := by
  have hdir : Request.given (smallRequest (some "out")).outputDirectory = some "out" := rfl
  exact ⟨hdir, (run_confined hdir).2.2.1⟩

end Scaffold.Generation
