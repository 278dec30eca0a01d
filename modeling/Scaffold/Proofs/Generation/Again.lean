import Scaffold.Proofs.Disk.Rewriting
import Scaffold.Proofs.Generation.CppClass.Run
import Scaffold.Proofs.Generation.Written

/-!
# Running a request again

A run that has written its files below an output directory is repeated on the disk that it has left.
The key notions are `RestsOn`, an outcome that depends on a disk through the files that some paths
lead to, and `LooksUp`, the paths that a run looks up in its course. Main facts:

* `Generates.produceAll_again` : files that have been generated are generated again, with the same
  texts, on any disk that differs from the last one in these files at most;
* `run_again` : a run that reads none of the files it writes, and that misses nothing that it makes,
  leaves the disk as it is when it is repeated;
* `run_again_missed` : a file that a run misses on its first time may be found on the second one,
  since the way to it has been made, and then the second run writes something else.
-/

namespace Scaffold.Generation

variable {around : Surroundings} {console : Console} {request : Request} {job : Job}
  {directory : String} {looks : Disk → String → Prop}

/-! ## What is looked up -/

/-- An outcome that depends on a disk rests on the files that some paths lead to: it is the same on
every disk with the same working directory where each of the paths leads to the same file, or to
none as before. -/
def RestsOn {α : Type} (outcome : Disk → α) (disk : Disk) (paths : String → Prop) : Prop :=
  ∀ other : Disk, other.working = disk.working →
    (∀ path, paths path → other.fileAt? path = disk.fileAt? path) → outcome other = outcome disk

/-- Rendering each of some files, on the disk as it is by then, rests on the paths looked up. -/
def LooksUpAll (around : Surroundings) (job : Job) (looks : Disk → String → Prop) :
    List Dealt → Outputs → Prop
  | [], _ => True
  | (file, chance) :: files, outputs =>
    RestsOn (fun disk => renderFile ({ around with disk := disk }.drawing chance) job file)
      outputs.disk (looks outputs.disk) ∧
    LooksUpAll around job looks files (produce (around.drawing chance) job file outputs).1

/-- The paths that a run looks up, together with the disk as it is when they are: those that
preparing it rests on, and those that rendering each of its files rests on. Both are functions of
the disk, so that what they look up shows in what they depend on and in nothing else. -/
structure LooksUp (around : Surroundings) (console : Console) (request : Request)
    (looks : Disk → String → Prop) : Prop where
  prepares : RestsOn (fun disk => prepare { around with disk := disk } request) around.disk
    (looks around.disk)
  renders : ∀ job, prepare around request = .ok job →
    LooksUpAll around job looks (dealt around job.plan.manifest.files) ⟨around.disk, console⟩

/-- A place is one where files of some names are written below a directory. -/
def IsOutput (disk : Disk) (directory : String) (names : List String) (place : Location) : Prop :=
  ∃ name ∈ names, place = disk.target (Path.below directory name)

/-- None of the files that are looked up and found lies where a file of one of some names is
written.
-/
def ReadsElsewhere (directory : String) (names : List String) (looks : Disk → String → Prop) :
    Prop :=
  ∀ disk path, looks disk path → (disk.fileAt? path).isSome = true →
    ¬ IsOutput disk directory names (disk.target path)

/-- No path that is looked up without finding a file leads to a file in the end. -/
def MissesStay (final : Disk) (looks : Disk → String → Prop) : Prop :=
  ∀ disk path, looks disk path → disk.fileAt? path = none → final.fileAt? path = none

/-! ## Files that are generated again -/

/-- A file whose condition does not hold leaves everything as it is. -/
theorem produce_of_holds {file : Manifest.File} {chance : Chance} {outputs : Outputs}
    (h : holds ({ around with disk := outputs.disk }.drawing (chance.branch 0)) job file
      = .ok false) :
    produce (around.drawing chance) job file outputs = (outputs, .ok none) := by
  rw [← Surroundings.part_drawing, ← renderFile_eq_none_iff] at h
  rw [produce, Surroundings.on_drawing, h]

/-- A file that renders and can be written is written. -/
theorem produce_of_renders (hdir : Request.given job.outputDirectory = some directory)
    {file : Manifest.File} {chance : Chance} {outputs : Outputs} {r : Rendered} {written : Disk}
    (h : Renders ({ around with disk := outputs.disk }.drawing chance) job file r)
    (hwrite : outputs.disk.writeUnder (Path.below directory r.name) r.text.toUTF8 =
      (written, none)) :
    produce (around.drawing chance) job file outputs =
      ({ outputs with disk := written }, .ok (some r.name)) := by
  rw [produce, Surroundings.on_drawing, renderFile_eq_some_iff.2 h]
  dsimp only
  rw [deliver, hdir]
  dsimp only
  rw [hwrite]

/-- The disk of the surroundings does not matter for files that are taken in turn. -/
theorem produceAll_disk (disk : Disk) (files : List Dealt) (outputs : Outputs) :
    produceAll { around with disk := disk } job files outputs =
      produceAll around job files outputs := by
  induction files generalizing outputs with
  | nil => rfl
  | cons entry files ih =>
    obtain ⟨file, chance⟩ := entry
    have hproduce : produce (Surroundings.drawing { around with disk := disk } chance) job file
        outputs = produce (around.drawing chance) job file outputs := rfl
    rw [produceAll, produceAll, hproduce]
    simp only [ih]

/-- Files that can be generated are produced without failure. -/
theorem produceAll_of_generates (hdir : Request.given job.outputDirectory = some directory)
    {disk after : Disk} {files : List Dealt} {rendered : List Rendered}
    (h : Generates around job directory disk files rendered after) (console : Console) :
    produceAll around job files ⟨disk, console⟩ =
      (⟨after, console⟩, .ok (rendered.map Rendered.name)) := by
  induction h with
  | done => rfl
  | @skip disk after file chance files rendered condition rest ih =>
    have hproduce : produce (around.drawing chance) job file ⟨disk, console⟩ =
        (⟨disk, console⟩, .ok none) :=
      produce_of_holds condition
    rw [produceAll_cons_of_ok hproduce, ih]
    rfl
  | @write disk written after file chance files r rendered renders done rest ih =>
    have hproduce : produce (around.drawing chance) job file ⟨disk, console⟩ =
        (⟨written, console⟩, .ok (some r.name)) :=
      produce_of_renders hdir renders done
    rw [produceAll_cons_of_ok hproduce, ih]
    rfl

/-- Where rendered files are put, with what they contain. -/
def placed (disk : Disk) (directory : String) (rendered : List Rendered) :
    List (Location × ByteArray) :=
  rendered.map fun r => (disk.target (Path.below directory r.name), r.text.toUTF8)

/-- Where files are written depends on the working directory only. -/
theorem isOutput_congr {a b : Disk} (hworking : a.working = b.working) {names : List String}
    {place : Location} : IsOutput a directory names place ↔ IsOutput b directory names place := by
  unfold IsOutput
  simp only [Disk.target_congr hworking]

namespace Generates

variable {disk after other : Disk} {files : List Dealt} {rendered : List Rendered}
  {names : List String}

/-- **What has been looked up** before files are generated leads to the same files afterwards, also
if other texts have come in the place of the files. -/
theorem fileAt?_eq (h : Generates around job directory disk files rendered after)
    (hnames : ∀ r ∈ rendered, r.name ∈ names) (hread : ReadsElsewhere directory names looks)
    (hmissed : MissesStay after looks)
    (hothers : Disk.Refiled (IsOutput after directory names) after other) {path : String}
    (hpath : looks disk path) : other.fileAt? path = disk.fileAt? path := by
  have hworking : after.working = disk.working := h.keeps.working
  have htarget : after.target path = disk.target path := Disk.target_congr hworking path
  have helsewhere := hread disk path hpath
  have hafter : after.fileAt? path = disk.fileAt? path := by
    cases hfound : disk.fileAt? path with
    | none => exact hmissed disk path hpath hfound
    | some content =>
      rw [hfound] at helsewhere
      obtain ⟨hlocate, hget⟩ := Disk.fileAt?_eq_some_iff.1 hfound
      rw [Disk.fileAt?_eq_some_iff, htarget]
      refine ⟨h.keeps.locate hlocate, ?_⟩
      have hne : ∀ r ∈ rendered,
          disk.target path ≠ disk.target (Path.below directory r.name) :=
        fun r hr hsame => helsewhere rfl ⟨r.name, hnames r hr, hsame⟩
      rcases h.get?_of_ne hne with hsame | ⟨hnone, -⟩
      · rw [hsame, hget]
      · rw [hget] at hnone
        cases hnone
  rw [hothers.fileAt?_eq, hafter]
  rw [hafter, htarget, isOutput_congr hworking]
  exact helsewhere

/-- So the first of these files is rendered as it has been. -/
theorem renderFile_again (h : Generates around job directory disk files rendered after)
    {file : Manifest.File} {chance : Chance}
    (hrests : RestsOn
      (fun disk => renderFile ({ around with disk := disk }.drawing chance) job file) disk
      (looks disk))
    (hnames : ∀ r ∈ rendered, r.name ∈ names) (hread : ReadsElsewhere directory names looks)
    (hmissed : MissesStay after looks)
    (hothers : Disk.Refiled (IsOutput after directory names) after other) :
    renderFile ({ around with disk := other }.drawing chance) job file =
      renderFile ({ around with disk := disk }.drawing chance) job file :=
  hrests other (hothers.working.trans h.keeps.working) fun _ hpath =>
    h.fileAt?_eq hnames hread hmissed hothers hpath

/-- **Files that have been generated are generated again**, with the same texts, on any disk that
differs from the last one in these files at most. The induction is on how they have been generated:
in each step the disk of the second time is the last one with some of the files put again. -/
theorem produceAll_again (h : Generates around job directory disk files rendered after)
    (hdir : Request.given job.outputDirectory = some directory)
    (hlooks : LooksUpAll around job looks files ⟨disk, console⟩)
    (hnames : ∀ r ∈ rendered, r.name ∈ names) (hread : ReadsElsewhere directory names looks)
    (hmissed : MissesStay after looks)
    (hfiles : ∀ r ∈ rendered, ∃ content,
      after.get? (after.target (Path.below directory r.name)) = some (.file content))
    (hothers : Disk.Refiled (IsOutput after directory names) after other) (console' : Console) :
    produceAll around job files ⟨other, console'⟩ =
      (⟨other.putFiles (placed after directory rendered), console'⟩,
        .ok (rendered.map Rendered.name)) := by
  induction h generalizing other with
  | done => rfl
  | @skip disk after file chance files rendered condition rest ih =>
    have hfirst : produce (around.drawing chance) job file ⟨disk, console⟩ =
        (⟨disk, console⟩, .ok none) :=
      produce_of_holds condition
    obtain ⟨hrests, hlooks⟩ := hlooks
    rw [hfirst] at hlooks
    have hrender := rest.renderFile_again hrests hnames hread hmissed hothers
    rw [← Surroundings.part_drawing, ← renderFile_eq_none_iff] at condition
    rw [condition, renderFile_eq_none_iff, Surroundings.part_drawing] at hrender
    have hsecond : produce (around.drawing chance) job file ⟨other, console'⟩ =
        (⟨other, console'⟩, .ok none) :=
      produce_of_holds hrender
    rw [produceAll_cons_of_skipped hsecond]
    exact ih hlooks hnames hmissed hfiles hothers
  | @write disk written after file chance files r rendered renders done rest ih =>
    have hall : Generates around job directory disk ((file, chance) :: files) (r :: rendered)
        after :=
      .write renders done rest
    have hfirst : produce (around.drawing chance) job file ⟨disk, console⟩ =
        (⟨written, console⟩, .ok (some r.name)) :=
      produce_of_renders hdir renders done
    obtain ⟨hrests, hlooks⟩ := hlooks
    rw [hfirst] at hlooks
    have hrender := hall.renderFile_again hrests hnames hread hmissed hothers
    rw [renderFile_eq_some_iff.2 renders, renderFile_eq_some_iff] at hrender
    -- the file is put where there is a file already
    obtain ⟨content, hcontent⟩ := hfiles r (.head _)
    have hagain := hothers.writeUnder_again done rest.keeps hcontent r.text.toUTF8
    have hsecond : produce (around.drawing chance) job file ⟨other, console'⟩ =
        (⟨other.put (after.target (Path.below directory r.name)) (.file r.text.toUTF8), console'⟩,
          .ok (some r.name)) :=
      produce_of_renders hdir hrender hagain
    have hput := hothers.put (Disk.ne_nil_of_get?_file hcontent)
      ⟨r.name, hnames r (.head _), rfl⟩ hcontent r.text.toUTF8
    rw [produceAll_cons_of_ok hsecond,
      ih hlooks (fun s hs => hnames s (.tail _ hs)) hmissed (fun s hs => hfiles s (.tail _ hs))
        hput]
    rfl

/-- Where a file is written there is a file in the end. -/
theorem exists_get?_target (h : Generates around job directory disk files rendered after)
    (hdir : directory ≠ "") {r : Rendered} (hr : r ∈ rendered) :
    ∃ content, after.get? (after.target (Path.below directory r.name)) = some (.file content) := by
  obtain ⟨s, -, -, hentry⟩ := h.exists_entryAt? hdir hr
  have hfile : after.fileAt? (Path.below directory r.name) = some s.text.toUTF8 := by
    rw [Disk.fileAt?, hentry]
  exact ⟨_, (Disk.fileAt?_eq_some_iff.1 hfile).2⟩

/-- **Putting the files again** where they have been written changes nothing: the last one at each
place is there. -/
theorem putFiles_eq_self (h : Generates around job directory disk files rendered after)
    (hdir : directory ≠ "") : after.putFiles (placed after directory rendered) = after := by
  have hpresent : ∀ f ∈ placed after directory rendered, ∃ content,
      after.get? f.1 = some (.file content) := by
    intro f hf
    obtain ⟨r, hr, rfl⟩ := List.mem_map.1 hf
    dsimp only
    exact h.exists_get?_target hdir hr
  refine Disk.putFiles_eq_self ?_ ?_ ?_
  · intro f hf
    obtain ⟨content, hcontent⟩ := hpresent f hf
    exact Disk.ne_nil_of_get?_file hcontent
  · intro f hf
    obtain ⟨content, hcontent⟩ := hpresent f hf
    rw [hcontent]
    rfl
  · -- the last file at a place is the one that is there
    intro earlier f later hsplit hlater
    obtain ⟨front, back, rfl, -, hback⟩ := List.map_eq_append_iff.1 hsplit
    obtain ⟨r, rest, rfl, rfl, rfl⟩ := List.map_eq_cons_iff.1 hback
    have hlast : ∀ s ∈ rest, Path.below directory s.name ≠ Path.below directory r.name := by
      intro s hs hsame
      refine hlater _ (List.mem_map_of_mem hs) ?_
      dsimp only
      rw [hsame]
    have hfile : after.fileAt? (Path.below directory r.name) = some r.text.toUTF8 := by
      rw [Disk.fileAt?, h.entryAt? hdir rfl hlast]
    dsimp only
    exact (Disk.fileAt?_eq_some_iff.1 hfile).2

end Generates

/-- **A run that is repeated** on the disk that it has left gives the same names and leaves the disk
as it is, provided that none of the files that it has looked up and found lies where it has written
a file, and that no path that it has looked up without finding a file leads to a file in the end.
The names of its files are arbitrary: they may repeat each other or lead through places that the run
has made, and nothing needs to be known about the disk before the first run. -/
theorem run_again (hdir : Request.given request.outputDirectory = some directory)
    {outputs : Outputs} {names : List String}
    (h : run around console request = (outputs, .ok names))
    (hlooks : LooksUp around console request looks) (hread : ReadsElsewhere directory names looks)
    (hmissed : MissesStay outputs.disk looks) (console' : Console) :
    run { around with disk := outputs.disk } console' request =
      (⟨outputs.disk, console'⟩, .ok names) := by
  obtain ⟨job, rendered, hprepare, hgenerates, rfl, -⟩ := generates_of_run hdir h
  have hne : directory ≠ "" := ne_empty_of_given hdir
  have hgiven : Request.given job.outputDirectory = some directory := by
    rw [(prepare_eq_ok_iff.1 hprepare).2.2]
    exact hdir
  have hnames : ∀ r ∈ rendered, r.name ∈ rendered.map Rendered.name :=
    fun r hr => List.mem_map_of_mem hr
  have hsame : Disk.Refiled (IsOutput outputs.disk directory (rendered.map Rendered.name))
      outputs.disk outputs.disk := .refl _ _
  have hprepared : prepare { around with disk := outputs.disk } request = .ok job := by
    have hrests := hlooks.prepares outputs.disk hgenerates.keeps.working fun path hpath =>
      hgenerates.fileAt?_eq hnames hread hmissed hsame hpath
    exact hrests.trans hprepare
  have hdealt : dealt { around with disk := outputs.disk } job.plan.manifest.files =
      dealt around job.plan.manifest.files := rfl
  rw [run, hprepared]
  dsimp only
  rw [produceAll_disk, hdealt,
    hgenerates.produceAll_again hgiven (hlooks.renders job hprepare) hnames hread hmissed
      (fun r hr => hgenerates.exists_get?_target hne hr) hsame,
    hgenerates.putFiles_eq_self hne]

/-! ## A file that is missed at first -/

/-- A file that a path leads to is read. -/
theorem readText_of_fileAt? {disk : Disk} {root path text : String}
    (h : disk.fileAt? (Path.join root path) = some text.toUTF8) :
    Source.readText (.directory root) disk path = .ok text := by
  obtain ⟨hlocate, hget⟩ := Disk.fileAt?_eq_some_iff.1 h
  apply Source.readText_of_entryAt?
  rw [Disk.entryAt?, hlocate]
  exact hget

/-- Where a path leads to no file, nothing is read. -/
theorem readText_of_missing {disk : Disk} {root path : String}
    (h : disk.fileAt? (Path.join root path) = none) :
    ∃ fault, Source.readText (.directory root) disk path = .error fault := by
  unfold Source.readText Source.read
  dsimp only
  rcases hfound : disk.entryAt? (Path.join root path) with _ | (content | _)
  · exact ⟨.notFound (Path.join root path), rfl⟩
  · rw [Disk.fileAt?, hfound] at h
    cases h
  · exact ⟨.notRegular (Path.join root path), rfl⟩

section Seeking

open Template
open CppClass (loose quoted part CallsLibrary)

/-- A template that prints `A` if a license can be made from a path, and `B` if not. -/
def seeking (path : String) : String :=
  Source.Bundled.tag (" if qArgName | replace(from=\"N\", to=cpp(call=\"license\", path=\"" ++
    path ++ "\")) ") ++ "A" ++ Source.Bundled.tag " else " ++ "B" ++ Source.Bundled.tag " endif "

/-- What the template is read as. -/
def seekingNodes (path : String) : List Node :=
  [.cond [.mk loose (.mk (.name "qArgName") false [.mk "replace"
      [("from", quoted "N"), ("to", part "license" [("path", quoted path)])]]) [.text "A"]]
    (some (.mk loose [.text "B"])) loose]

/-- A working directory `w` with a license `l` and a template directory `t`, which has a manifest
and this template. -/
def seekingAround (path : String) : Surroundings where
  disk :=
    { entries := [(["w"], .directory), (["w", "l"], .file "L".toUTF8), (["w", "t"], .directory),
        (["w", "t", "templates"], .directory), (["w", "t", "templates", "classes"], .directory),
        (["w", "t", "templates", "classes", "cpp"], .directory),
        (["w", "t", "templates", "classes", "cpp", "config.yml"],
          .file "files:\n- in: a\n  out: d/b\n".toUTF8),
        (["w", "t", "templates", "classes", "cpp", "a"], .file (seeking path).toUTF8)]
      working := ["w"] }
  environment := []
  seconds := 0
  chance := .still
  complaint := fun _ _ => []

/-- What its run looks up: the manifest, the template and the license. -/
def seekingLooks (path : String) (disk : Disk) (p : String) : Prop :=
  disk = (seekingAround path).disk ∧
    p ∈ ["t/templates/classes/cpp/config.yml", "t/templates/classes/cpp/a", path]

/-- The manifest as it is read. -/
def seekingManifest : Manifest := ⟨"", "", [], [⟨"a", "d/b", [], ""⟩]⟩

theorem ofText_seekingManifest :
    Manifest.ofText "files:\n- in: a\n  out: d/b\n" = .ok seekingManifest :=
  CppClass.ofText_of_spells (.literal _) (by decide +kernel)

/-- What counts for the file of the run. -/
def seekingJob : Job :=
  ⟨⟨.directory "t", Target.cppClass.directory, seekingManifest⟩, (smallRequest (some "out")).fields,
    some "out"⟩

variable {path : String}

/-- Wherever the manifest is, a run is prepared in the same way. -/
theorem prepare_seeking
    (hmanifest : around.disk.fileAt? "t/templates/classes/cpp/config.yml" =
      some "files:\n- in: a\n  out: d/b\n".toUTF8) :
    prepare around (smallRequest (some "out")) = .ok seekingJob := by
  have hpath : Path.join "t" Target.cppClass.manifestPath =
      "t/templates/classes/cpp/config.yml" := by
    decide
  have hread := readText_of_fileAt? (hpath ▸ hmanifest)
  have hsource : sourceOf (smallRequest (some "out")) = .directory "t" := by decide
  rw [← hsource] at hread
  have hplan := plan_of_load (by decide)
    (load_of_readText hread ofText_seekingManifest)
  rw [prepare_eq_ok_iff]
  refine ⟨?_, rfl, rfl⟩
  rw [hsource] at hplan
  exact hplan

/-- **A license** whose template writes a text, whatever its fields are, is this text. -/
theorem license_of_writes {fields : Fields} {text out : String}
    {nodes : List Node} (hne : path ≠ "")
    (hread : Source.readText .anywhere around.disk path = .ok text) (hreads : Reads text nodes)
    (hwrites : ∀ env {chance : Chance}, Writes env chance [] nodes out) :
    Library.license around path fields = .ok out := by
  have hnothing : ∀ env, Knows env [] pageFrames :=
    fun _ => ⟨List.cons_ne_nil _ _, fun _ _ hx => by cases hx⟩
  rw [Library.license, if_neg hne, Expansion.expandPath, hread]
  dsimp only
  rw [Expansion.expandText_of_knows hreads (fun env _ => hnothing env) fun env _ => hwrites env]

/-- A license whose template cannot be read cannot be made. -/
theorem license_of_unread {fields : Fields} {fault : Source.Fault}
    (hne : path ≠ "") (hread : Source.readText .anywhere around.disk path = .error fault) :
    Library.license around path fields = .error ⟨path, .unread path fault⟩ := by
  rw [Library.license, if_neg hne, Expansion.expandPath, hread]

/-- A call for a license passes on what becomes of it. -/
theorem headerPart_path (around : Surroundings) (chance : Chance) (path : String) :
    Library.headerPart around chance [("call", .string "license"), ("path", .string path)] =
      match Library.license (around.drawing chance) path
        (.ofList [("ClassName", .text ""), ("FileName", .text "")]) with
      | .ok text => .ok (.string text)
      | .error failure => .error ("cpp.license failed" :: failure.trace) := by
  rw [CppClass.headerPart_license, Library.licenseText]
  have hpath : Library.textOrEmpty "cpp.license" [("call", .string "license"),
      ("path", .string path)] "path" = .ok path := rfl
  have hclass : Library.textOrEmpty "cpp.license" [("call", .string "license"),
      ("path", .string path)] "class_name" = .ok "" := rfl
  have hfile : Library.textOrEmpty "cpp.license" [("call", .string "license"),
      ("path", .string path)] "file_name" = .ok "" := rfl
  rw [hpath, hclass, hfile]
  rfl

/-- The paths that are tried: to the license itself, and on the way that the run makes. -/
def IsTried (path : String) : Prop := path = "l" ∨ path = "out/d/../../l"

theorem reads_seeking (h : IsTried path) : Reads (seeking path) (seekingNodes path) := by
  rcases h with rfl | rfl
  all_goals
    refine .of_spells (.append (.append (.append (.append (.tag (.append (.append (.literal _)
      (.literal _)) (.literal _))) (.literal _)) (.tag (.literal _))) (.literal _))
      (.tag (.literal _))) ?_
    decide +kernel

theorem IsTried.join (h : IsTried path) : Path.join "" path = path := by
  rcases h with rfl | rfl <;> decide

theorem IsTried.ne_empty (h : IsTried path) : path ≠ "" := by
  rcases h with rfl | rfl <;> decide

/-- What the template prints depends on whether the path leads to the license or to no file. -/
theorem writes_seeking {env : Env} {chance : Chance} {view : View}
    (hcalls : CallsLibrary around env)
    (hname : lookupEntry "qArgName" view = some (.string "N")) (h : IsTried path)
    (hlicense : around.disk.fileAt? path = some "L".toUTF8 ∨ around.disk.fileAt? path = none) :
    Writes env chance view (seekingNodes path)
      (if (around.disk.fileAt? path).isSome then "A" else "B") := by
  have hcpp : env.function? "cpp" = some (Library.headerPart around) := by
    rw [hcalls]
    rfl
  have hargs : ∀ {chance : Chance}, GivesAll env view chance
      [("call", quoted "license"), ("path", quoted path)]
      [("call", .string "license"), ("path", .string path)] :=
    .cons _ (.text _) (.cons _ (.text _) .nil)
  refine .only (.cond ?_)
  rcases hlicense with hfound | hmissing
  · -- the license takes the place of the name, and a text that is not empty counts as true
    have hread : Source.readText .anywhere around.disk path = .ok "L" :=
      readText_of_fileAt? (h.join.symm ▸ hfound)
    have hreads : Reads "L" [.text "L"] := .of_spells (.literal _) (by decide)
    have hpart : ∀ chance, Library.headerPart around chance
        [("call", .string "license"), ("path", .string path)] = .ok (.string "L") := by
      intro chance
      have hmade : ∀ fields, Library.license (around.drawing chance) path fields = .ok "L" :=
        fun _ => license_of_writes h.ne_empty hread hreads fun _ => .only (.text "L")
      rw [headerPart_path, hmade]
    have hgives : ∀ {chance : Chance},
        Gives env chance view (part "license" [("path", quoted path)]) (.string "L") :=
      .call hcpp hargs (hpart _)
    have hreplaced : ∀ {chance : Chance}, Gives env chance view
        (.mk (.name "qArgName") false [.mk "replace"
          [("from", quoted "N"), ("to", part "license" [("path", quoted path)])]]) (.string "L") :=
      .filtered hname (by decide) (by decide) rfl (.cons _ (.text "N") (.cons _ hgives .nil)) rfl
    rw [hfound]
    exact .take (.filtered hreplaced) (.only (.text "A"))
  · -- the call fails, and a condition takes a failure in a filter for false
    have hread : ∃ fault, Source.readText .anywhere around.disk path = .error fault :=
      readText_of_missing (h.join.symm ▸ hmissing)
    obtain ⟨fault, hread⟩ := hread
    have hpart : ∀ chance, Library.headerPart around chance
        [("call", .string "license"), ("path", .string path)] =
        .error ("cpp.license failed" ::
          Library.LicenseFailure.trace ⟨path, .unread path fault⟩) := by
      intro chance
      have hunread : ∀ fields, Library.license (around.drawing chance) path fields =
          .error ⟨path, .unread path fault⟩ :=
        fun _ => license_of_unread h.ne_empty hread
      rw [headerPart_path, hunread]
    have hfails : ∀ chance, Fails env chance view (part "license" [("path", quoted path)]) :=
      fun _ => .call hcpp hargs (hpart _)
    have hreplaced : ∀ {chance : Chance}, Fails env chance view
        (.mk (.name "qArgName") false [.mk "replace"
          [("from", quoted "N"), ("to", part "license" [("path", quoted path)])]]) :=
      .filtered hname (by decide) (by decide) rfl (.tail _ (.head _)) hfails
    rw [hmissing]
    exact .skip (.failing hreplaced) (.otherwise (.only (.text "B")))

/-- **The file of the run**, on any disk where the template is and the path leads to the license or
to no file. -/
theorem renderFile_seeking (h : IsTried path) {found? : Option ByteArray}
    (htemplate : around.disk.fileAt? "t/templates/classes/cpp/a" = some (seeking path).toUTF8)
    (hfound : around.disk.fileAt? path = found?)
    (hlicense : found? = some "L".toUTF8 ∨ found? = none) :
    renderFile around seekingJob ⟨"a", "d/b", [], ""⟩ =
      .ok (some ⟨"d/b", trimLeading (if found?.isSome then "A" else "B")⟩) := by
  subst hfound
  have hfields : Expansion.Supplies seekingJob.fields
      (CppClass.requestEntries "" (smallRequest (some "out"))) := CppClass.supplies_fields rfl
  have htemplate' : Path.join "t" (templatePath seekingJob ⟨"a", "d/b", [], ""⟩) =
      "t/templates/classes/cpp/a" := by
    decide
  have hbody := readText_of_fileAt? (htemplate' ▸ htemplate)
  have hname : Reads "d/b" [.text "d/b"] := .of_spells (.literal _) (by decide)
  have hwhole : Reads (seekingJob.plan.manifest.header ++ seeking path) (seekingNodes path) := by
    have hheader : seekingJob.plan.manifest.header = "" := rfl
    rw [hheader, String.empty_append]
    exact reads_seeking h
  exact renderFile_of_writes rfl hfields .nil hname (fun _ _ => .only (.text "d/b")) hbody hwhole
    fun env henv => writes_seeking henv rfl h hlicense

/-- A file that a path is seen to lead to. -/
theorem fileAt?_of_locate {disk : Disk} {p : String} {content : ByteArray} (place : Location)
    (hlocate : (disk.locate p).toOption = some place)
    (hget : disk.get? place = some (.file content)) : disk.fileAt? p = some content := by
  rw [Disk.fileAt?, Disk.entryAt?, eq_ok_of_toOption hlocate]
  dsimp only
  rw [hget]

theorem manifest_seeking (h : IsTried path) :
    (seekingAround path).disk.fileAt? "t/templates/classes/cpp/config.yml" =
      some "files:\n- in: a\n  out: d/b\n".toUTF8 := by
  rcases h with rfl | rfl
  all_goals
    exact fileAt?_of_locate ["w", "t", "templates", "classes", "cpp", "config.yml"] (by decide) rfl

theorem template_seeking (h : IsTried path) :
    (seekingAround path).disk.fileAt? "t/templates/classes/cpp/a" = some (seeking path).toUTF8 := by
  rcases h with rfl | rfl
  all_goals exact fileAt?_of_locate ["w", "t", "templates", "classes", "cpp", "a"] (by decide) rfl

theorem fileAt?_near : (seekingAround "l").disk.fileAt? "l" = some "L".toUTF8 :=
  fileAt?_of_locate ["w", "l"] (by decide) rfl

theorem fileAt?_far : (seekingAround "out/d/../../l").disk.fileAt? "out/d/../../l" = none := by
  decide

theorem license_seeking (h : IsTried path) :
    (seekingAround path).disk.fileAt? path = some "L".toUTF8 ∨
      (seekingAround path).disk.fileAt? path = none := by
  rcases h with rfl | rfl
  · exact .inl fileAt?_near
  · exact .inr fileAt?_far

/-- **What the run looks up** are the manifest, the template and the license. -/
theorem looksUp_seeking (h : IsTried path) :
    LooksUp (seekingAround path) .unlimited (smallRequest (some "out")) (seekingLooks path) := by
  have hagree : ∀ {other : Disk}, (∀ p, seekingLooks path (seekingAround path).disk p →
      other.fileAt? p = (seekingAround path).disk.fileAt? p) →
      ∀ p ∈ ["t/templates/classes/cpp/config.yml", "t/templates/classes/cpp/a", path],
        other.fileAt? p = (seekingAround path).disk.fileAt? p :=
    fun hother p hp => hother p ⟨rfl, hp⟩
  have hprepare : prepare (seekingAround path) (smallRequest (some "out")) = .ok seekingJob :=
    prepare_seeking (manifest_seeking h)
  constructor
  · intro other _ hother
    have hmanifest := hagree hother _ (.head _)
    rw [manifest_seeking h] at hmanifest
    have hother' : prepare { seekingAround path with disk := other } (smallRequest (some "out")) =
        .ok seekingJob := prepare_seeking hmanifest
    exact hother'.trans hprepare.symm
  · intro job hjob
    obtain rfl : job = seekingJob := by
      rw [hprepare] at hjob
      exact (Except.ok.inj hjob).symm
    refine ⟨?_, trivial⟩
    intro other _ hother
    have htemplate := hagree hother _ (.tail _ (.head _))
    have hlicense := hagree hother _ (.tail _ (.tail _ (.head _)))
    rw [template_seeking h] at htemplate
    have hfirst := @renderFile_seeking
      ((seekingAround path).drawing ((Chance.still.branch 1).branch 0)) path h _
      (template_seeking h) rfl (license_seeking h)
    have hsecond := @renderFile_seeking (Surroundings.drawing
      { seekingAround path with disk := other } ((Chance.still.branch 1).branch 0)) path h _
      htemplate hlicense (license_seeking h)
    exact hsecond.trans hfirst.symm

/-- None of these files is where the output is written. -/
theorem readsElsewhere_seeking (h : IsTried path) :
    ReadsElsewhere "out" ["d/b"] (seekingLooks path) := by
  rintro _ p ⟨rfl, hp⟩ - ⟨name, hname, hplace⟩
  rw [List.mem_singleton] at hname
  subst hname
  rcases h with rfl | rfl
  · revert p
    decide
  · revert p
    decide

/-- **The run** writes its file if it can, on any disk where the manifest and the template are and
the path leads to the license or to no file. -/
theorem run_seeking (h : IsTried path)
    (hmanifest : around.disk.fileAt? "t/templates/classes/cpp/config.yml" =
      some "files:\n- in: a\n  out: d/b\n".toUTF8)
    (htemplate : around.disk.fileAt? "t/templates/classes/cpp/a" = some (seeking path).toUTF8)
    (hlicense : around.disk.fileAt? path = some "L".toUTF8 ∨ around.disk.fileAt? path = none)
    {text : String}
    (htext : trimLeading (if (around.disk.fileAt? path).isSome then "A" else "B") = text)
    (hwrite : (around.disk.writeUnder (Path.below "out" "d/b") text.toUTF8).2 = none) :
    run around console (smallRequest (some "out")) =
      (⟨(around.disk.writeUnder (Path.below "out" "d/b") text.toUTF8).1, console⟩,
        .ok ["d/b"]) := by
  let own : Chance := (around.chance.branch 1).branch 0
  have hrenders : renderFile (around.drawing own) seekingJob ⟨"a", "d/b", [], ""⟩ =
      .ok (some ⟨"d/b", text⟩) := by
    rw [← htext]
    exact renderFile_seeking h htemplate rfl hlicense
  have hdone : around.disk.writeUnder (Path.below "out" "d/b") text.toUTF8 =
      ((around.disk.writeUnder (Path.below "out" "d/b") text.toUTF8).1, none) := by
    rw [← hwrite]
  have hdir : Request.given seekingJob.outputDirectory = some "out" := rfl
  have hproduce := @produce_of_renders around seekingJob "out" hdir _ _ ⟨around.disk, console⟩ _ _
    (renderFile_eq_some_iff.1 hrenders) hdone
  have hdealt : dealt around seekingJob.plan.manifest.files =
      [(⟨"a", "d/b", [], ""⟩, own)] := rfl
  rw [run, prepare_seeking hmanifest]
  dsimp only
  rw [hdealt, produceAll_cons_of_ok hproduce]
  rfl

/-- The disk after the first run, which has written a text. -/
def seekingWritten (path text : String) : Disk :=
  ((seekingAround path).disk.writeUnder (Path.below "out" "d/b") text.toUTF8).1

/-- Where the path leads to the license from the beginning, the second run writes what is there. -/
theorem run_again_found :
    (Request.given (smallRequest (some "out")).outputDirectory = some "out" ∧
      run (seekingAround "l") .unlimited (smallRequest (some "out")) =
        (⟨seekingWritten "l" "A", .unlimited⟩, .ok ["d/b"]) ∧
      LooksUp (seekingAround "l") .unlimited (smallRequest (some "out")) (seekingLooks "l") ∧
      ReadsElsewhere "out" ["d/b"] (seekingLooks "l") ∧
      MissesStay (seekingWritten "l" "A") (seekingLooks "l")) ∧
    run { seekingAround "l" with disk := seekingWritten "l" "A" } .unlimited
        (smallRequest (some "out")) =
      (⟨seekingWritten "l" "A", .unlimited⟩, .ok ["d/b"]) := by
  have htried : IsTried "l" := .inl rfl
  have hdir : Request.given (smallRequest (some "out")).outputDirectory = some "out" := rfl
  have htext : trimLeading (if ((seekingAround "l").disk.fileAt? "l").isSome then "A" else "B") =
      "A" := by
    rw [fileAt?_near]
    rfl
  have hrun : run (seekingAround "l") .unlimited (smallRequest (some "out")) =
      (⟨seekingWritten "l" "A", .unlimited⟩, .ok ["d/b"]) :=
    run_seeking htried (manifest_seeking htried) (template_seeking htried) (license_seeking htried)
      htext (by decide)
  have hlooks := looksUp_seeking htried
  have hread := readsElsewhere_seeking htried
  have hmissed : MissesStay (seekingWritten "l" "A") (seekingLooks "l") := by
    rintro _ p ⟨rfl, hp⟩ hnone
    exfalso
    simp only [List.mem_cons, List.not_mem_nil, or_false] at hp
    rcases hp with rfl | rfl | rfl
    · rw [manifest_seeking htried] at hnone
      cases hnone
    · rw [template_seeking htried] at hnone
      cases hnone
    · rw [fileAt?_near] at hnone
      cases hnone
  exact ⟨⟨hdir, hrun, hlooks, hread, hmissed⟩, run_again hdir hrun hlooks hread hmissed .unlimited⟩

/-- **A run that is repeated may write something else** although it reads none of the files that it
writes: the way to a license leads through a directory that the first run makes, and a condition has
hidden that the license was missed. -/
theorem run_again_missed :
    Request.given (smallRequest (some "out")).outputDirectory = some "out" ∧
    run (seekingAround "out/d/../../l") .unlimited (smallRequest (some "out")) =
      (⟨seekingWritten "out/d/../../l" "B", .unlimited⟩, .ok ["d/b"]) ∧
    LooksUp (seekingAround "out/d/../../l") .unlimited (smallRequest (some "out"))
      (seekingLooks "out/d/../../l") ∧
    ReadsElsewhere "out" ["d/b"] (seekingLooks "out/d/../../l") ∧
    (seekingWritten "out/d/../../l" "B").fileAt? "out/d/b" = some "B".toUTF8 ∧
    ∃ outputs, run { seekingAround "out/d/../../l" with
        disk := seekingWritten "out/d/../../l" "B" } .unlimited (smallRequest (some "out")) =
        (outputs, .ok ["d/b"]) ∧
      outputs.disk.fileAt? "out/d/b" = some "A".toUTF8 := by
  have htried : IsTried "out/d/../../l" := .inr rfl
  have htext : trimLeading (if ((seekingAround "out/d/../../l").disk.fileAt?
      "out/d/../../l").isSome then "A" else "B") = "B" := by
    rw [fileAt?_far]
    rfl
  have hrun : run (seekingAround "out/d/../../l") .unlimited (smallRequest (some "out")) =
      (⟨seekingWritten "out/d/../../l" "B", .unlimited⟩, .ok ["d/b"]) :=
    run_seeking htried (manifest_seeking htried) (template_seeking htried) (license_seeking htried)
      htext (by decide)
  have hfound : (seekingWritten "out/d/../../l" "B").fileAt? "out/d/../../l" =
      some "L".toUTF8 :=
    fileAt?_of_locate ["w", "l"] (by decide) rfl
  have htext' : trimLeading (if ((seekingWritten "out/d/../../l" "B").fileAt?
      "out/d/../../l").isSome then "A" else "B") = "A" := by
    rw [hfound]
    rfl
  have hagain := @run_seeking { seekingAround "out/d/../../l" with
      disk := seekingWritten "out/d/../../l" "B" } .unlimited _ htried
    (fileAt?_of_locate ["w", "t", "templates", "classes", "cpp", "config.yml"] (by decide) rfl)
    (fileAt?_of_locate ["w", "t", "templates", "classes", "cpp", "a"] (by decide) rfl)
    (.inl hfound) _ htext' (by decide)
  exact ⟨rfl, hrun, looksUp_seeking htried, readsElsewhere_seeking htried,
    fileAt?_of_locate ["w", "out", "d", "b"] (by decide) rfl, _, hagain,
    fileAt?_of_locate ["w", "out", "d", "b"] (by decide) rfl⟩

end Seeking

end Scaffold.Generation
