import Scaffold.Proofs.Expansion.Noninterference
import Scaffold.Proofs.Generation.PythonClass.Run

/-!
# Templates that are copied to a directory

A run that takes its templates from a directory with exact copies of those that come with the
program is the run without the directory. Where the templates come from is a field that templates
can read: that those of the program do not is checked on their syntax. The key notions are
`IgnoredByFile`, a file of a manifest whose templates do not read a field, and `HoldsCopies`, a
directory with the copies. Main facts:

* `runPlan_of_ignored` : with plans that read the same templates, requests whose fields differ in
  one that is not read have the same outcome;
* `ignored_fields`, `ignored_files` : no template of the two families reads where it comes from;
* `run_of_copies` : so a directory with copies makes no difference.
-/

namespace Scaffold.Generation

open Template
open Expansion (Ignores IgnoredBy SameOutcome ignores_of_reads expandText_of_ignores
  expandFields_of_ignores)

variable {around : Surroundings} {console : Console} {request request' : Request}
  {job job' : Job} {disk : Disk} {x : String}

/-! ## Files that do not read a field -/

/-- The templates of a file of a manifest do not read a field; `body` is that of its text. -/
structure IgnoredByFile (x header body : String) (file : Manifest.File) : Prop where
  condition : file.condition = ""
  fields : IgnoredBy x file.fields
  output : Ignores x file.output
  text : Ignores x (header ++ body)

/-- **A file whose templates do not read a field** renders to the same, or fails in the same way,
whatever the value of the field is. -/
theorem renderFile_of_ignored {file : Manifest.File} {header body : String}
    (hignored : IgnoredByFile x header body file)
    (hfields : Fields.AgreeOff x job.fields job'.fields)
    (hheader : job.plan.manifest.header = header) (hheader' : job'.plan.manifest.header = header)
    (hbody : job.plan.source.readText around.disk (templatePath job file) = .ok body)
    (hbody' : job'.plan.source.readText around.disk (templatePath job' file) = .ok body) :
    renderFile around job file = renderFile around job' file := by
  have hwith : ∀ fields fields', Fields.AgreeOff x fields fields' →
      renderWith (around.part 2) job file fields =
        renderWith (around.part 2) job' file fields' := by
    intro fields fields' h
    have hread : job.plan.source.readText (around.part 2).disk (templatePath job file) = .ok body :=
      hbody
    have hread' : job'.plan.source.readText (around.part 2).disk (templatePath job' file) =
        .ok body := hbody'
    rw [renderWith, renderWith, expandText_of_ignores hignored.output h, hread, hread', hheader,
      hheader']
    simp only [expandText_of_ignores hignored.text h]
  have hsame :=
    expandFields_of_ignores hignored.fields hfields (Library.standard around) (around.part 1)
  rw [renderFile, renderFile, holds, holds, if_pos hignored.condition, if_pos hignored.condition]
  dsimp only
  generalize Expansion.expandFields (Library.standard around) (around.part 1) job.fields
    file.fields = outcome at hsame ⊢
  generalize Expansion.expandFields (Library.standard around) (around.part 1) job'.fields
    file.fields = outcome' at hsame ⊢
  cases hsame with
  | ok h =>
    dsimp only
    rw [hwith _ _ h]
  | error failure => rfl

/-- Echoed files that render to the same are produced alike. -/
theorem produceAll_of_renderFile (hecho : Request.given job.outputDirectory = none)
    (houtput : job'.outputDirectory = job.outputDirectory) {files : List Dealt}
    (h : ∀ entry ∈ files, renderFile ({ around with disk := disk }.drawing entry.2) job entry.1 =
      renderFile ({ around with disk := disk }.drawing entry.2) job' entry.1) (console : Console) :
    produceAll around job files ⟨disk, console⟩ = produceAll around job' files ⟨disk, console⟩ := by
  induction files generalizing console with
  | nil => rfl
  | cons entry rest ih =>
    obtain ⟨file, chance⟩ := entry
    have hproduce : produce (around.drawing chance) job file ⟨disk, console⟩ =
        produce (around.drawing chance) job' file ⟨disk, console⟩ := by
      rw [produce, produce, houtput, Surroundings.on_drawing, h _ (.head _)]
    have hdisk : (produce (around.drawing chance) job file ⟨disk, console⟩).1.disk = disk :=
      disk_produce hecho file _
    rw [produceAll, produceAll, ← hproduce]
    rcases hfirst : produce (around.drawing chance) job file ⟨disk, console⟩ with
      ⟨⟨disk', console'⟩, result⟩
    rw [hfirst] at hdisk
    dsimp only at hdisk
    subst hdisk
    cases result with
    | error failure => rfl
    | ok name? =>
      dsimp only
      rw [ih (fun other hother => h other (.tail _ hother)) console']

/-- **Plans that read the same templates**: requests whose fields differ in one that no template
reads have the same outcome. -/
theorem runPlan_of_ignored {source source' : Source} {directory : String} {m : Manifest}
    {textOf : Manifest.File → String}
    (hglobal : IgnoredBy x m.fields)
    (hfiles : ∀ file ∈ m.files, IgnoredByFile x m.header (textOf file) file)
    (hbody : ∀ file ∈ m.files,
      source.readText around.disk (Path.join directory file.input) = .ok (textOf file))
    (hbody' : ∀ file ∈ m.files,
      source'.readText around.disk (Path.join directory file.input) = .ok (textOf file))
    (hfields : Fields.AgreeOff x request.fields request'.fields)
    (hecho : Request.given request.outputDirectory = none)
    (houtput : request'.outputDirectory = request.outputDirectory) :
    runPlan around console request ⟨source, directory, m⟩ =
      runPlan around console request' ⟨source', directory, m⟩ := by
  have hsame := expandFields_of_ignores hglobal hfields (Library.standard around) (around.part 0)
  rw [runPlan, runPlan, runFiles, runFiles]
  dsimp only
  generalize Expansion.expandFields (Library.standard around) (around.part 0) request.fields
    m.fields = outcome at hsame ⊢
  generalize Expansion.expandFields (Library.standard around) (around.part 0) request'.fields
    m.fields = outcome' at hsame ⊢
  cases hsame with
  | error failure => rfl
  | ok h =>
    refine produceAll_of_renderFile hecho houtput (fun entry hentry => ?_) console
    have hfile : entry.1 ∈ m.files := mem_of_mem_dealt hentry
    exact renderFile_of_ignored (hfiles _ hfile) h rfl rfl (hbody _ hfile) (hbody' _ hfile)

/-! ## The families that come with the program -/

/-- The name of the field that says where the templates come from. -/
def origin : String := "qArgTemplateDir"

/-- The manifest of a family, as a text and as what it holds. -/
def manifestOf : Target → String × Manifest
  | .cppClass => (Source.Bundled.cppManifest, CppClass.manifest)
  | .pythonClass => (Source.Bundled.pythonManifest, PythonClass.manifest)

/-- The text of the template of a file of a family. -/
def bodyOf (target : Target) (file : Manifest.File) : String :=
  (Source.Bundled.find? (Path.join target.directory file.input)).getD ""

theorem ofText_manifestOf (target : Target) :
    Manifest.ofText (manifestOf target).1 = .ok (manifestOf target).2 := by
  cases target with
  | cppClass => exact CppClass.ofText_cppManifest
  | pythonClass => exact PythonClass.ofText_pythonManifest

/-- **The fields for all files** of a family do not read where it comes from. -/
theorem ignored_fields (target : Target) : IgnoredBy origin (manifestOf target).2.fields := by
  cases target with
  | cppClass =>
    refine .cons (ignores_of_reads CppClass.reads_className (by decide)) ?_
    refine .cons (ignores_of_reads CppClass.reads_fileBase (by decide)) ?_
    refine .cons (ignores_of_reads CppClass.reads_headerName (by decide)) ?_
    refine .cons (ignores_of_reads CppClass.reads_sourceName (by decide)) ?_
    refine .cons (ignores_of_reads CppClass.reads_hasMacro (by decide)) ?_
    refine .cons (ignores_of_reads CppClass.reads_isQObject (by decide)) ?_
    refine .cons (ignores_of_reads CppClass.reads_baseClass (by decide)) ?_
    refine .cons (ignores_of_reads CppClass.reads_parentType (by decide)) ?_
    exact .nil
  | pythonClass =>
    refine .cons (ignores_of_reads CppClass.reads_className (by decide)) ?_
    refine .cons (ignores_of_reads PythonClass.reads_fileStem (by decide)) ?_
    refine .cons (ignores_of_reads PythonClass.reads_fileName (by decide)) ?_
    refine .cons (ignores_of_reads PythonClass.reads_package (by decide)) ?_
    refine .cons (ignores_of_reads PythonClass.reads_baseClass (by decide)) ?_
    exact .nil

theorem bodyOf_header : bodyOf .cppClass CppClass.headerFile = Source.Bundled.cppHeader := by
  have hfind : Source.Bundled.find?
      (Path.join Target.cppClass.directory CppClass.headerFile.input) =
        some Source.Bundled.cppHeader := CppClass.find?_header
  rw [bodyOf, hfind, Option.getD_some]

theorem bodyOf_source : bodyOf .cppClass CppClass.sourceFile = Source.Bundled.cppSource := by
  have hfind : Source.Bundled.find?
      (Path.join Target.cppClass.directory CppClass.sourceFile.input) =
        some Source.Bundled.cppSource := CppClass.find?_source
  rw [bodyOf, hfind, Option.getD_some]

theorem bodyOf_module :
    bodyOf .pythonClass PythonClass.moduleFile = Source.Bundled.pythonModule := by
  have hfind : Source.Bundled.find?
      (Path.join Target.pythonClass.directory PythonClass.moduleFile.input) =
        some Source.Bundled.pythonModule := PythonClass.find?_module
  rw [bodyOf, hfind, Option.getD_some]

/-- **The files** of a family do not read it either. -/
theorem ignored_files (target : Target) : ∀ file ∈ (manifestOf target).2.files,
    IgnoredByFile origin (manifestOf target).2.header (bodyOf target file) file := by
  intro file hfile
  have houtput : Ignores origin (Source.Bundled.shown "fileName") :=
    ignores_of_reads CppClass.reads_fileName (by decide)
  cases target with
  | cppClass =>
    rcases List.mem_pair.1 hfile with rfl | rfl
    · refine ⟨rfl, ?_, houtput, ?_⟩
      · refine .cons (ignores_of_reads CppClass.reads_nameOfHeader (by decide)) ?_
        exact .cons (ignores_of_reads CppClass.reads_headerGuard (by decide)) .nil
      · rw [bodyOf_header]
        exact ignores_of_reads CppClass.reads_header (by decide +kernel)
    · refine ⟨rfl, ?_, houtput, ?_⟩
      · exact .cons (ignores_of_reads CppClass.reads_nameOfSource (by decide)) .nil
      · rw [bodyOf_source]
        exact ignores_of_reads CppClass.reads_source (by decide +kernel)
  | pythonClass =>
    rw [List.mem_singleton.1 hfile]
    refine ⟨rfl, .nil, houtput, ?_⟩
    rw [bodyOf_module]
    exact ignores_of_reads PythonClass.reads_module (by decide +kernel)

/-! ## Directories with copies -/

/-- A directory holds exact copies of the templates that come with the program. -/
def HoldsCopies (disk : Disk) (root : String) : Prop :=
  ∀ file ∈ Source.Bundled.files,
    disk.entryAt? (Path.join root file.1) = some (.file file.2.toUTF8)

/-- A request that takes its templates from a directory, if there is one. -/
def takingFrom (root : Option String) (request : Request) : Request :=
  { request with templateDirectory := root }

/-- **A copy is read** as what it is a copy of, and without a directory so is the original. -/
theorem readText_takingFrom {root : Option String}
    (hcopies : ∀ r, root = some r → HoldsCopies disk r) {path text : String}
    (hfile : (path, text) ∈ Source.Bundled.files) :
    (sourceOf (takingFrom root request)).readText disk path = .ok text := by
  cases hgiven : Request.given root with
  | none =>
    have hsource : sourceOf (takingFrom root request) = .bundled := by
      rw [sourceOf, takingFrom, hgiven]
    rw [hsource]
    exact Source.readText_bundled (Source.Bundled.find?_of_mem_files hfile) disk
  | some r =>
    have hroot : root = some r := by
      unfold Request.given at hgiven
      exact (Option.filter_eq_some_iff.1 hgiven).1
    have hsource : sourceOf (takingFrom root request) = .directory r := by
      rw [sourceOf, takingFrom, hgiven]
    have hcopy : disk.entryAt? (Path.join r path) = some (.file text.toUTF8) :=
      hcopies r hroot (path, text) hfile
    rw [hsource]
    exact Source.readText_of_entryAt? hcopy

theorem manifest_mem_files (target : Target) :
    (target.manifestPath, (manifestOf target).1) ∈ Source.Bundled.files := by
  cases target with
  | cppClass => exact .head _
  | pythonClass => exact .tail _ (.tail _ (.tail _ (.head _)))

theorem body_mem_files (target : Target) : ∀ file ∈ (manifestOf target).2.files,
    (Path.join target.directory file.input, bodyOf target file) ∈ Source.Bundled.files := by
  intro file hfile
  cases target with
  | cppClass =>
    rcases List.mem_pair.1 hfile with rfl | rfl
    · rw [bodyOf_header]
      exact .tail _ (.head _)
    · rw [bodyOf_source]
      exact .tail _ (.tail _ (.head _))
  | pythonClass =>
    rw [List.mem_singleton.1 hfile, bodyOf_module]
    exact .tail _ (.tail _ (.tail _ (.tail _ (.head _))))

/-- Where the templates come from is the only parameter that differs. -/
theorem agreeOff_takingFrom (root root' : Option String) (request : Request) :
    Fields.AgreeOff origin (takingFrom root request).fields (takingFrom root' request).fields := by
  have hsame : ∀ (name : String) (value : Field),
      name = name ∧ (name ≠ origin → value = value) := fun _ _ => ⟨rfl, fun _ => rfl⟩
  have hother : ∀ value value' : Field,
      origin = origin ∧ (origin ≠ origin → value = value') :=
    fun _ _ => ⟨rfl, fun h => absurd rfl h⟩
  refine (Fields.AgreeOff.empty origin).insertAll ?_
  refine .cons (hsame _ _) (.cons (hsame _ _) (.cons (hsame _ _) (.cons (hsame _ _) ?_)))
  refine .cons (hother _ _) (.cons (hsame _ _) (.cons (hsame _ _) (.cons (hsame _ _) ?_)))
  exact .cons (hsame _ _) (.cons (hsame _ _) (.cons (hsame _ _) (.cons (hsame _ _) .nil)))

/-- Either way the plan is to take the same files. -/
theorem plan_takingFrom {target : Target}
    (htarget : Target.find? request.category request.typeName = some target)
    {root : Option String} (hcopies : ∀ r, root = some r → HoldsCopies disk r) :
    plan disk (takingFrom root request) =
      .ok ⟨sourceOf (takingFrom root request), target.directory, (manifestOf target).2⟩ :=
  plan_of_load htarget (load_of_readText
    (readText_takingFrom hcopies (manifest_mem_files target)) (ofText_manifestOf target))

/-- **Where templates come from makes no difference.** With a directory that holds exact copies of
the templates that come with the program, a run that echoes has the same answer, prints the same and
leaves the disk as the run without the directory does, whatever is requested and whether or not it
succeeds, if the same is left to chance in both. -/
theorem run_of_copies {root : String} (hcopies : HoldsCopies around.disk root)
    (hecho : Request.given request.outputDirectory = none) :
    run around console (takingFrom (some root) request) =
      run around console (takingFrom none request) := by
  have hdirectory : ∀ r, some root = some r → HoldsCopies around.disk r := by
    rintro r ⟨⟩
    exact hcopies
  have hnone : ∀ r, (none : Option String) = some r → HoldsCopies around.disk r := by
    intro r hr
    cases hr
  cases htarget : Target.find? request.category request.typeName with
  | none =>
    have hplan : ∀ root', plan around.disk (takingFrom root' request) =
        .error (.invalidTarget request.category request.typeName) := by
      intro root'
      rw [plan, takingFrom, htarget]
    rw [run, run, prepare, prepare, hplan, hplan]
  | some target =>
    rw [run_eq_runPlan (plan_takingFrom htarget hdirectory),
      run_eq_runPlan (plan_takingFrom htarget hnone)]
    exact runPlan_of_ignored (ignored_fields target) (ignored_files target)
      (fun file hfile => readText_takingFrom hdirectory (body_mem_files target file hfile))
      (fun file hfile => readText_takingFrom hnone (body_mem_files target file hfile))
      (agreeOff_takingFrom _ _ request) hecho rfl

/-- A working directory `w` with copies of all templates in a directory `t`. -/
def copiesAround : Surroundings where
  disk :=
    { entries := [(["w"], .directory), (["w", "t"], .directory),
        (["w", "t", "templates"], .directory), (["w", "t", "templates", "classes"], .directory),
        (["w", "t", "templates", "classes", "cpp"], .directory),
        (["w", "t", "templates", "classes", "python"], .directory),
        (["w", "t", "templates", "classes", "cpp", "config.yml"],
          .file Source.Bundled.cppManifest.toUTF8),
        (["w", "t", "templates", "classes", "cpp", "class.h.tera"],
          .file Source.Bundled.cppHeader.toUTF8),
        (["w", "t", "templates", "classes", "cpp", "class.cpp.tera"],
          .file Source.Bundled.cppSource.toUTF8),
        (["w", "t", "templates", "classes", "python", "config.yml"],
          .file Source.Bundled.pythonManifest.toUTF8),
        (["w", "t", "templates", "classes", "python", "class.py.tera"],
          .file Source.Bundled.pythonModule.toUTF8)]
      working := ["w"] }
  environment := []
  seconds := 0
  chance := .still
  complaint := fun _ _ => []

theorem locate_copies : ∀ file ∈ Source.Bundled.files.map (·.1),
    copiesAround.disk.locate (Path.join "t" file) =
      .ok (["w", "t"] ++ Path.segments file) := by
  have hlocate : ∀ file ∈ ["templates/classes/cpp/config.yml", "templates/classes/cpp/class.h.tera",
      "templates/classes/cpp/class.cpp.tera", "templates/classes/python/config.yml",
      "templates/classes/python/class.py.tera"],
      (copiesAround.disk.locate (Path.join "t" file)).toOption =
        some (["w", "t"] ++ Path.segments file) := by
    decide +kernel
  exact fun file hfile => eq_ok_of_toOption (hlocate file hfile)

theorem holdsCopies_copiesAround : HoldsCopies copiesAround.disk "t" := by
  intro file hfile
  have hlocate := locate_copies file.1 (List.mem_map_of_mem hfile)
  simp only [Source.Bundled.files, List.mem_cons, List.not_mem_nil, or_false] at hfile
  rw [Disk.entryAt?, hlocate]
  rcases hfile with rfl | rfl | rfl | rfl | rfl <;> rfl

/-- One of the runs reads the copies, the other one the originals. -/
theorem run_of_copies_dial :
    (HoldsCopies copiesAround.disk "t" ∧
      Request.given CppClass.dialRequest.outputDirectory = none) ∧
    sourceOf (takingFrom (some "t") CppClass.dialRequest) = .directory "t" ∧
    sourceOf (takingFrom none CppClass.dialRequest) = .bundled ∧
    run copiesAround .unlimited (takingFrom (some "t") CppClass.dialRequest) =
      run copiesAround .unlimited (takingFrom none CppClass.dialRequest) :=
  ⟨⟨holdsCopies_copiesAround, rfl⟩, by decide, by decide,
    run_of_copies holdsCopies_copiesAround rfl⟩

end Scaffold.Generation
