import Scaffold.Proofs.Generation.PythonClass.Run
import Scaffold.Proofs.Generation.Written

/-!
# Classes with a license

With the templates that come with the program, a license is put in front of every file as it is, and
the rest of the file does not depend on it. The key notions are `FrontOf`, a text that is shown in
front of a file wherever the license, the class and the name of the file are known, and
`licenseChance`, what the license of a file draws from in a run. Main facts:

* `frontOf_license` : the text of a license and the end of a line stand in front of a file;
* `run_of_fronts` : what a run prints is what stands in front of its files, and the files;
* `run_licensed` : what a license changes of a run.
-/

namespace Scaffold.Generation

open Template
open Expansion (viewOf)
open CppClass (CallsLibrary className licenseNode licenseFieldsFor)

variable {around : Surroundings} {console : Console} {request : Request} {target : Target}
  {license path : String}

/-! ## Files of both families -/

/-- The files of a class without a license. -/
def plainFiles (target : Target) (request : Request) : List Rendered :=
  match target with
  | .cppClass => CppClass.files request
  | .pythonClass => PythonClass.files request

/-- The line ends that the templates put in front of a file. -/
def lineEnds (target : Target) (request : Request) : String :=
  match target with
  | .cppClass => "\n"
  | .pythonClass => PythonClass.gap request

/-- A file behind a text and some line ends, without the spaces at its beginning. -/
def behind (front gap : String) (file : Rendered) : Rendered :=
  ⟨file.name, trimLeading (front ++ (gap ++ file.text))⟩

theorem lineEnds_eq (target : Target) (request : Request) :
    ∀ c ∈ (lineEnds target request).toList, c = '\n' := by
  cases target with
  | cppClass =>
    rw [lineEnds]
    decide
  | pythonClass =>
    rw [lineEnds, PythonClass.gap]
    split
    · decide
    · decide

/-- Of the line ends alone nothing is left. -/
theorem behind_nothing {file : Rendered} (h : file ∈ plainFiles target request) :
    behind "" (lineEnds target request) file = file := by
  cases target with
  | cppClass =>
    rw [plainFiles, CppClass.files, List.mem_pair] at h
    rcases h with rfl | rfl
    · rw [behind, lineEnds, String.empty_append, CppClass.trimLeading_headerText]
    · rw [behind, lineEnds, String.empty_append, CppClass.trimLeading_sourceText]
  | pythonClass =>
    rw [plainFiles, PythonClass.files, List.mem_singleton] at h
    subst h
    rw [behind, lineEnds, String.empty_append, PythonClass.trimLeading_moduleText]

/-! ## What stands in front -/

/-- A text is shown in front of a file wherever the license, the class and the name of the file are
known. -/
def FrontOf (around : Surroundings) (chance : Chance) (license : String) (request : Request)
    (fileName front : String) : Prop :=
  ∀ (env : Env) (view : View), CallsLibrary around env →
    lookupEntry "qArgLicenseFile" view = some (.string license) →
    lookupEntry "className" view = some (.string (className request)) →
    lookupEntry "fileName" view = some (.string fileName) → Shows env chance view licenseNode front

theorem frontOf_nothing (chance : Chance) (fileName : String) :
    FrontOf around chance "" request fileName "" :=
  fun _ _ _ hlicense _ _ => CppClass.shows_noLicense hlicense

/-- **The text of a license** stands in front of a file. -/
theorem frontOf_license {chance : Chance} {fileName text : String} (hgiven : license ≠ "")
    (htext : Library.license (around.drawing (CppClass.ofLicense chance)) license
      (licenseFieldsFor request fileName) = .ok text) :
    FrontOf around chance license request fileName (text ++ "\n") :=
  fun _ _ h hlicense hclass hfile =>
    CppClass.shows_license h hgiven hlicense hclass hfile htext

/-- The fields that the `i`-th file of a class is expanded with. -/
def fileEntries (license : String) (request : Request) : Target → Nat → List (String × Field)
  | .cppClass, 0 => CppClass.headerEntries license request
  | .cppClass, _ => CppClass.sourceEntries license request
  | .pythonClass, _ => PythonClass.moduleEntries license request

/-- What stands in front of the `i`-th file of a class draws from this in a run. -/
def frontChance (chance : Chance) (license : String) (request : Request) (target : Target)
    (i : Nat) : Chance :=
  (ofText ((chance.branch 1).branch i) (fileEntries license request target i)).branch 0

/-- The license of the `i`-th file of a class draws from this in a run. -/
def licenseChance (chance : Chance) (license : String) (request : Request) (target : Target)
    (i : Nat) : Chance :=
  CppClass.ofLicense (frontChance chance license request target i)

/-! ## Runs -/

/-- What the category and the type of a request with a target are. -/
theorem cases_of_find? (h : Target.find? request.category request.typeName = some target) :
    request.category = .classes ∧
      (target = .cppClass ∧ (Text.toLowercase request.typeName = "cpp" ∨
          Text.toLowercase request.typeName = "c++") ∨
        target = .pythonClass ∧ (Text.toLowercase request.typeName = "python" ∨
          Text.toLowercase request.typeName = "py")) := by
  cases hcategory : request.category with
  | projects =>
    rw [hcategory] at h
    cases h
  | files =>
    rw [hcategory] at h
    cases h
  | classes =>
    rw [hcategory, Target.find?, Target.ofTypeName?] at h
    refine ⟨rfl, ?_⟩
    split at h
    · rename_i htype
      cases h
      exact .inl ⟨rfl, htype⟩
    · split at h
      · rename_i htype
        cases h
        exact .inr ⟨rfl, htype⟩
      · cases h

/-- The two files of a class in C++ are rendered behind what stands in front of them. -/
theorem renderAll_cppClass {job : Job} (front : String → String)
    (hplan : job.plan = CppClass.cppPlan)
    (hfields : Expansion.Supplies job.fields (CppClass.sharedEntries license request))
    (hheader : FrontOf around (frontChance around.chance license request .cppClass 0) license
      request (CppClass.headerName request) (front (CppClass.headerName request)))
    (hsource : FrontOf around (frontChance around.chance license request .cppClass 1) license
      request (CppClass.sourceName request) (front (CppClass.sourceName request))) :
    renderAll around job (dealt around [CppClass.headerFile, CppClass.sourceFile]) =
      ((plainFiles .cppClass request).map fun file =>
        behind (front file.name) (lineEnds .cppClass request) file, none) := by
  have hshowsHeader : ∀ env, CallsLibrary (around.drawing ((around.chance.branch 1).branch 0)) env →
      Shows env (frontChance around.chance license request .cppClass 0)
        (viewOf (CppClass.headerEntries license request)) licenseNode _ :=
    fun env h => hheader env _ (CppClass.callsLibrary_drawing.1 h) rfl rfl rfl
  have hshowsSource : ∀ env, CallsLibrary (around.drawing ((around.chance.branch 1).branch 1)) env →
      Shows env (frontChance around.chance license request .cppClass 1)
        (viewOf (CppClass.sourceEntries license request)) licenseNode _ :=
    fun env h => hsource env _ (CppClass.callsLibrary_drawing.1 h) rfl rfl rfl
  have hdealt : dealt around [CppClass.headerFile, CppClass.sourceFile] =
      [(CppClass.headerFile, (around.chance.branch 1).branch 0),
        (CppClass.sourceFile, (around.chance.branch 1).branch 1)] := rfl
  rw [hdealt, renderAll, CppClass.renderFile_header_behind hplan hfields hshowsHeader, renderAll,
    CppClass.renderFile_source_behind hplan hfields hshowsSource]
  simp only [plainFiles, CppClass.files, lineEnds, behind, List.map_cons, List.map_nil, renderAll,
    Option.toList_some, List.cons_append, List.nil_append]

/-- So is the module of a class in Python. -/
theorem renderAll_pythonClass {job : Job} (front : String → String)
    (hplan : job.plan = PythonClass.pythonPlan)
    (hfields : Expansion.Supplies job.fields (PythonClass.moduleEntries license request))
    (hmodule : FrontOf around (frontChance around.chance license request .pythonClass 0) license
      request (PythonClass.fileName request) (front (PythonClass.fileName request))) :
    renderAll around job (dealt around [PythonClass.moduleFile]) =
      ((plainFiles .pythonClass request).map fun file =>
        behind (front file.name) (lineEnds .pythonClass request) file, none) := by
  have hshows : ∀ env, CallsLibrary (around.drawing ((around.chance.branch 1).branch 0)) env →
      Shows env (frontChance around.chance license request .pythonClass 0)
        (viewOf (PythonClass.moduleEntries license request)) licenseNode _ :=
    fun env h => hmodule env _ (CppClass.callsLibrary_drawing.1 h) rfl rfl rfl
  rw [dealt, Chance.deal, Chance.deal, renderAll,
    PythonClass.renderFile_module_behind hplan hfields hshows]
  simp only [plainFiles, PythonClass.files, lineEnds, behind, List.map_cons, List.map_nil,
    renderAll, Option.toList_some, List.cons_append, List.nil_append]

/-- **The files are rendered** behind what stands in front of them. -/
theorem exists_job_of_fronts
    (htarget : Target.find? request.category request.typeName = some target)
    (htemplates : Request.given request.templateDirectory = none)
    (hlicense : (Request.given request.licenseFile).getD "" = license) {front : String → String}
    (hfront : ∀ i file, (plainFiles target request)[i]? = some file →
      FrontOf around (frontChance around.chance license request target i) license request file.name
        (front file.name)) :
    ∃ job, prepare around request = .ok job ∧ job.outputDirectory = request.outputDirectory ∧
      renderAll around job (dealt around job.plan.manifest.files) =
        ((plainFiles target request).map fun file =>
          behind (front file.name) (lineEnds target request) file, none) := by
  obtain ⟨hcategory, ⟨rfl, htype⟩ | ⟨rfl, htype⟩⟩ := cases_of_find? htarget
  · have hplan : plan around.disk request = .ok CppClass.cppPlan :=
      CppClass.plan_cppClass hcategory htype htemplates
    obtain ⟨fields, hprepare, hfields⟩ := CppClass.prepare_of_cppPlan hplan hlicense
    have hheader := hfront 0 ⟨CppClass.headerName request, CppClass.headerText request⟩ rfl
    have hsource := hfront 1 ⟨CppClass.sourceName request, CppClass.sourceText request⟩ rfl
    dsimp only at hheader hsource
    exact ⟨_, hprepare, rfl, renderAll_cppClass front rfl hfields hheader hsource⟩
  · have hplan : plan around.disk request = .ok PythonClass.pythonPlan :=
      PythonClass.plan_pythonClass hcategory htype htemplates
    obtain ⟨fields, hprepare, hfields⟩ := PythonClass.prepare_of_pythonPlan hplan hlicense
    have hmodule := hfront 0 ⟨PythonClass.fileName request, PythonClass.moduleText request⟩ rfl
    dsimp only at hmodule
    exact ⟨_, hprepare, rfl, renderAll_pythonClass front rfl hfields hmodule⟩

/-- **What a run prints** is what stands in front of its files, and the files. -/
theorem run_of_fronts (htarget : Target.find? request.category request.typeName = some target)
    (htemplates : Request.given request.templateDirectory = none)
    (hlicense : (Request.given request.licenseFile).getD "" = license)
    (hecho : Request.given request.outputDirectory = none) (front : String → String)
    (hfront : ∀ i file, (plainFiles target request)[i]? = some file →
      FrontOf around (frontChance around.chance license request target i) license request file.name
        (front file.name))
    {files : List Rendered} (hfiles : files = (plainFiles target request).map fun file =>
      behind (front file.name) (lineEnds target request) file)
    (hroom : (console.writeBytes (framesBytes files)).2 = true) :
    run around console request =
      (⟨around.disk, (console.writeBytes (framesBytes files)).1⟩,
        .ok ((plainFiles target request).map Rendered.name)) := by
  obtain ⟨job, hprepare, houtput, hrender⟩ :=
    exists_job_of_fronts htarget htemplates hlicense hfront
  rw [← hfiles] at hrender
  rw [← houtput] at hecho
  have hnames : files.map Rendered.name = (plainFiles target request).map Rendered.name := by
    rw [hfiles, List.map_map]
    rfl
  have hproduce := produceAll_of_takes hecho hrender hroom
  rw [hnames] at hproduce
  rw [run, hprepare]
  dsimp only
  rw [hproduce]

/-- The same request without a license. -/
def unlicensed (request : Request) : Request := { request with licenseFile := none }

/-- What the files look like without a license does not depend on the license. -/
theorem plainFiles_unlicensed (target : Target) (request : Request) :
    plainFiles target (unlicensed request) = plainFiles target request := by
  cases target with
  | cppClass => rfl
  | pythonClass => rfl

/-- What stands between the text of a license and a file: line ends. -/
def newlines (target : Target) (request : Request) : String := "\n" ++ lineEnds target request

theorem newlines_eq (target : Target) (request : Request) :
    ∀ c ∈ (newlines target request).toList, c = '\n' := by
  intro c hc
  rw [newlines, String.toList_append, List.mem_append] at hc
  rcases hc with hc | hc
  · revert c
    decide
  · exact lineEnds_eq target request c hc

/-- **A license is put in front of every file as it is.** Let a class of either family be requested
with a license and without a directory of templates and an output directory, and let the license be
made for every file of the same request without it, with what it draws from in the run. Then both
runs succeed with the same names, and the text of a file is that of its license, some line ends, and
its text without a license, less the spaces at the beginning of the whole. -/
theorem run_licensed (htarget : Target.find? request.category request.typeName = some target)
    (htemplates : Request.given request.templateDirectory = none)
    (hlicense : Request.given request.licenseFile = some path)
    (hecho : Request.given request.outputDirectory = none) {licenses : String → String}
    (hmade : ∀ i file, (plainFiles target request)[i]? = some file →
      Library.license (around.drawing (licenseChance around.chance path request target i)) path
        (.ofList [("ClassName", .text (Header.className request.name)),
          ("FileName", .text file.name)]) = .ok (licenses file.name)) :
    (∀ console, (console.writeBytes (framesBytes (plainFiles target request))).2 = true →
      run around console (unlicensed request) =
        (⟨around.disk, (console.writeBytes (framesBytes (plainFiles target request))).1⟩,
          .ok ((plainFiles target request).map Rendered.name))) ∧
    (∀ c ∈ (newlines target request).toList, c = '\n') ∧
    ∀ console files,
      files = ((plainFiles target request).map fun file =>
        ⟨file.name,
          trimLeading (licenses file.name ++ (newlines target request ++ file.text))⟩) →
      (console.writeBytes (framesBytes files)).2 = true →
      run around console request =
        (⟨around.disk, (console.writeBytes (framesBytes files)).1⟩,
          .ok ((plainFiles target request).map Rendered.name)) := by
  refine ⟨?_, newlines_eq target request, ?_⟩
  · -- without a license nothing stands in front of the texts
    intro console hroom
    have hsame : Target.find? (unlicensed request).category (unlicensed request).typeName =
        some target := htarget
    rw [← plainFiles_unlicensed] at hroom ⊢
    refine run_of_fronts hsame htemplates rfl hecho (fun _ => "")
      (fun _ file _ => frontOf_nothing _ file.name) ?_ hroom
    rw [List.map_congr_left fun file hfile => behind_nothing hfile, List.map_id']
  · intro console files hfiles hroom
    have hpath : path ≠ "" := ne_empty_of_given hlicense
    have hvalue : (Request.given request.licenseFile).getD "" = path := by
      rw [hlicense, Option.getD_some]
    refine run_of_fronts htarget htemplates hvalue hecho (fun name => licenses name ++ "\n")
      (fun i file hfile => frontOf_license hpath (hmade i file hfile)) ?_ hroom
    rw [hfiles]
    simp only [behind, newlines, String.append_assoc]

/-- A working directory `w` with a license that prints a random number and an expression. -/
def licensedAround : Surroundings where
  disk :=
    { entries := [(["w"], .directory),
        (["w", "l"], .file ("# " ++ Source.Bundled.shown "FileName" ++ " " ++
          Source.Bundled.shown "get_random(end=9)" ++ Source.Bundled.tag " raw " ++ ": " ++
          Source.Bundled.shown "qArgName" ++ Source.Bundled.tag " endraw ").toUTF8)]
      working := ["w"] }
  environment := []
  seconds := 0
  chance := fun _ => 7
  complaint := fun _ _ => []

/-- A class in Python without imports, with this license. -/
def licensedRequest : Request :=
  ⟨.classes, "Py", "Dial", none, some "l", none, "", [], [], false, false, "", []⟩

/-- What has been drawn stays, and the expression in the license is not expanded again. -/
theorem run_licensed_dial :
    (Target.find? licensedRequest.category licensedRequest.typeName = some .pythonClass ∧
      Request.given licensedRequest.templateDirectory = none ∧
      Request.given licensedRequest.licenseFile = some "l" ∧
      Request.given licensedRequest.outputDirectory = none ∧
      ∀ i file, (plainFiles .pythonClass licensedRequest)[i]? = some file →
        Library.license (licensedAround.drawing
            (licenseChance licensedAround.chance "l" licensedRequest .pythonClass i)) "l"
          (.ofList [("ClassName", .text (Header.className licensedRequest.name)),
            ("FileName", .text file.name)]) =
          .ok ("# dial.py 7: " ++ Source.Bundled.shown "qArgName")) ∧
    run licensedAround .unlimited licensedRequest =
      (⟨licensedAround.disk, (Console.unlimited.writeBytes (framesBytes [⟨"dial.py",
          Source.Bundled.text ["# dial.py 7: " ++ Source.Bundled.shown "qArgName", "", "", "",
            "class Dial:",
            "    def __init__(self):",
            "        super().__init__()"]⟩])).1⟩,
        .ok ["dial.py"]) := by
  have hplain : plainFiles .pythonClass licensedRequest = [⟨"dial.py",
      Source.Bundled.text ["class Dial:", "    def __init__(self):",
        "        super().__init__()"]⟩] := by
    decide +kernel
  have hmade : ∀ i file, (plainFiles .pythonClass licensedRequest)[i]? = some file →
      Library.license (licensedAround.drawing
          (licenseChance licensedAround.chance "l" licensedRequest .pythonClass i)) "l"
        (.ofList [("ClassName", .text (Header.className licensedRequest.name)),
          ("FileName", .text file.name)]) =
        .ok ("# dial.py 7: " ++ Source.Bundled.shown "qArgName") := by
    intro i file hfile
    rw [hplain] at hfile
    rcases i with _ | i
    · obtain rfl := Option.some.inj hfile
      exact eq_ok_of_toOption (by decide +kernel)
    · cases hfile
  have htarget : Target.find? licensedRequest.category licensedRequest.typeName =
      some .pythonClass := by
    decide +kernel
  obtain ⟨-, -, hrun⟩ := @run_licensed licensedAround _ _ _ htarget rfl rfl rfl
    (fun _ => "# dial.py 7: " ++ Source.Bundled.shown "qArgName") hmade
  rw [hplain] at hrun
  exact ⟨⟨htarget, rfl, rfl, rfl, hmade⟩, hrun .unlimited _ (by decide +kernel) rfl⟩

end Scaffold.Generation
