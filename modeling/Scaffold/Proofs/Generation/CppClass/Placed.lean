import Scaffold.Proofs.Generation.Again
import Scaffold.Proofs.Library.FileName

/-!
# The files of a class in C++ on the disk

The names of the two files are made from the name of the class, which can be any text: it may have
points, slashes, and parts that lead upwards. Main facts:

* `same_header_source` : the header and the source file never have the same path;
* `generates_cppClass` : a run that succeeds generates these two files;
* `run_keeps_both_files` : so both texts are on the disk afterwards, each in a file of its own.
-/

namespace Scaffold.Generation.CppClass

open Expansion (Supplies)

variable {around : Surroundings} {console : Console} {request : Request} {directory : String}
  {outputs : Outputs} {names : List String}

/-- The header and the source file are placed apart, whatever their names are made from. -/
theorem same_header_source (base directory : String) :
    Path.same (Path.below directory (Library.withExtension base ".h"))
      (Path.below directory (base ++ ".cpp")) = false := by
  have hcpp : Library.IsExtension ".cpp" := ⟨by decide, 'c', by decide, by decide⟩
  have hnames : Path.names (Library.withExtension base ".h") ≠ Path.names (base ++ ".cpp") :=
    Library.names_withExtension_ne (by decide) hcpp (by decide) base
  rw [Bool.eq_false_iff, Ne, Path.same_below_iff]
  exact hnames

/-- The two files have different paths. -/
theorem pairwise_files (request : Request) (directory : String) :
    (files request).Pairwise fun r s =>
      Path.below directory s.name ≠ Path.below directory r.name := by
  rw [files, List.pairwise_cons]
  refine ⟨fun s hs => ?_, List.pairwise_singleton _ _⟩
  rw [List.mem_singleton.1 hs]
  dsimp only
  intro hpath
  have hapart := same_header_source (fileBase request) directory
  rw [← headerName, ← sourceName, hpath] at hapart
  simp [Path.same] at hapart

/-- **What a run generates**: the header and the source file, in this order. -/
theorem generates_cppClass (hcategory : request.category = .classes)
    (htype : Text.toLowercase request.typeName = "cpp" ∨ Text.toLowercase request.typeName = "c++")
    (htemplates : Request.given request.templateDirectory = none)
    (hlicense : Request.given request.licenseFile = none)
    (hdir : Request.given request.outputDirectory = some directory)
    (h : run around console request = (outputs, .ok names)) :
    names = [headerName request, sourceName request] ∧
      ∃ job, Generates around job directory around.disk (dealt around job.plan.manifest.files)
        (files request) outputs.disk := by
  obtain ⟨job, rendered, hjob, hgenerates, rfl, -⟩ := generates_of_run hdir h
  have hplan : plan around.disk request = .ok cppPlan :=
    plan_cppClass hcategory htype htemplates
  obtain ⟨fields, hprepare, hfields⟩ := prepare_cppClass hplan hlicense
  rw [hprepare] at hjob
  cases hjob
  -- neither text depends on what the disk is when the file is rendered
  have hrendered : rendered = files request := by
    refine hgenerates.eq_of_renderFile (.cons (fun disk => ?_) (.cons (fun disk => ?_) .nil))
    · exact renderFile_header rfl hfields
    · exact renderFile_source rfl hfields
  subst hrendered
  refine ⟨?_, _, hgenerates⟩
  rw [files, List.map_cons, List.map_cons, List.map_nil]

/-- **The source file never takes the place of the header.** Whatever text the names of the files
are made from, their paths below a directory are different. So a run for a class in C++ that
succeeds, without a directory of templates and a license, leaves the text of the header and that of
the source file on the disk, in two files. -/
theorem run_keeps_both_files :
    (∀ name directory : String,
      Path.same (Path.below directory (Library.withExtension (Text.toLowercase name) ".h"))
        (Path.below directory (Text.toLowercase name ++ ".cpp")) = false) ∧
    ∀ (around : Surroundings) (console : Console) (request : Request) (directory : String)
      (outputs : Outputs) (names : List String),
      request.category = .classes →
      (Text.toLowercase request.typeName = "cpp" ∨ Text.toLowercase request.typeName = "c++") →
      Request.given request.templateDirectory = none →
      Request.given request.licenseFile = none →
      Request.given request.outputDirectory = some directory →
      run around console request = (outputs, .ok names) →
      names = [headerName request, sourceName request] ∧
      ∃ header source, header ≠ source ∧
        outputs.disk.locate (Path.below directory (headerName request)) = .ok header ∧
        outputs.disk.get? header = some (.file (headerText request).toUTF8) ∧
        outputs.disk.locate (Path.below directory (sourceName request)) = .ok source ∧
        outputs.disk.get? source = some (.file (sourceText request).toUTF8) := by
  refine ⟨fun name directory => same_header_source (Text.toLowercase name) directory, ?_⟩
  intro around console request directory outputs names hcategory htype htemplates hlicense hdir h
  have hne : directory ≠ "" := ne_empty_of_given hdir
  obtain ⟨hnames, job, hgenerates⟩ :=
    generates_cppClass hcategory htype htemplates hlicense hdir h
  -- nothing that is written later has the path of an earlier file
  have hapart := pairwise_files request directory
  have hfiles : ∀ r ∈ files request,
      outputs.disk.fileAt? (Path.below directory r.name) = some r.text.toUTF8 := by
    intro r hr
    rw [Disk.fileAt?, hgenerates.entryAt?_of_pairwise hne hapart hr]
  rw [files] at hapart hfiles
  have hheader := hfiles ⟨headerName request, headerText request⟩ List.mem_cons_self
  have hsource := hfiles ⟨sourceName request, sourceText request⟩
    (List.mem_cons_of_mem _ List.mem_cons_self)
  have hpaths := (List.pairwise_cons.1 hapart).1 ⟨sourceName request, sourceText request⟩
    List.mem_cons_self
  dsimp only at hheader hsource hpaths
  obtain ⟨hlocateHeader, hgetHeader⟩ := Disk.fileAt?_eq_some_iff.1 hheader
  obtain ⟨hlocateSource, hgetSource⟩ := Disk.fileAt?_eq_some_iff.1 hsource
  refine ⟨hnames, _, _, fun hplace => ?_, hlocateHeader, hgetHeader, hlocateSource, hgetSource⟩
  exact hpaths (outputs.disk.below_eq_of_target_eq hne hplace).symm

/-- A class with the name of a source file above. -/
def dottedRequest : Request :=
  ⟨.classes, "cpp", "../Dial.cpp", some "out", none, none, "", [], [], false, false, "", []⟩

/-- A disk with a working directory and some entries below it. -/
def dottedDisk (entries : List (Location × Disk.Entry)) : Disk where
  entries := (["w"], .directory) :: entries
  working := ["w"]

/-- Surroundings in which there is nothing yet. -/
def dottedAround : Surroundings := ⟨dottedDisk [], [], 0, .still, fun _ _ => []⟩

/-- Both files can be written: their names lose the part that leads upwards. -/
theorem run_dotted :
    ∃ outputs, run dottedAround .unlimited dottedRequest =
      (outputs, .ok ["../dial.cpp", "../dial.cpp.cpp"]) := by
  have hplan : plan dottedAround.disk dottedRequest = .ok cppPlan :=
    plan_cppClass rfl (by decide +kernel) rfl
  obtain ⟨fields, hprepare, hfields⟩ := prepare_cppClass hplan rfl
  have hdir : Request.given dottedRequest.outputDirectory = some "out" := rfl
  -- what the texts are does not matter
  obtain ⟨header, hheader, hrenderHeader⟩ : ∃ r : Rendered, r.name = "../dial.cpp" ∧
      ∀ around, renderFile around ⟨cppPlan, fields, dottedRequest.outputDirectory⟩ headerFile =
        .ok (some r) :=
    ⟨⟨headerName dottedRequest, headerText dottedRequest⟩, by decide +kernel,
      fun _ => renderFile_header rfl hfields⟩
  obtain ⟨source, hsource, hrenderSource⟩ : ∃ r : Rendered, r.name = "../dial.cpp.cpp" ∧
      ∀ around, renderFile around ⟨cppPlan, fields, dottedRequest.outputDirectory⟩ sourceFile =
        .ok (some r) :=
    ⟨⟨sourceName dottedRequest, sourceText dottedRequest⟩, by decide +kernel,
      fun _ => renderFile_source rfl hfields⟩
  have hwriteHeader : (dottedDisk []).writeUnder (Path.below "out" header.name)
      header.text.toUTF8 = (dottedDisk [(["w", "out"], .directory),
        (["w", "out", "dial.cpp"], .file header.text.toUTF8)], none) := by
    rw [hheader]
    rfl
  have hwriteSource : (dottedDisk [(["w", "out"], .directory),
        (["w", "out", "dial.cpp"], .file header.text.toUTF8)]).writeUnder
      (Path.below "out" source.name) source.text.toUTF8 =
      (dottedDisk [(["w", "out"], .directory),
        (["w", "out", "dial.cpp"], .file header.text.toUTF8),
        (["w", "out", "dial.cpp.cpp"], .file source.text.toUTF8)], none) := by
    rw [hsource]
    rfl
  have hgenerates : Generates dottedAround ⟨cppPlan, fields, dottedRequest.outputDirectory⟩ "out"
      dottedAround.disk (dealt dottedAround cppPlan.manifest.files) [header, source] _ :=
    .write (renderFile_eq_some_iff.1 (hrenderHeader _)) hwriteHeader
      (.write (renderFile_eq_some_iff.1 (hrenderSource _)) hwriteSource .done)
  have hproduce := produceAll_of_generates hdir hgenerates .unlimited
  rw [List.map_cons, List.map_singleton, hheader, hsource] at hproduce
  rw [run, hprepare]
  exact ⟨_, hproduce⟩

/-- Here the header has the name of a source file. -/
theorem run_keeps_both_files_dotted :
    (dottedRequest.category = .classes ∧
      (Text.toLowercase dottedRequest.typeName = "cpp" ∨
        Text.toLowercase dottedRequest.typeName = "c++") ∧
      Request.given dottedRequest.templateDirectory = none ∧
      Request.given dottedRequest.licenseFile = none ∧
      Request.given dottedRequest.outputDirectory = some "out") ∧
    ∃ outputs, run dottedAround .unlimited dottedRequest =
        (outputs, .ok ["../dial.cpp", "../dial.cpp.cpp"]) ∧
      ∃ header source, header ≠ source ∧
        outputs.disk.locate (Path.below "out" (headerName dottedRequest)) = .ok header ∧
        outputs.disk.get? header = some (.file (headerText dottedRequest).toUTF8) ∧
        outputs.disk.locate (Path.below "out" (sourceName dottedRequest)) = .ok source ∧
        outputs.disk.get? source = some (.file (sourceText dottedRequest).toUTF8) := by
  have htype : Text.toLowercase dottedRequest.typeName = "cpp" ∨
      Text.toLowercase dottedRequest.typeName = "c++" := by
    decide +kernel
  obtain ⟨outputs, hrun⟩ := run_dotted
  exact ⟨⟨rfl, htype, rfl, rfl, rfl⟩, outputs, hrun,
    (run_keeps_both_files.2 _ _ _ _ _ _ rfl htype rfl rfl rfl hrun).2⟩

end Scaffold.Generation.CppClass
