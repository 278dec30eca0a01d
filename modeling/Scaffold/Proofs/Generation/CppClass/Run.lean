import Scaffold.Proofs.Generation.CppClass.Writing
import Scaffold.Proofs.Generation.Echoed
import Scaffold.Proofs.Generation.Planning

/-!
# Runs for a class in C++

With the templates that come with the program, a request for a class in C++ always succeeds, and its
two files are those of `CppClass.files`. Main facts:

* `plan_cppClass`, `prepare_of_cppPlan` : what a run starts with;
* `renderFile_header_behind`, `renderFile_source_behind` : what the two files render to, with or
  without a license in front;
* `run_cppClass` : what the whole run prints and gives.
-/

namespace Scaffold.Generation.CppClass

open Template
open Expansion (Supplies)
open Source (readText_bundled)
open Source.Bundled (find?_of_mem_files)

variable {around : Surroundings} {console : Console} {request : Request} {job : Job} {disk : Disk}
  {license front : String}

/-! ## Planning -/

/-- The plan for a class in C++. -/
def cppPlan : Plan := ⟨.bundled, Target.cppClass.directory, manifest⟩

theorem plan_cppClass (hcategory : request.category = .classes)
    (htype : Text.toLowercase request.typeName = "cpp" ∨ Text.toLowercase request.typeName = "c++")
    (htemplates : Request.given request.templateDirectory = none) :
    plan disk request = .ok cppPlan := by
  have htarget : Target.find? request.category request.typeName = some .cppClass := by
    rw [hcategory, Target.find?, Target.ofTypeName?, if_pos htype]
  exact plan_of_bundled htarget htemplates (find?_of_mem_files (.head _)) ofText_cppManifest

/-- **What a run starts with**: the plan for a class in C++, and the fields that are there for both
files. -/
theorem prepare_of_cppPlan (hplan : plan around.disk request = .ok cppPlan)
    (hlicense : (Request.given request.licenseFile).getD "" = license) :
    ∃ fields, prepare around request = .ok ⟨cppPlan, fields, request.outputDirectory⟩ ∧
      Supplies fields (sharedEntries license request) :=
  prepare_of_resolves hplan (supplies_fields hlicense) resolves_shared

theorem prepare_cppClass (hplan : plan around.disk request = .ok cppPlan)
    (hlicense : Request.given request.licenseFile = none) :
    ∃ fields, prepare around request = .ok ⟨cppPlan, fields, request.outputDirectory⟩ ∧
      Supplies fields (sharedEntries "" request) :=
  prepare_of_cppPlan hplan (by rw [hlicense, Option.getD_none])

/-! ## Rendering -/

theorem header_cppPlan : cppPlan.manifest.header = preamble := rfl

theorem find?_header : Source.Bundled.find? (Path.join cppPlan.directory headerFile.input) =
    some Source.Bundled.cppHeader :=
  find?_of_mem_files (.tail _ (.head _))

theorem find?_source : Source.Bundled.find? (Path.join cppPlan.directory sourceFile.input) =
    some Source.Bundled.cppSource :=
  find?_of_mem_files (.tail _ (.tail _ (.head _)))

/-- A template of the family, of which it is known what it is read as. -/
theorem readText_cppPlan (hplan : job.plan = cppPlan) {file : Manifest.File} {body : String}
    (hfind : Source.Bundled.find? (Path.join cppPlan.directory file.input) = some body) :
    job.plan.source.readText around.disk (templatePath job file) = .ok body := by
  rw [templatePath, hplan]
  exact readText_bundled hfind around.disk

/-- **The header** that is rendered, behind what stands in front of it. -/
theorem renderFile_header_behind (hplan : job.plan = cppPlan)
    (hfields : Supplies job.fields (sharedEntries license request))
    (hfront : ∀ env, CallsLibrary around env →
      Shows env ((ofText around.chance (headerEntries license request)).branch 0)
        (Expansion.viewOf (headerEntries license request)) licenseNode front) :
    renderFile around job headerFile =
      .ok (some ⟨headerName request, trimLeading (front ++ ("\n" ++ headerText request))⟩) := by
  have hreads : Reads (job.plan.manifest.header ++ Source.Bundled.cppHeader) headerNodes := by
    rw [hplan, header_cppPlan]
    exact reads_header
  exact renderFile_of_writes rfl hfields resolves_header reads_fileName
    (fun _ _ => .only (.print (.name rfl))) (readText_cppPlan hplan find?_header) hreads
    (fun env h => writes_header h (hfront env h))

/-- **The source file** that is rendered, behind what stands in front of it. -/
theorem renderFile_source_behind (hplan : job.plan = cppPlan)
    (hfields : Supplies job.fields (sharedEntries license request))
    (hfront : ∀ env, CallsLibrary around env →
      Shows env ((ofText around.chance (sourceEntries license request)).branch 0)
        (Expansion.viewOf (sourceEntries license request)) licenseNode front) :
    renderFile around job sourceFile =
      .ok (some ⟨sourceName request, trimLeading (front ++ ("\n" ++ sourceText request))⟩) := by
  have hreads : Reads (job.plan.manifest.header ++ Source.Bundled.cppSource) sourceNodes := by
    rw [hplan, header_cppPlan]
    exact reads_source
  exact renderFile_of_writes rfl hfields resolves_source reads_fileName
    (fun _ _ => .only (.print (.name rfl))) (readText_cppPlan hplan find?_source) hreads
    (fun env h => writes_source h (hfront env h))

/-- The header without a license. -/
theorem renderFile_header (hplan : job.plan = cppPlan)
    (hfields : Supplies job.fields (sharedEntries "" request)) :
    renderFile around job headerFile = .ok (some ⟨headerName request, headerText request⟩) := by
  rw [renderFile_header_behind hplan hfields fun _ _ => shows_noLicense rfl, String.empty_append,
    trimLeading_headerText]

/-- The source file without a license. -/
theorem renderFile_source (hplan : job.plan = cppPlan)
    (hfields : Supplies job.fields (sharedEntries "" request)) :
    renderFile around job sourceFile = .ok (some ⟨sourceName request, sourceText request⟩) := by
  rw [renderFile_source_behind hplan hfields fun _ _ => shows_noLicense rfl, String.empty_append,
    trimLeading_sourceText]

/-! ## Runs -/

/-- **A class in C++ is always generated, as `headerText` and `sourceText` say.** For every request
for a class in C++ without a directory of templates, a license and an output directory, whatever
its names, macros, includes and flags are, the run succeeds with the names of the header and of the
source file; what it prints are the frames of the two texts, on any console that takes them. The
disk stays as it is. -/
theorem run_cppClass (hcategory : request.category = .classes)
    (htype : Text.toLowercase request.typeName = "cpp" ∨ Text.toLowercase request.typeName = "c++")
    (htemplates : Request.given request.templateDirectory = none)
    (hlicense : Request.given request.licenseFile = none)
    (hecho : Request.given request.outputDirectory = none)
    (hroom : (console.writeBytes (framesBytes (files request))).2 = true) :
    run around console request =
      (⟨around.disk, (console.writeBytes (framesBytes (files request))).1⟩,
        .ok [headerName request, sourceName request]) := by
  obtain ⟨fields, hprepare, hfields⟩ :=
    prepare_cppClass (plan_cppClass hcategory htype htemplates) hlicense
  have hrender : renderAll around ⟨cppPlan, fields, request.outputDirectory⟩
      (dealt around [headerFile, sourceFile]) = (files request, none) := by
    rw [dealt, Chance.deal, Chance.deal, Chance.deal, renderAll, renderFile_header rfl hfields,
      renderAll, renderFile_source rfl hfields]
    rfl
  have hfiles : cppPlan.manifest.files = [headerFile, sourceFile] := rfl
  have hnames : (files request).map Rendered.name = [headerName request, sourceName request] := by
    rw [files, List.map_cons, List.map_cons, List.map_nil]
  have hproduce := produceAll_of_takes hecho hrender hroom
  rw [hnames] at hproduce
  rw [run, hprepare]
  dsimp only
  rw [hfiles, hproduce]

/-- A widget in a scope, with two macros. -/
def dialRequest : Request :=
  ⟨.classes, "C++", "app::Dial", none, none, none, "QWidget", ["Q_OBJECT", "Q_DISABLE_COPY(Dial)"],
    ["QTimer"], false, false, "", []⟩

theorem run_cppClass_dial :
    (dialRequest.category = .classes ∧
      (Text.toLowercase dialRequest.typeName = "cpp" ∨
        Text.toLowercase dialRequest.typeName = "c++") ∧
      Request.given dialRequest.templateDirectory = none ∧
      Request.given dialRequest.licenseFile = none ∧
      Request.given dialRequest.outputDirectory = none ∧
      (Console.unlimited.writeBytes (framesBytes (files dialRequest))).2 = true) ∧
    run (smallAround "") .unlimited dialRequest =
      (⟨(smallAround "").disk,
          (Console.unlimited.writeBytes (framesBytes (files dialRequest))).1⟩,
        .ok [headerName dialRequest, sourceName dialRequest]) ∧
    files dialRequest =
      [⟨"dial.h", Source.Bundled.text [
          "#ifndef DIAL_H",
          "#define DIAL_H",
          "",
          "#include <QTimer>",
          "#include <QtWidgets/QWidget>",
          "",
          "namespace app \x7b",
          "",
          "class Dial : public QWidget",
          "\x7b",
          "    Q_OBJECT",
          "    Q_DISABLE_COPY(Dial)",
          "",
          "public:",
          "    explicit Dial(QWidget *parent = nullptr);",
          "    ~Dial() override;",
          "\x7d;",
          "",
          "\x7d // namespace app",
          "",
          "#endif // DIAL_H"]⟩,
        ⟨"dial.cpp", Source.Bundled.text [
          "#include \"dial.h\"",
          "",
          "namespace app \x7b",
          "",
          "Dial::Dial(QWidget *parent)",
          "    : QWidget(parent)",
          "\x7b",
          "\x7d",
          "",
          "Dial::~Dial() = default;",
          "",
          "\x7d // namespace app"]⟩] := by
  refine ⟨⟨rfl, by decide +kernel, rfl, rfl, rfl, rfl⟩, ?_, by decide +kernel⟩
  exact run_cppClass rfl (by decide +kernel) rfl rfl rfl rfl

end Scaffold.Generation.CppClass
