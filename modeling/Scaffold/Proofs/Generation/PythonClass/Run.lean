import Scaffold.Proofs.Generation.CppClass.Run
import Scaffold.Proofs.Generation.PythonClass.Fields

/-!
# Runs for a class in Python

With the templates that come with the program, a request for a class in Python always succeeds, and
its module is that of `PythonClass.files`. Main facts:

* `plan_pythonClass`, `prepare_of_pythonPlan` : what a run starts with;
* `renderFile_module_behind` : what the module renders to, with or without a license in front;
* `run_pythonClass` : what the whole run prints and gives.
-/

namespace Scaffold.Generation.PythonClass

open Template
open Expansion (Supplies)
open Source (readText_bundled)
open Source.Bundled (find?_of_mem_files)
open CppClass (supplies_fields CallsLibrary licenseNode shows_noLicense)

variable {around : Surroundings} {console : Console} {request : Request} {job : Job} {disk : Disk}
  {license front : String}

/-! ## Planning -/

/-- The plan for a class in Python. -/
def pythonPlan : Plan := ⟨.bundled, Target.pythonClass.directory, manifest⟩

theorem plan_pythonClass (hcategory : request.category = .classes)
    (htype : Text.toLowercase request.typeName = "python" ∨
      Text.toLowercase request.typeName = "py")
    (htemplates : Request.given request.templateDirectory = none) :
    plan disk request = .ok pythonPlan := by
  have hother : ¬ (Text.toLowercase request.typeName = "cpp" ∨
      Text.toLowercase request.typeName = "c++") := by
    rcases htype with h | h <;> rw [h] <;> decide
  have htarget : Target.find? request.category request.typeName = some .pythonClass := by
    rw [hcategory, Target.find?, Target.ofTypeName?, if_neg hother, if_pos htype]
  exact plan_of_bundled htarget htemplates
    (find?_of_mem_files (.tail _ (.tail _ (.tail _ (.head _))))) ofText_pythonManifest

/-- **What a run starts with**: the plan for a class in Python, and the fields of the module. -/
theorem prepare_of_pythonPlan (hplan : plan around.disk request = .ok pythonPlan)
    (hlicense : (Request.given request.licenseFile).getD "" = license) :
    ∃ fields, prepare around request = .ok ⟨pythonPlan, fields, request.outputDirectory⟩ ∧
      Supplies fields (moduleEntries license request) :=
  prepare_of_resolves hplan (supplies_fields hlicense) resolves_shared

/-! ## Rendering -/

theorem find?_module : Source.Bundled.find? (Path.join pythonPlan.directory moduleFile.input) =
    some Source.Bundled.pythonModule :=
  find?_of_mem_files (.tail _ (.tail _ (.tail _ (.tail _ (.head _)))))

/-- **The module** that is rendered, behind what stands in front of it. -/
theorem renderFile_module_behind (hplan : job.plan = pythonPlan)
    (hfields : Supplies job.fields (moduleEntries license request))
    (hfront : ∀ env, CallsLibrary around env →
      Shows env ((ofText around.chance (moduleEntries license request)).branch 0)
        (Expansion.viewOf (moduleEntries license request)) licenseNode front) :
    renderFile around job moduleFile =
      .ok (some ⟨fileName request,
        trimLeading (front ++ (gap request ++ moduleText request))⟩) := by
  have hbody : job.plan.source.readText around.disk (templatePath job moduleFile) =
      .ok Source.Bundled.pythonModule := by
    rw [templatePath, hplan]
    exact readText_bundled find?_module around.disk
  have hreads : Reads (job.plan.manifest.header ++ Source.Bundled.pythonModule) moduleNodes := by
    have hheader : pythonPlan.manifest.header = CppClass.preamble := rfl
    rw [hplan, hheader]
    exact reads_module
  exact renderFile_of_writes rfl hfields .nil CppClass.reads_fileName
    (fun _ _ => .only (.print (.name rfl))) hbody hreads
    (fun env h => writes_module h (hfront env h))

/-- The module without a license. -/
theorem renderFile_module (hplan : job.plan = pythonPlan)
    (hfields : Supplies job.fields (moduleEntries "" request)) :
    renderFile around job moduleFile = .ok (some ⟨fileName request, moduleText request⟩) := by
  rw [renderFile_module_behind hplan hfields fun _ _ => shows_noLicense rfl, String.empty_append,
    trimLeading_moduleText]

/-! ## Runs -/

/-- **A class in Python is always generated, as `moduleText` says.** For every request for a class
in Python without a directory of templates, a license and an output directory, whatever its names,
imports and flags are, the run succeeds with the name of the module; what it prints is the frame of
its text, on any console that takes it. The disk stays as it is. -/
theorem run_pythonClass (hcategory : request.category = .classes)
    (htype : Text.toLowercase request.typeName = "python" ∨
      Text.toLowercase request.typeName = "py")
    (htemplates : Request.given request.templateDirectory = none)
    (hlicense : Request.given request.licenseFile = none)
    (hecho : Request.given request.outputDirectory = none)
    (hroom : (console.writeBytes (framesBytes (files request))).2 = true) :
    run around console request =
      (⟨around.disk, (console.writeBytes (framesBytes (files request))).1⟩,
        .ok [fileName request]) := by
  have hnone : (Request.given request.licenseFile).getD "" = "" := by
    rw [hlicense, Option.getD_none]
  obtain ⟨fields, hprepare, hfields⟩ :=
    prepare_of_pythonPlan (plan_pythonClass hcategory htype htemplates) hnone
  have hrender : renderAll around ⟨pythonPlan, fields, request.outputDirectory⟩
      (dealt around [moduleFile]) = (files request, none) := by
    rw [dealt, Chance.deal, Chance.deal, renderAll, renderFile_module rfl hfields]
    rfl
  have hfiles : pythonPlan.manifest.files = [moduleFile] := rfl
  have hnames : (files request).map Rendered.name = [fileName request] := by
    rw [files, List.map_cons, List.map_nil]
  have hproduce := produceAll_of_takes hecho hrender hroom
  rw [hnames] at hproduce
  rw [run, hprepare]
  dsimp only
  rw [hfiles, hproduce]

/-- A widget that imports a class from a place of its own. -/
def dialRequest : Request :=
  ⟨.classes, "Py", "app::DialView", none, none, none, "QWidget", [], [], false, false, "",
    ["QTimer", "QChart/Axis", "json"]⟩

theorem run_pythonClass_dial :
    (dialRequest.category = .classes ∧
      (Text.toLowercase dialRequest.typeName = "python" ∨
        Text.toLowercase dialRequest.typeName = "py") ∧
      Request.given dialRequest.templateDirectory = none ∧
      Request.given dialRequest.licenseFile = none ∧
      Request.given dialRequest.outputDirectory = none ∧
      (Console.unlimited.writeBytes (framesBytes (files dialRequest))).2 = true) ∧
    run (smallAround "") .unlimited dialRequest =
      (⟨(smallAround "").disk,
          (Console.unlimited.writeBytes (framesBytes (files dialRequest))).1⟩,
        .ok [fileName dialRequest]) ∧
    files dialRequest =
      [⟨"dial_view.py", Source.Bundled.text [
          "from PySide6.QChart import Axis",
          "from PySide6.QtCore import QTimer",
          "from PySide6.QtWidgets import QWidget",
          "",
          "",
          "class DialView(QWidget):",
          "    def __init__(self, parent=None):",
          "        super().__init__(parent)"]⟩] := by
  refine ⟨⟨rfl, by decide +kernel, rfl, rfl, rfl, rfl⟩, ?_, by decide +kernel⟩
  exact run_pythonClass rfl (by decide +kernel) rfl rfl rfl rfl

end Scaffold.Generation.PythonClass
