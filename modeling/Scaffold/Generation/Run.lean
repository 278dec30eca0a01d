import Scaffold.Expansion.Fields
import Scaffold.Generation.Console
import Scaffold.Generation.Request
import Scaffold.Library.Catalog
import Scaffold.Manifest.Basic

/-!
# Running a request

A run looks up the target, loads its manifest, resolves the fields that count for all files, and
then takes the files of the manifest in order: one whose condition does not hold is skipped, every
other one is rendered and delivered, to a file below the output directory or to the console. The
first failure ends the run; what was delivered before stays. Whatever is expanded in the course of a
run draws from a branch of its own: each file is dealt one, whatever the other files are.
`produceAll_append` says that the files can be taken in two portions.
-/

namespace Scaffold.Generation

/-- Why an output could not be delivered. -/
inductive DeliveryFault where
  | disk (fault : Disk.Fault)
  | consoleFull
  deriving Repr, DecidableEq

/-- The text of a fault. -/
def DeliveryFault.message : DeliveryFault → String
  | .disk fault => fault.message
  | .consoleFull => "console full"

/-- Why a run failed. -/
inductive Failure where
  | invalidTarget (category : Category) (typeName : String)
  | manifest (cause : Manifest.Failure)
  | field (cause : Expansion.FieldFailure)
  | condition (entry : String) (cause : Expansion.Failure)
  | render (entry : String) (cause : Expansion.Failure)
  | delivery (path : String) (cause : DeliveryFault)
  deriving Repr, DecidableEq

/-- The text of a failure. -/
def Failure.message : Failure → String
  | .invalidTarget category typeName =>
    s!"invalid new type, given = '{category.name}', '{typeName}'"
  | .manifest cause => cause.message
  | .field cause => cause.message
  | .condition entry cause =>
    s!"failed to evaluate 'when' condition for '{entry}': {cause.message}"
  | .render entry cause => s!"failed to render '{entry}': {cause.message}"
  | .delivery path cause => s!"failed to write {path}: {cause.message}"

/-! ## Plans -/

/-- A request that has been looked up: where its templates come from and what its manifest says. -/
structure Plan where
  source : Source
  directory : String
  manifest : Manifest

/-- The source of the templates of a request. -/
def sourceOf (request : Request) : Source :=
  match Request.given request.templateDirectory with
  | some root => .directory root
  | none => .bundled

/-- Looks up the target of a request and loads its manifest. -/
def plan (disk : Disk) (request : Request) : Except Failure Plan :=
  match Target.find? request.category request.typeName with
  | none => .error (.invalidTarget request.category request.typeName)
  | some target =>
    match Manifest.load (sourceOf request) disk target.manifestPath with
    | .ok manifest => .ok ⟨sourceOf request, target.directory, manifest⟩
    | .error cause => .error (.manifest cause)

/-! ## Single files -/

/-- What counts for all files of a run: the plan, the fields resolved for all files, and where the
output goes. -/
structure Job where
  plan : Plan
  fields : Fields
  outputDirectory : Option String

/-- A rendered file. -/
structure Rendered where
  name : String
  text : String
  deriving Repr, DecidableEq

/-- Whether the condition of a file holds: it is empty or expands to the word `true`. -/
def holds (around : Surroundings) (job : Job) (file : Manifest.File) : Except Failure Bool :=
  if file.condition = "" then .ok true
  else
    match Expansion.expandText (Library.standard around) around file.input
      file.condition job.fields with
    | .ok text => .ok (text == "true")
    | .error cause => .error (.condition file.input cause)

/-- Whether a character is dropped at the beginning of an output. -/
def isLeadingSpace (c : Char) : Bool := c == ' ' || c == '\t' || c == '\r' || c == '\n'

/-- A text without the spaces and line ends at its beginning. -/
def trimLeading (text : String) : String := String.ofList (text.toList.dropWhile isLeadingSpace)

/-- The path of the template of a file. -/
def templatePath (job : Job) (file : Manifest.File) : String :=
  Path.join job.plan.directory file.input

/-- Renders a file with its fields: its name, and the header and its template as one. -/
def renderWith (around : Surroundings) (job : Job) (file : Manifest.File) (fields : Fields) :
    Except Expansion.Failure Rendered :=
  match Expansion.expandText (Library.standard around) (around.part 0) file.input file.output
    fields with
  | .error cause => .error cause
  | .ok name =>
    match job.plan.source.readText around.disk (templatePath job file) with
    | .error cause => .error (.unread (templatePath job file) cause)
    | .ok body =>
      match Expansion.expandText (Library.standard around) (around.part 1) name
        (job.plan.manifest.header ++ body) fields with
      | .error cause => .error cause
      | .ok text => .ok ⟨name, trimLeading text⟩

/-- Renders a file, unless its condition does not hold. -/
def renderFile (around : Surroundings) (job : Job) (file : Manifest.File) :
    Except Failure (Option Rendered) :=
  match holds (around.part 0) job file with
  | .error failure => .error failure
  | .ok false => .ok none
  | .ok true =>
    match Expansion.expandFields (Library.standard around) (around.part 1) job.fields
      file.fields with
    | .error cause => .error (.field cause)
    | .ok fields =>
      match renderWith (around.part 2) job file fields with
      | .error cause => .error (.render file.input cause)
      | .ok rendered => .ok (some rendered)

/-! ## Delivering -/

/-- The disk and the console in the course of a run. -/
structure Outputs where
  disk : Disk
  console : Console

/-- Delivers a rendered file, to a file below a directory or to the console. -/
def deliver (outputDirectory : Option String) (rendered : Rendered) (outputs : Outputs) :
    Outputs × Option Failure :=
  match Request.given outputDirectory with
  | some directory =>
    let path := Path.below directory rendered.name
    match outputs.disk.writeUnder path rendered.text.toUTF8 with
    | (disk, none) => ({ outputs with disk := disk }, none)
    | (disk, some fault) => ({ outputs with disk := disk }, some (.delivery path (.disk fault)))
  | none =>
    match outputs.console.write (Console.frame rendered.name rendered.text) with
    | (console, true) => ({ outputs with console := console }, none)
    | (console, false) =>
      ({ outputs with console := console }, some (.delivery rendered.name .consoleFull))

/-- Renders and delivers a file. Gives its name unless it is skipped. -/
def produce (around : Surroundings) (job : Job) (file : Manifest.File) (outputs : Outputs) :
    Outputs × Except Failure (Option String) :=
  match renderFile { around with disk := outputs.disk } job file with
  | .error failure => (outputs, .error failure)
  | .ok none => (outputs, .ok none)
  | .ok (some rendered) =>
    match deliver job.outputDirectory rendered outputs with
    | (outputs, none) => (outputs, .ok (some rendered.name))
    | (outputs, some failure) => (outputs, .error failure)

/-- A file of a manifest with what it draws from. -/
abbrev Dealt := Manifest.File × Chance

/-- Renders and delivers files in order. Gives the names of those that are not skipped. -/
def produceAll (around : Surroundings) (job : Job) :
    List Dealt → Outputs → Outputs × Except Failure (List String)
  | [], outputs => (outputs, .ok [])
  | (file, chance) :: rest, outputs =>
    match produce (around.drawing chance) job file outputs with
    | (outputs, .error failure) => (outputs, .error failure)
    | (outputs, .ok name?) =>
      match produceAll around job rest outputs with
      | (outputs, .error failure) => (outputs, .error failure)
      | (outputs, .ok names) => (outputs, .ok (name?.toList ++ names))

/-! ## Whole runs -/

/-- Prepares a run: plans it and resolves the fields that count for all files. -/
def prepare (around : Surroundings) (request : Request) : Except Failure Job :=
  match plan around.disk request with
  | .error failure => .error failure
  | .ok plan =>
    match Expansion.expandFields (Library.standard around) (around.part 0) request.fields
      plan.manifest.fields with
    | .error cause => .error (.field cause)
    | .ok fields => .ok ⟨plan, fields, request.outputDirectory⟩

/-- Files with what they draw from in a run. -/
def dealt (around : Surroundings) (files : List Manifest.File) : List Dealt :=
  (around.chance.branch 1).deal files

theorem mem_of_mem_dealt {around : Surroundings} {files : List Manifest.File} {entry : Dealt}
    (h : entry ∈ dealt around files) : entry.1 ∈ files := by
  rw [← Chance.map_fst_deal (around.chance.branch 1) files]
  exact List.mem_map_of_mem h

/-- Runs a request. Gives the names of the files generated. -/
def run (around : Surroundings) (console : Console) (request : Request) :
    Outputs × Except Failure (List String) :=
  match prepare around request with
  | .error failure => (⟨around.disk, console⟩, .error failure)
  | .ok job => produceAll around job (dealt around job.plan.manifest.files) ⟨around.disk, console⟩

theorem produceAll_append (around : Surroundings) (job : Job) (first second : List Dealt)
    (outputs : Outputs) :
    produceAll around job (first ++ second) outputs =
      match produceAll around job first outputs with
      | (outputs, .error failure) => (outputs, .error failure)
      | (outputs, .ok names) =>
        match produceAll around job second outputs with
        | (outputs, .error failure) => (outputs, .error failure)
        | (outputs, .ok more) => (outputs, .ok (names ++ more)) := by
  induction first generalizing outputs with
  | nil =>
    simp only [List.nil_append, produceAll]
    rcases produceAll around job second outputs with ⟨o, r⟩
    cases r <;> rfl
  | cons entry rest ih =>
    obtain ⟨file, chance⟩ := entry
    simp only [List.cons_append, produceAll]
    rcases produce (around.drawing chance) job file outputs with ⟨o, r⟩
    cases r with
    | error failure => rfl
    | ok name? =>
      simp only [ih]
      rcases produceAll around job rest o with ⟨o', r'⟩
      cases r' with
      | error failure => rfl
      | ok names =>
        simp only
        rcases produceAll around job second o' with ⟨o'', r''⟩
        cases r'' <;> simp

end Scaffold.Generation
