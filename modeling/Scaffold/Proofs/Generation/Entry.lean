import Scaffold.Generation.Run
import Scaffold.Proofs.Disk.Writing

/-!
# What a run does with one file of a manifest

A file is skipped, or rendered and delivered, or it stops the run. The key notions are `Renders`,
what a file renders to, `RenderStops`, the ways in which rendering it fails, and `Delivers`, what
delivering does to the disk and the console. Main facts:

* `renderFile_eq_some_iff`, `renderFile_eq_none_iff`, `renderFile_eq_error_iff` : the three answers
  of rendering a file;
* `deliver_spec` : an output reaches its place as a whole, or only the directories above it or a
  first part of its frame do;
* `produce_spec` : what is done with one file, by cases.
-/

namespace Scaffold.Generation

/-! ## Rendering -/

/-- A file renders with some fields to a name and a text: the name is the expanded output path, and
the text is the header and the template expanded as one, without the spaces and line ends at its
beginning. -/
structure RendersWith (around : Surroundings) (job : Job) (file : Manifest.File) (fields : Fields)
    (rendered : Rendered) : Prop where
  named : Expansion.expandText (Library.standard around) (around.part 0) file.input file.output
    fields = .ok rendered.name
  texts : ∃ body text,
    job.plan.source.readText around.disk (templatePath job file) = .ok body ∧
    Expansion.expandText (Library.standard around) (around.part 1) rendered.name
      (job.plan.manifest.header ++ body) fields = .ok text ∧
    rendered.text = trimLeading text

/-- Rendering a file with some fields fails: at its name, at reading its template, or at its
text. -/
inductive RenderStopsWith (around : Surroundings) (job : Job) (file : Manifest.File)
    (fields : Fields) : Expansion.Failure → Prop
  | name {cause : Expansion.Failure}
      (named : Expansion.expandText (Library.standard around) (around.part 0) file.input file.output
        fields = .error cause) :
      RenderStopsWith around job file fields cause
  | template {name : String} {cause : Source.Fault}
      (named : Expansion.expandText (Library.standard around) (around.part 0) file.input file.output
        fields = .ok name)
      (read : job.plan.source.readText around.disk (templatePath job file) = .error cause) :
      RenderStopsWith around job file fields (.unread (templatePath job file) cause)
  | text {name body : String} {cause : Expansion.Failure}
      (named : Expansion.expandText (Library.standard around) (around.part 0) file.input file.output
        fields = .ok name)
      (read : job.plan.source.readText around.disk (templatePath job file) = .ok body)
      (expanded : Expansion.expandText (Library.standard around) (around.part 1) name
        (job.plan.manifest.header ++ body) fields = .error cause) :
      RenderStopsWith around job file fields cause

/-- A file renders to a name and a text: its condition holds, and it renders with its own fields on
top of those for all files. -/
structure Renders (around : Surroundings) (job : Job) (file : Manifest.File)
    (rendered : Rendered) : Prop where
  condition : holds (around.part 0) job file = .ok true
  texts : ∃ fields,
    Expansion.expandFields (Library.standard around) (around.part 1) job.fields file.fields
      = .ok fields ∧
    RendersWith (around.part 2) job file fields rendered

/-- Rendering a file fails: at its condition, at one of its own fields, or with its fields. -/
inductive RenderStops (around : Surroundings) (job : Job) (file : Manifest.File) : Failure → Prop
  | condition {cause : Expansion.Failure} (given : file.condition ≠ "")
      (expanded : Expansion.expandText (Library.standard around) (around.part 0) file.input
        file.condition job.fields = .error cause) :
      RenderStops around job file (.condition file.input cause)
  | field {cause : Expansion.FieldFailure} (condition : holds (around.part 0) job file = .ok true)
      (expanded : Expansion.expandFields (Library.standard around) (around.part 1) job.fields
        file.fields = .error cause) :
      RenderStops around job file (.field cause)
  | render {fields : Fields} {cause : Expansion.Failure}
      (condition : holds (around.part 0) job file = .ok true)
      (expanded : Expansion.expandFields (Library.standard around) (around.part 1) job.fields
        file.fields = .ok fields)
      (stops : RenderStopsWith (around.part 2) job file fields cause) :
      RenderStops around job file (.render file.input cause)

variable {around : Surroundings} {job : Job} {file : Manifest.File} {fields : Fields}
  {rendered : Rendered}

/-- What a file renders to with some fields. -/
theorem renderWith_eq_ok_iff :
    renderWith around job file fields = .ok rendered ↔
      RendersWith around job file fields rendered := by
  constructor
  · intro h
    unfold renderWith at h
    split at h
    · cases h
    · rename_i name hname
      split at h
      · cases h
      · rename_i body hbody
        split at h
        · cases h
        · rename_i text htext
          cases h
          exact ⟨hname, body, text, hbody, htext, rfl⟩
  · rintro ⟨hname, body, text, hbody, htext, htrim⟩
    simp only [renderWith, hname, hbody, htext, ← htrim]

/-- Why a file could not be rendered with some fields. -/
theorem renderWith_eq_error_iff {cause : Expansion.Failure} :
    renderWith around job file fields = .error cause ↔
      RenderStopsWith around job file fields cause := by
  constructor
  · intro h
    unfold renderWith at h
    split at h
    · rename_i hname
      cases h
      exact .name hname
    · rename_i name hname
      split at h
      · rename_i hbody
        cases h
        exact .template hname hbody
      · rename_i body hbody
        split at h
        · rename_i htext
          cases h
          exact .text hname hbody htext
        · cases h
  · intro h
    cases h with
    | name hname => simp only [renderWith, hname]
    | template hname hbody => simp only [renderWith, hname, hbody]
    | text hname hbody htext => simp only [renderWith, hname, hbody, htext]

/-- A condition fails only if it is given and cannot be expanded. -/
theorem holds_eq_error_iff {failure : Failure} :
    holds around job file = .error failure ↔
      file.condition ≠ "" ∧ ∃ cause, failure = .condition file.input cause ∧
        Expansion.expandText (Library.standard around) around file.input file.condition job.fields
          = .error cause := by
  unfold holds
  by_cases hgiven : file.condition = ""
  · rw [if_pos hgiven]
    constructor
    · intro h
      cases h
    · intro h
      exact absurd hgiven h.1
  · rw [if_neg hgiven]
    cases Expansion.expandText (Library.standard around) around file.input file.condition
        job.fields with
    | ok text =>
      constructor
      · intro h
        cases h
      · rintro ⟨-, cause, -, h⟩
        cases h
    | error cause =>
      constructor
      · intro h
        cases h
        exact ⟨hgiven, cause, rfl, rfl⟩
      · rintro ⟨-, cause', rfl, h⟩
        cases h
        rfl

/-- A file is skipped exactly if its condition does not hold. -/
theorem renderFile_eq_none_iff :
    renderFile around job file = .ok none ↔ holds (around.part 0) job file = .ok false := by
  unfold renderFile
  rcases holds (around.part 0) job file with failure | (_ | _)
  · constructor <;> intro h <;> cases h
  · constructor <;> intro _ <;> rfl
  · constructor
    · intro h
      dsimp only at h
      split at h
      · cases h
      · split at h <;> cases h
    · intro h
      cases h

/-- **What a file renders to.** -/
theorem renderFile_eq_some_iff :
    renderFile around job file = .ok (some rendered) ↔ Renders around job file rendered := by
  constructor
  · intro h
    unfold renderFile at h
    split at h
    · cases h
    · cases h
    · rename_i hholds
      split at h
      · cases h
      · rename_i fields hfields
        split at h
        · cases h
        · rename_i r hrender
          cases h
          exact ⟨hholds, fields, hfields, renderWith_eq_ok_iff.1 hrender⟩
  · rintro ⟨hholds, fields, hfields, hrenders⟩
    simp only [renderFile, hholds, hfields, renderWith_eq_ok_iff.2 hrenders]

/-- **Why a file could not be rendered.** -/
theorem renderFile_eq_error_iff {failure : Failure} :
    renderFile around job file = .error failure ↔ RenderStops around job file failure := by
  constructor
  · intro h
    unfold renderFile at h
    split at h
    · rename_i failure' hholds
      cases h
      obtain ⟨hgiven, cause, rfl, hexpand⟩ := holds_eq_error_iff.1 hholds
      exact .condition hgiven hexpand
    · cases h
    · rename_i hholds
      split at h
      · rename_i cause hfields
        cases h
        exact .field hholds hfields
      · rename_i fields hfields
        split at h
        · rename_i cause hrender
          cases h
          exact .render hholds hfields (renderWith_eq_error_iff.1 hrender)
        · cases h
  · intro h
    cases h with
    | condition hgiven hexpand =>
      simp only [renderFile, holds_eq_error_iff.2 ⟨hgiven, _, rfl, hexpand⟩]
    | field hholds hfields => simp only [renderFile, hholds, hfields]
    | render hholds hfields hstops =>
      simp only [renderFile, hholds, hfields, renderWith_eq_error_iff.2 hstops]

/-! ## Delivering -/

/-- The bytes that a rendered file leaves on a console. -/
def frameBytes (rendered : Rendered) : List UInt8 :=
  (Console.frame rendered.name rendered.text).toUTF8.toList

/-- What delivering a rendered file does: it writes a file or echoes a frame, or it fails after
making directories above the file or after a first part of the frame. -/
inductive Delivers (outputDirectory : Option String) (rendered : Rendered) (before : Outputs) :
    Outputs → Option Failure → Prop
  | written {directory : String} {disk : Disk}
      (given : Request.given outputDirectory = some directory)
      (done : before.disk.writeUnder (Path.below directory rendered.name) rendered.text.toUTF8
        = (disk, none)) :
      Delivers outputDirectory rendered before { before with disk := disk } none
  | unwritten {directory : String} {disk : Disk} {fault : Disk.Fault}
      (given : Request.given outputDirectory = some directory)
      (done : before.disk.writeUnder (Path.below directory rendered.name) rendered.text.toUTF8
        = (disk, some fault)) :
      Delivers outputDirectory rendered before { before with disk := disk }
        (some (.delivery (Path.below directory rendered.name) (.disk fault)))
  | echoed {console : Console} (given : Request.given outputDirectory = none)
      (taken : console.written = before.console.written ++ frameBytes rendered) :
      Delivers outputDirectory rendered before { before with console := console } none
  | cut {console : Console} {taken left : List UInt8}
      (given : Request.given outputDirectory = none) (room : left ≠ [])
      (split : frameBytes rendered = taken ++ left)
      (written : console.written = before.console.written ++ taken) :
      Delivers outputDirectory rendered before { before with console := console }
        (some (.delivery rendered.name .consoleFull))

/-- A console takes all bytes, or a first part of them and tells so. -/
theorem writeBytes_cases (console : Console) (bytes : List UInt8) :
    (∃ after, console.writeBytes bytes = (after, true) ∧
      after.written = console.written ++ bytes) ∨
    (∃ after taken left, console.writeBytes bytes = (after, false) ∧ left ≠ [] ∧
      bytes = taken ++ left ∧ after.written = console.written ++ taken) := by
  obtain ⟨written, room⟩ := console
  cases room with
  | none => exact .inl ⟨_, rfl, rfl⟩
  | some room =>
    by_cases hroom : bytes.length ≤ room
    · refine .inl ⟨⟨written ++ bytes.take room, some (room - bytes.length)⟩, ?_, ?_⟩
      · simp [Console.writeBytes, hroom]
      · show written ++ bytes.take room = written ++ bytes
        rw [List.take_of_length_le hroom]
    · refine .inr ⟨⟨written ++ bytes.take room, some (room - bytes.length)⟩, bytes.take room,
        bytes.drop room, ?_, ?_, ?_, rfl⟩
      · simp [Console.writeBytes, hroom]
      · intro hdrop
        rw [List.drop_eq_nil_iff] at hdrop
        exact hroom hdrop
      · exact (List.take_append_drop room bytes).symm

/-- **What delivering does.** -/
theorem deliver_spec (outputDirectory : Option String) (rendered : Rendered) (before : Outputs) :
    Delivers outputDirectory rendered before (deliver outputDirectory rendered before).1
      (deliver outputDirectory rendered before).2 := by
  unfold deliver
  cases hgiven : Request.given outputDirectory with
  | some directory =>
    dsimp only
    rcases hdone : before.disk.writeUnder (Path.below directory rendered.name)
      rendered.text.toUTF8 with ⟨disk, _ | fault⟩
    · exact .written hgiven hdone
    · exact .unwritten hgiven hdone
  | none =>
    dsimp only [Console.write]
    rcases writeBytes_cases before.console (frameBytes rendered) with
      ⟨console, hwrite, hwritten⟩ | ⟨console, taken, left, hwrite, hleft, hsplit, hwritten⟩
    · rw [frameBytes] at hwrite
      rw [hwrite]
      exact .echoed hgiven hwritten
    · rw [frameBytes] at hwrite
      rw [hwrite]
      exact .cut hgiven hleft hsplit hwritten

/-! ## One file of a manifest -/

/-- What is done with one file of a manifest: it is skipped, or delivered, or it stops the run. -/
inductive Produces (around : Surroundings) (job : Job) (file : Manifest.File) (before : Outputs) :
    Outputs → Except Failure (Option String) → Prop
  | skipped (condition : holds ({ around with disk := before.disk }.part 0) job file = .ok false) :
      Produces around job file before before (.ok none)
  | delivered {rendered : Rendered} {after : Outputs}
      (renders : Renders { around with disk := before.disk } job file rendered)
      (delivers : Delivers job.outputDirectory rendered before after none) :
      Produces around job file before after (.ok (some rendered.name))
  | unrendered {failure : Failure}
      (stops : RenderStops { around with disk := before.disk } job file failure) :
      Produces around job file before before (.error failure)
  | undelivered {rendered : Rendered} {after : Outputs} {failure : Failure}
      (renders : Renders { around with disk := before.disk } job file rendered)
      (delivers : Delivers job.outputDirectory rendered before after (some failure)) :
      Produces around job file before after (.error failure)

/-- **What is done with one file.** -/
theorem produce_spec (around : Surroundings) (job : Job) (file : Manifest.File)
    (before : Outputs) :
    Produces around job file before (produce around job file before).1
      (produce around job file before).2 := by
  unfold produce
  rcases hrender : renderFile { around with disk := before.disk } job file with
    failure | (_ | rendered)
  · exact .unrendered (renderFile_eq_error_iff.1 hrender)
  · exact .skipped (renderFile_eq_none_iff.1 hrender)
  · have hrenders := renderFile_eq_some_iff.1 hrender
    have hdeliver := deliver_spec job.outputDirectory rendered before
    dsimp only
    rcases hdone : deliver job.outputDirectory rendered before with ⟨after, _ | failure⟩
    · rw [hdone] at hdeliver
      exact .delivered hrenders hdeliver
    · rw [hdone] at hdeliver
      exact .undelivered hrenders hdeliver

/-! ## A small template directory -/

/-- A working directory `w` with a template directory `t`, which has a manifest and one template. -/
def smallAround (manifest : String) : Surroundings where
  disk :=
    { entries := [(["w"], .directory), (["w", "t"], .directory),
        (["w", "t", "templates"], .directory), (["w", "t", "templates", "classes"], .directory),
        (["w", "t", "templates", "classes", "cpp"], .directory),
        (["w", "t", "templates", "classes", "cpp", "config.yml"], .file manifest.toUTF8),
        (["w", "t", "templates", "classes", "cpp", "a"],
          .file " hi \x7b\x7b qArgName \x7d\x7d".toUTF8)]
      working := ["w"] }
  environment := []
  seconds := 0
  chance := .still
  complaint := fun _ _ => []

/-- A request that takes its templates from there. -/
def smallRequest (outputDirectory : Option String) : Request where
  category := .classes
  typeName := "cpp"
  name := "N"
  outputDirectory := outputDirectory
  licenseFile := none
  templateDirectory := some "t"
  baseClass := ""
  macros := []
  includes := []
  isQObject := false
  usesPragma := false
  moduleName := ""
  imports := []

end Scaffold.Generation
