import Scaffold.Proofs.Generation.Entry

/-!
# Runs that fail

A run that fails leaves what the files before the failure have left, and nothing else but a trace
of the output that could not be delivered. To say so, the list of files is cut: `Plan.withFiles` is
a plan with other files, and `runPlan` runs it. Both runs are left the same to chance. Main facts:

* `produceAll_preserves` : what every file keeps, all files keep;
* `produceAll_withFiles` : how a file is produced does not depend on the other files of the
  manifest;
* `produceAll_eq_error_iff` : files fail at the first one that fails;
* `exists_runPlan_eq_runFiles` : a run over files with what each draws is the run of a plan;
* `failedRun_of_run` : a run that fails has failed before its first file and left everything as it
  was, or it has failed at one file and left what the run of the files before it leaves.
-/

namespace Scaffold.Generation

variable {around : Surroundings} {console : Console} {request : Request} {job : Job}

/-! ## Preparing -/

/-- A run cannot be prepared: there is no such target, its manifest cannot be loaded, or a field for
all files cannot be expanded. -/
inductive PreparationStops (around : Surroundings) (request : Request) : Failure → Prop
  | target (unknown : Target.find? request.category request.typeName = none) :
      PreparationStops around request (.invalidTarget request.category request.typeName)
  | manifest {target : Target} {cause : Manifest.Failure}
      (known : Target.find? request.category request.typeName = some target)
      (unread : Manifest.load (sourceOf request) around.disk target.manifestPath = .error cause) :
      PreparationStops around request (.manifest cause)
  | field {p : Plan} {cause : Expansion.FieldFailure} (planned : plan around.disk request = .ok p)
      (expanded : Expansion.expandFields (Library.standard around) (around.part 0) request.fields
        p.manifest.fields = .error cause) :
      PreparationStops around request (.field cause)

/-- The job of a run: its plan, and the fields that count for all files. -/
theorem prepare_eq_ok_iff :
    prepare around request = .ok job ↔
      plan around.disk request = .ok job.plan ∧
      Expansion.expandFields (Library.standard around) (around.part 0) request.fields
        job.plan.manifest.fields = .ok job.fields ∧
      job.outputDirectory = request.outputDirectory := by
  unfold prepare
  cases hplan : plan around.disk request with
  | error failure =>
    constructor
    · intro h
      cases h
    · rintro ⟨h, -⟩
      cases h
  | ok p =>
    dsimp only
    constructor
    · intro h
      split at h
      · cases h
      · rename_i fields hfields
        cases h
        exact ⟨rfl, hfields, rfl⟩
    · obtain ⟨p', fields, directory⟩ := job
      rintro ⟨h, hfields, hdirectory⟩
      cases h
      dsimp only at hfields hdirectory
      rw [hfields, hdirectory]

/-- A run that cannot be prepared fails for one of three reasons. -/
theorem preparationStops_of_prepare {failure : Failure}
    (h : prepare around request = .error failure) : PreparationStops around request failure := by
  unfold prepare at h
  cases hplan : plan around.disk request with
  | error failure' =>
    rw [hplan] at h
    cases h
    unfold plan at hplan
    split at hplan
    · rename_i hunknown
      cases hplan
      exact .target hunknown
    · rename_i target hknown
      split at hplan
      · cases hplan
      · rename_i cause hload
        cases hplan
        exact .manifest hknown hload
  | ok p =>
    rw [hplan] at h
    dsimp only at h
    split at h
    · rename_i cause hfields
      cases h
      exact .field hplan hfields
    · cases h

/-! ## Files in turn -/

/-- Behind a file that fails nothing is done. -/
theorem produceAll_cons_of_error {file : Manifest.File} {chance : Chance} {start after : Outputs}
    {failure : Failure}
    (h : produce (around.drawing chance) job file start = (after, .error failure))
    (rest : List Dealt) :
    produceAll around job ((file, chance) :: rest) start = (after, .error failure) := by
  rw [produceAll, h]

/-- Behind a file that does not fail, the others find things as it has left them. -/
theorem produceAll_cons_of_ok {file : Manifest.File} {chance : Chance} {start middle : Outputs}
    {name? : Option String}
    (h : produce (around.drawing chance) job file start = (middle, .ok name?))
    (rest : List Dealt) :
    produceAll around job ((file, chance) :: rest) start =
      ((produceAll around job rest middle).1,
        (produceAll around job rest middle).2.map (name?.toList ++ ·)) := by
  rw [produceAll, h]
  dsimp only
  rcases produceAll around job rest middle with ⟨after, failure | names⟩ <;> rfl

/-- A file that is skipped might as well not be there. -/
theorem produceAll_cons_of_skipped {file : Manifest.File} {chance : Chance} {start : Outputs}
    (h : produce (around.drawing chance) job file start = (start, .ok none)) (rest : List Dealt) :
    produceAll around job ((file, chance) :: rest) start = produceAll around job rest start := by
  rw [produceAll_cons_of_ok h]
  rcases produceAll around job rest start with ⟨after, failure | names⟩ <;> rfl

/-- **What every file keeps, all files keep.** -/
theorem produceAll_preserves {P : Outputs → Prop} {files : List Dealt} {start : Outputs}
    (step : ∀ file chance, (file, chance) ∈ files → ∀ before, P before →
      P (produce (around.drawing chance) job file before).1)
    (h : P start) : P (produceAll around job files start).1 := by
  induction files generalizing start with
  | nil => exact h
  | cons entry rest ih =>
    obtain ⟨file, chance⟩ := entry
    have hfile : P (produce (around.drawing chance) job file start).1 :=
      step file chance List.mem_cons_self start h
    have hrest := ih (fun f c hf => step f c (List.mem_cons_of_mem _ hf)) hfile
    rcases hproduce : produce (around.drawing chance) job file start with
      ⟨middle, failure | name?⟩
    · rw [hproduce] at hfile
      rw [produceAll_cons_of_error hproduce]
      exact hfile
    · rw [hproduce] at hrest
      rw [produceAll_cons_of_ok hproduce]
      exact hrest

/-- Files fail at the first one that fails: those before it have been produced, and those behind it
are not looked at. -/
theorem produceAll_eq_error_iff {files : List Dealt} {start after : Outputs}
    {failure : Failure} :
    produceAll around job files start = (after, .error failure) ↔
      ∃ before file chance rest names middle, files = before ++ (file, chance) :: rest ∧
        produceAll around job before start = (middle, .ok names) ∧
        produce (around.drawing chance) job file middle = (after, .error failure) := by
  constructor
  · intro h
    induction files generalizing start with
    | nil => cases h
    | cons entry rest ih =>
      obtain ⟨file, chance⟩ := entry
      rcases hfile : produce (around.drawing chance) job file start with
        ⟨middle, failure' | name?⟩
      · rw [produceAll_cons_of_error hfile] at h
        cases h
        exact ⟨[], file, chance, rest, [], start, rfl, rfl, hfile⟩
      · rw [produceAll_cons_of_ok hfile] at h
        rcases hrest : produceAll around job rest middle with ⟨last, failure' | names⟩
        · rw [hrest] at h
          cases h
          obtain ⟨before, file', chance', rest', names, middle', rfl, hbefore, hstop⟩ := ih hrest
          refine ⟨(file, chance) :: before, file', chance', rest', name?.toList ++ names, middle',
            rfl, ?_, hstop⟩
          rw [produceAll_cons_of_ok hfile, hbefore]
          rfl
        · rw [hrest] at h
          cases h
  · rintro ⟨before, file, chance, rest, names, middle, rfl, hbefore, hstop⟩
    rw [produceAll_append, hbefore]
    dsimp only
    rw [produceAll_cons_of_error hstop]

/-! ## Plans with other files -/

/-- A plan with other files in its manifest. -/
def Plan.withFiles (p : Plan) (files : List Manifest.File) : Plan :=
  { p with manifest := { p.manifest with files := files } }

/-- A job with other files in its manifest. -/
def Job.withFiles (job : Job) (files : List Manifest.File) : Job :=
  { job with plan := job.plan.withFiles files }

/-- How a file is produced does not depend on the other files of the manifest. -/
theorem produce_withFiles (files : List Manifest.File) (file : Manifest.File) (start : Outputs) :
    produce around (job.withFiles files) file start = produce around job file start := rfl

theorem produceAll_withFiles (files : List Manifest.File) (portion : List Dealt)
    (start : Outputs) :
    produceAll around (job.withFiles files) portion start =
      produceAll around job portion start := by
  induction portion generalizing start with
  | nil => rfl
  | cons entry rest ih =>
    obtain ⟨file, chance⟩ := entry
    rw [produceAll, produceAll, produce_withFiles]
    rcases produce (around.drawing chance) job file start with ⟨middle, failure | name?⟩
    · rfl
    · dsimp only
      rw [ih]

/-- Runs a request with a plan that is given, over other files than those of its manifest, each with
what it draws from. -/
def runFiles (around : Surroundings) (console : Console) (request : Request) (p : Plan)
    (files : List Dealt) : Outputs × Except Failure (List String) :=
  match Expansion.expandFields (Library.standard around) (around.part 0) request.fields
    p.manifest.fields with
  | .error cause => (⟨around.disk, console⟩, .error (.field cause))
  | .ok fields =>
    produceAll around ⟨p, fields, request.outputDirectory⟩ files ⟨around.disk, console⟩

/-- Runs a request with a plan that is given. -/
def runPlan (around : Surroundings) (console : Console) (request : Request) (p : Plan) :
    Outputs × Except Failure (List String) :=
  runFiles around console request p (dealt around p.manifest.files)

/-- Running a request is running its plan. -/
theorem run_eq_runPlan {p : Plan} (h : plan around.disk request = .ok p) :
    run around console request = runPlan around console request p := by
  rw [run, prepare, h, runPlan, runFiles]
  dsimp only
  cases Expansion.expandFields (Library.standard around) (around.part 0) request.fields
    p.manifest.fields <;> rfl

/-- Running a plan with other files is running it over them, with what each is dealt. -/
theorem runPlan_withFiles {p : Plan} (files : List Manifest.File) :
    runPlan around console request (p.withFiles files) =
      runFiles around console request p (dealt around files) := by
  rw [runPlan, runFiles, runFiles]
  dsimp only [Plan.withFiles]
  cases Expansion.expandFields (Library.standard around) (around.part 0) request.fields
    p.manifest.fields with
  | error cause => rfl
  | ok fields =>
    exact @produceAll_withFiles around ⟨p, fields, request.outputDirectory⟩ files _ _

/-- What files draw that are taken in turn is said with each of them. -/
theorem produceAll_drawing (chance : Chance) (files : List Dealt) (start : Outputs) :
    produceAll (around.drawing chance) job files start = produceAll around job files start := by
  induction files generalizing start with
  | nil => rfl
  | cons entry rest ih =>
    obtain ⟨file, own⟩ := entry
    have hproduce : produce ((around.drawing chance).drawing own) job file start =
        produce (around.drawing own) job file start := rfl
    rw [produceAll, produceAll, hproduce]
    simp only [ih]

/-- **Running a plan over files, whatever each draws, is running a plan with these files** that are
dealt it. -/
theorem exists_runPlan_eq_runFiles (around : Surroundings) (request : Request) (p : Plan)
    (files : List Dealt) :
    ∃ chance, dealt (around.drawing chance) (files.map Prod.fst) = files ∧
      ∀ console,
        runPlan (around.drawing chance) console request (p.withFiles (files.map Prod.fst)) =
          runFiles around console request p files := by
  obtain ⟨own, hown⟩ := Chance.exists_deal files
  -- only what the files draw is chosen anew
  let chance := Chance.ofBranches around.chance.number fun
    | 1 => own
    | n => around.chance.branch n
  have hdealt : dealt (around.drawing chance) (files.map Prod.fst) = files := hown
  have hpart : (around.drawing chance).part 0 = around.part 0 := rfl
  refine ⟨chance, hdealt, fun console => ?_⟩
  rw [runPlan_withFiles, hdealt, runFiles, runFiles, hpart, Library.standard_drawing]
  simp only [produceAll_drawing]
  rfl

/-- Running the plan of a job over some files is producing them. -/
theorem runFiles_of_prepare (h : prepare around request = .ok job) (files : List Dealt) :
    runFiles around console request job.plan files =
      produceAll around job files ⟨around.disk, console⟩ := by
  obtain ⟨-, hfields, hdirectory⟩ := prepare_eq_ok_iff.1 h
  rw [runFiles, hfields, ← hdirectory]

/-! ## Failing -/

/-- What a run leaves that fails at a file, in terms of what the files before it have left: nothing
else if the file could not be rendered, and otherwise directories above the file that could not be
written, or a first part of the frame that could not be echoed. -/
inductive StopsAt (around : Surroundings) (job : Job) (file : Manifest.File) (before : Outputs) :
    Outputs → Failure → Prop
  | unrendered {failure : Failure}
      (stops : RenderStops { around with disk := before.disk } job file failure) :
      StopsAt around job file before before failure
  | unwritten {directory : String} {rendered : Rendered} {disk : Disk} {fault : Disk.Fault}
      (given : Request.given job.outputDirectory = some directory)
      (renders : Renders { around with disk := before.disk } job file rendered)
      (above : Disk.AddsDirectories
        (before.disk.LiesAbove (Path.below directory rendered.name)) before.disk disk) :
      StopsAt around job file before { before with disk := disk }
        (.delivery (Path.below directory rendered.name) (.disk fault))
  | cut {rendered : Rendered} {after : Console} {taken left : List UInt8}
      (given : Request.given job.outputDirectory = none)
      (renders : Renders { around with disk := before.disk } job file rendered)
      (some_left : left ≠ []) (split : frameBytes rendered = taken ++ left)
      (written : after.written = before.console.written ++ taken) :
      StopsAt around job file before { before with console := after }
        (.delivery rendered.name .consoleFull)

/-- What a failing file leaves. -/
theorem stopsAt_of_produce {file : Manifest.File} {before after : Outputs} {failure : Failure}
    (h : produce around job file before = (after, .error failure)) :
    StopsAt around job file before after failure := by
  have hspec := produce_spec around job file before
  rw [h] at hspec
  cases hspec with
  | unrendered stops => exact .unrendered stops
  | undelivered renders delivers =>
    cases delivers with
    | @unwritten directory disk fault given done =>
      refine .unwritten given renders ?_
      rcases Disk.writeUnder_cases before.disk (Path.below directory _) _ with
        ⟨made, fault', hmade, hadds⟩ | ⟨final, hfinal, -⟩
      · rw [done] at hmade
        cases hmade
        exact hadds
      · rw [done] at hfinal
        cases hfinal
    | cut given room split written => exact .cut given renders room split written

/-- No file changes where a run stops. -/
theorem StopsAt.file_iff {file : Manifest.File} {before after : Outputs} {failure : Failure}
    (h : StopsAt around job file before after failure) (place : Location) (content : ByteArray) :
    after.disk.get? place = some (.file content) ↔
      before.disk.get? place = some (.file content) := by
  cases h with
  | unrendered stops => exact Iff.rfl
  | unwritten given renders above => exact above.get?_file_iff place content
  | cut given renders some_left split written => exact Iff.rfl

/-- What a run has done that failed: nothing at all if it could not be prepared; otherwise there is
a file at which it stopped, after a run without failure of the same plan with the files before it
only. It would have done the same whatever files followed. All these runs are left the same to
chance, each file what it draws in its place. -/
inductive FailedRun (around : Surroundings) (console : Console) (request : Request) :
    Outputs → Failure → Prop
  | unprepared {failure : Failure} (stops : PreparationStops around request failure) :
      FailedRun around console request ⟨around.disk, console⟩ failure
  | stopped {job : Job} {before rest : List Manifest.File} {file : Manifest.File}
      {names : List String} {middle outputs : Outputs} {failure : Failure}
      (prepared : prepare around request = .ok job)
      (files : job.plan.manifest.files = before ++ file :: rest)
      (earlier : runPlan around console request (job.plan.withFiles before) = (middle, .ok names))
      (stops : StopsAt ((around.part 1).part before.length) job file middle outputs failure)
      (same_files : ∀ place content, outputs.disk.get? place = some (.file content) ↔
        middle.disk.get? place = some (.file content))
      (later : ∀ others, runPlan around console request
        (job.plan.withFiles (before ++ file :: others)) = (outputs, .error failure)) :
      FailedRun around console request outputs failure

/-- **A run that fails leaves exactly what the files before the failure leave**, apart from
directories above a file that could not be written or a part of a frame that could not be echoed. -/
theorem failedRun_of_run {outputs : Outputs} {failure : Failure}
    (h : run around console request = (outputs, .error failure)) :
    FailedRun around console request outputs failure := by
  unfold run at h
  cases hprepare : prepare around request with
  | error failure' =>
    rw [hprepare] at h
    cases h
    exact .unprepared (preparationStops_of_prepare hprepare)
  | ok job =>
    rw [hprepare] at h
    dsimp only at h
    obtain ⟨before', file, chance, rest', names, middle, hdealt, hbefore, hstop⟩ :=
      produceAll_eq_error_iff.1 h
    obtain ⟨before, rest, hfiles, rfl, rfl⟩ := Chance.exists_of_deal_eq_append hdealt
    have hstops := stopsAt_of_produce hstop
    have hearlier : runPlan around console request (job.plan.withFiles before) =
        (middle, .ok names) := by
      rw [runPlan_withFiles, runFiles_of_prepare hprepare]
      exact hbefore
    refine .stopped hprepare hfiles hearlier hstops hstops.file_iff ?_
    intro others
    rw [runPlan_withFiles, runFiles_of_prepare hprepare, dealt, Chance.deal_append, Chance.deal]
    exact produceAll_eq_error_iff.2 ⟨_, file, _, _, names, middle, rfl, hbefore, hstop⟩

/-- A manifest whose second file has no template. -/
def halfManifest : String := "files:\n- in: a\n  out: b\n- in: c\n  out: d\n"

/-- The run stops at the second file. -/
theorem failedRun_of_missing_template :
    ∃ outputs failure,
      run (smallAround halfManifest) .unlimited (smallRequest (some "out"))
        = (outputs, .error failure) ∧
      FailedRun (smallAround halfManifest) .unlimited (smallRequest (some "out")) outputs
        failure := by
  have hnone : (run (smallAround halfManifest) .unlimited
      (smallRequest (some "out"))).2.toOption = none := by
    decide +kernel
  rcases hrun : run (smallAround halfManifest) .unlimited (smallRequest (some "out")) with
    ⟨outputs, failure | names⟩
  · exact ⟨outputs, failure, rfl, failedRun_of_run hrun⟩
  · rw [hrun] at hnone
    cases hnone

end Scaffold.Generation
