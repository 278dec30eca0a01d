import Scaffold.Proofs.Generation.Echoed

/-!
# Files that are skipped

A file whose condition does not hold is as good as not there. The key notion is `Skipped`, which is
about the condition of a file and the fields for all files only, and `unskipped`, the files of a
list that a run does not skip when it comes to them. Main facts:

* `produce_eq_none_iff` : the files that a run passes over are those that are skipped;
* `produceAll_unskipped` : taking them out of a list changes nothing that a run does;
* `skipped_files_leave_no_trace` : so it is for whole runs; in a run that echoes, whether a file is
  skipped has nothing to do with the files before it.
-/

namespace Scaffold.Generation

variable {around : Surroundings} {console : Console} {request : Request} {job : Job}
  {file : Manifest.File} {chance : Chance}

/-! ## Conditions that do not hold -/

/-- A file is skipped: it has a condition, which expands with the fields for all files to something
else than the word `true`. -/
def Skipped (around : Surroundings) (fields : Fields) (file : Manifest.File) : Prop :=
  file.condition ≠ "" ∧ ∃ text,
    Expansion.expandText (Library.standard around) around file.input file.condition fields
      = .ok text ∧ text ≠ "true"

instance (around : Surroundings) (fields : Fields) (file : Manifest.File) :
    Decidable (Skipped around fields file) :=
  match h : Expansion.expandText (Library.standard around) around file.input file.condition
    fields with
  | .ok text => decidable_of_iff (file.condition ≠ "" ∧ text ≠ "true") (by simp [Skipped, h])
  | .error cause => isFalse (by simp [Skipped, h])

theorem holds_eq_false_iff :
    holds around job file = .ok false ↔ Skipped around job.fields file := by
  unfold holds Skipped
  by_cases hgiven : file.condition = ""
  · rw [if_pos hgiven]
    constructor
    · intro h
      cases h
    · intro h
      exact absurd hgiven h.1
  · rw [if_neg hgiven]
    cases Expansion.expandText (Library.standard around) around file.input file.condition
        job.fields with
    | ok text => simp [hgiven]
    | error cause => simp

/-- **A run passes over a file exactly if the file is skipped** with the disk as it is by then. -/
theorem produce_eq_none_iff {before : Outputs} :
    produce (around.drawing chance) job file before = (before, .ok none) ↔
      Skipped ({ around with disk := before.disk }.drawing (chance.branch 0)) job.fields file := by
  have hpart :
      Skipped ({ around with disk := before.disk }.drawing (chance.branch 0)) job.fields file ↔
        renderFile ({ around with disk := before.disk }.drawing chance) job file = .ok none := by
    rw [renderFile_eq_none_iff, Surroundings.part_drawing, holds_eq_false_iff]
  rw [hpart, produce, Surroundings.on_drawing]
  rcases renderFile (Surroundings.drawing { around with disk := before.disk } chance) job file with
    failure | (_ | rendered)
  · simp
  · simp
  · dsimp only
    rcases deliver job.outputDirectory rendered before with ⟨after, _ | failure⟩ <;> simp

/-! ## Taking skipped files out -/

/-- The files of a list that a run does not skip when it comes to them. A condition is expanded with
the disk as the files before have left it, since a license that it reads can have been written by
one of them. -/
def unskipped (around : Surroundings) (job : Job) : List Dealt → Outputs → List Dealt
  | [], _ => []
  | (file, chance) :: rest, before =>
    if Skipped ({ around with disk := before.disk }.drawing (chance.branch 0)) job.fields file then
      unskipped around job rest before
    else
      (file, chance) ::
        unskipped around job rest (produce (around.drawing chance) job file before).1

/-- **Taking the skipped files out of a list changes nothing** that is done with it. -/
theorem produceAll_unskipped (files : List Dealt) (before : Outputs) :
    produceAll around job (unskipped around job files before) before =
      produceAll around job files before := by
  induction files generalizing before with
  | nil => rfl
  | cons entry rest ih =>
    obtain ⟨file, chance⟩ := entry
    rw [unskipped]
    split
    · -- it is missing from one list, and in the other one it does nothing
      rename_i hskipped
      rw [ih, produceAll_cons_of_skipped (produce_eq_none_iff.2 hskipped)]
    · -- it is in both lists, and the files behind it find the same in both
      rcases hproduce : produce (around.drawing chance) job file before with
        ⟨middle, failure | name?⟩
      · rw [produceAll_cons_of_error hproduce, produceAll_cons_of_error hproduce]
      · rw [produceAll_cons_of_ok hproduce, produceAll_cons_of_ok hproduce, ih]

/-- Files that are echoed do not change the disk, so that it can be told from the start which ones
are skipped. -/
theorem unskipped_eq_filter (hecho : Request.given job.outputDirectory = none)
    (files : List Dealt) (before : Outputs) :
    unskipped around job files before = files.filter fun entry =>
      ¬ Skipped ({ around with disk := before.disk }.drawing (entry.2.branch 0)) job.fields
        entry.1 := by
  induction files generalizing before with
  | nil => rfl
  | cons entry rest ih =>
    obtain ⟨file, chance⟩ := entry
    rw [unskipped, List.filter_cons]
    split
    · rename_i hskipped
      rw [ih, if_neg (by simpa using hskipped)]
    · rename_i hkept
      rw [ih, disk_produce hecho, if_pos (by simpa using hkept)]

/-! ## Runs -/

variable {p : Plan} {fields : Fields}

/-- A run over files with a further one passes over it exactly if it is skipped. -/
theorem runFiles_concat_eq_iff (hecho : Request.given request.outputDirectory = none)
    (hfields : Expansion.expandFields (Library.standard around) (around.part 0) request.fields
      p.manifest.fields = .ok fields) {before : List Dealt} {names : List String}
    (h : (runFiles around console request p before).2 = .ok names) :
    runFiles around console request p (before ++ [(file, chance)]) =
        runFiles around console request p before ↔
      Skipped (around.drawing (chance.branch 0)) fields file := by
  have hdisk : (runFiles around console request p before).1.disk = around.disk :=
    disk_runFiles hecho console before
  rcases runFiles_cases around request p with ⟨cause, hrun⟩ | ⟨fields', hfields', hrun⟩
  · rw [hrun] at h
    cases h
  · rw [hfields] at hfields'
    cases hfields'
    rw [hrun] at h hdisk
    rw [hrun, hrun, produceAll_append]
    rcases hbefore : produceAll around ⟨p, fields, request.outputDirectory⟩ before
      ⟨around.disk, console⟩ with ⟨middle, failure | names'⟩
    · rw [hbefore] at h
      cases h
    · -- the disk is as it was, so that the condition sees what it would see at the start
      rw [hbefore] at hdisk
      have hiff : produce (around.drawing chance) ⟨p, fields, request.outputDirectory⟩ file middle =
          (middle, .ok none) ↔ _ :=
        produce_eq_none_iff
      rw [hdisk] at hiff
      rw [← hiff]
      dsimp only [produceAll]
      rcases produce (around.drawing chance) ⟨p, fields, request.outputDirectory⟩ file middle with
        ⟨after, failure | (_ | name)⟩ <;> simp

/-- Whether a run passes over a file that it reaches depends on the condition of the file and what
it draws, and on its template path, by which failures name it. -/
theorem runFiles_concat_congr (hecho : Request.given request.outputDirectory = none)
    (hfields : Expansion.expandFields (Library.standard around) (around.part 0) request.fields
      p.manifest.fields = .ok fields) {file' : Manifest.File} (hinput : file'.input = file.input)
    (hcondition : file'.condition = file.condition) {before before' : List Dealt}
    {names names' : List String} (h : (runFiles around console request p before).2 = .ok names)
    (h' : (runFiles around console request p before').2 = .ok names') :
    runFiles around console request p (before ++ [(file, chance)]) =
        runFiles around console request p before ↔
      runFiles around console request p (before' ++ [(file', chance)]) =
        runFiles around console request p before' := by
  rw [runFiles_concat_eq_iff hecho hfields h, runFiles_concat_eq_iff hecho hfields h', Skipped,
    Skipped, hinput, hcondition]

/-- **Files that are skipped leave no trace.** A run over the files that are left when the skipped
ones are taken out, each of which draws what it drew among all of them, gives the same answer,
console and disk, in both modes; and it is the run of a plan that has these files only and deals
them the same. A run that echoes skips the files of which this can be told from the start; whether
it passes over a file that it reaches is the same whatever the output path and the fields of the
file and whatever the files before it are. If the fields for all files cannot be expanded, files do
not count at all. -/
theorem skipped_files_leave_no_trace (around : Surroundings) (console : Console)
    (request : Request) (p : Plan) :
    (∀ cause, Expansion.expandFields (Library.standard around) (around.part 0) request.fields
        p.manifest.fields = .error cause →
      ∀ files, runFiles around console request p files =
        (⟨around.disk, console⟩, .error (.field cause))) ∧
    ∀ fields, Expansion.expandFields (Library.standard around) (around.part 0) request.fields
        p.manifest.fields = .ok fields →
      let left (files : List Dealt) : List Dealt :=
        unskipped around ⟨p, fields, request.outputDirectory⟩ files ⟨around.disk, console⟩
      (∀ files, runFiles around console request p (left files) =
        runFiles around console request p files) ∧
      (plan around.disk request = .ok p →
        let kept := left (dealt around p.manifest.files)
        run around console request = runFiles around console request p kept ∧
          ∃ chance, dealt (around.drawing chance) (kept.map Prod.fst) = kept ∧
            run around console request = runPlan (around.drawing chance) console request
              (p.withFiles (kept.map Prod.fst))) ∧
      (Request.given request.outputDirectory = none →
        (∀ files, left files = files.filter fun entry =>
          ¬ Skipped (around.drawing (entry.2.branch 0)) fields entry.1) ∧
        (∀ before file chance names, (runFiles around console request p before).2 = .ok names →
          (runFiles around console request p (before ++ [(file, chance)]) =
              runFiles around console request p before ↔
            Skipped (around.drawing (chance.branch 0)) fields file)) ∧
        ∀ before before' file file' chance names names', file'.input = file.input →
          file'.condition = file.condition →
          (runFiles around console request p before).2 = .ok names →
          (runFiles around console request p before').2 = .ok names' →
          (runFiles around console request p (before ++ [(file, chance)]) =
              runFiles around console request p before ↔
            runFiles around console request p (before' ++ [(file', chance)]) =
              runFiles around console request p before')) := by
  refine ⟨fun cause hcause files => ?_, fun fields hfields => ?_⟩
  · -- the fields for all files fail before the first file is looked at
    rcases runFiles_cases around request p with ⟨cause', hrun⟩ | ⟨fields, hfields, -⟩
    · rw [runFiles, hcause]
    · rw [hcause] at hfields
      cases hfields
  · intro left
    have hleft : ∀ files, runFiles around console request p (left files) =
        runFiles around console request p files := by
      intro files
      rcases runFiles_cases around request p with ⟨cause, hrun⟩ | ⟨fields', hfields', hrun⟩
      · rw [hrun, hrun]
      · rw [hfields] at hfields'
        cases hfields'
        rw [hrun, hrun]
        exact produceAll_unskipped files _
    refine ⟨hleft, fun hplan => ?_, fun hecho => ⟨fun files => ?_, ?_, ?_⟩⟩
    · have hkept : run around console request =
          runFiles around console request p (left (dealt around p.manifest.files)) := by
        rw [hleft, run_eq_runFiles hplan]
      obtain ⟨chance, hdealt, hchance⟩ :=
        exists_runPlan_eq_runFiles around request p (left (dealt around p.manifest.files))
      exact ⟨hkept, chance, hdealt, hkept.trans (hchance console).symm⟩
    · exact unskipped_eq_filter hecho files _
    · intro before file chance names h
      exact runFiles_concat_eq_iff hecho hfields h
    · intro before before' file file' chance names names' hinput hcondition h h'
      exact runFiles_concat_congr hecho hfields hinput hcondition h h'

/-- Files whose conditions are nearly true and true. The last one draws its own output path. -/
def nearlyTrueFiles : List Dealt :=
  [(⟨"a", "b", [], " true"⟩, .still), (⟨"a", "c", [], "true"⟩, .still),
    (⟨"a", "d", [], "True"⟩, .still),
    (⟨"a", "e\x7b\x7b get_random(end=9) \x7d\x7d", [], ""⟩, fun _ => 7)]

/-- The nearly true ones make no difference to a run that writes files. -/
theorem skipped_files_leave_no_trace_nearly_true :
    ∃ fields, Expansion.expandFields (Library.standard (smallAround "")) ((smallAround "").part 0)
        (smallRequest (some "out")).fields smallPlan.manifest.fields = .ok fields ∧
      let left := unskipped (smallAround "") ⟨smallPlan, fields, some "out"⟩ nearlyTrueFiles
        ⟨(smallAround "").disk, .unlimited⟩
      left.map (fun entry => entry.1.condition) = ["true", ""] ∧
      runFiles (smallAround "") .unlimited (smallRequest (some "out")) smallPlan left =
        runFiles (smallAround "") .unlimited (smallRequest (some "out")) smallPlan
          nearlyTrueFiles := by
  refine ⟨(smallRequest (some "out")).fields, rfl, ?_, ?_⟩
  · decide +kernel
  · obtain ⟨-, hleft⟩ := skipped_files_leave_no_trace (smallAround "") .unlimited
      (smallRequest (some "out")) smallPlan
    exact (hleft _ rfl).1 nearlyTrueFiles

end Scaffold.Generation
