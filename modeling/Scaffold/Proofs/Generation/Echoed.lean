import Scaffold.Proofs.Generation.Failing
import Scaffold.Proofs.Template.Lookup

/-!
# Runs that echo to the console

Without an output directory a run leaves the disk alone and echoes its files one after the other.
Each comes with what it draws from, so that a file draws the same whatever the others are. The key
notion is `renderAll`, the files that are rendered before the first failure; it knows nothing of a
console. Main facts:

* `produceAll_writes` : what a run echoes are the frames of the files that `renderAll` gives, as far
  as the console takes them;
* `produceAll_echoed` : on a console without limit these are all of them, whatever was there before;
* `produceAll_of_takes` : files that all render are echoed in full by a console that has room for
  them;
* `runFiles_append_of_ok` : a run over two lists of files is the run over the first and then, on the
  console as it is by then, the one over the second;
* `runs_echo_in_turn` : so the texts of files add up, and a file has no influence on what the others
  print.
-/

namespace Scaffold.Generation

variable {around : Surroundings} {console : Console} {request : Request} {job : Job}

/-! ## Files that are rendered -/

/-- The files that are rendered before the first failure, and the failure if there is one. -/
def renderAll (around : Surroundings) (job : Job) : List Dealt → List Rendered × Option Failure
  | [] => ([], none)
  | (file, chance) :: rest =>
    match renderFile (around.drawing chance) job file with
    | .error failure => ([], some failure)
    | .ok rendered? =>
      let others := renderAll around job rest
      (rendered?.toList ++ others.1, others.2)

/-- The names of rendered files, unless there was a failure. -/
def namesOf : List Rendered × Option Failure → Except Failure (List String)
  | (rendered, none) => .ok (rendered.map Rendered.name)
  | (_, some failure) => .error failure

/-- The names of rendered files that others precede. -/
theorem namesOf_append (first : List Rendered) (found : List Rendered × Option Failure) :
    namesOf (first ++ found.1, found.2) =
      (namesOf found).map (first.map Rendered.name ++ ·) := by
  obtain ⟨rendered, _ | failure⟩ := found
  · simp [namesOf, Except.map]
  · rfl

/-! ## Echoing them -/

/-- The bytes that rendered files leave on a console. -/
def framesBytes (rendered : List Rendered) : List UInt8 := rendered.flatMap frameBytes

theorem framesBytes_nil : framesBytes [] = [] := rfl

theorem framesBytes_cons (r : Rendered) (rendered : List Rendered) :
    framesBytes (r :: rendered) = frameBytes r ++ framesBytes rendered := rfl

/-! ## Writing to a console -/

theorem writeBytes_nil (console : Console) : console.writeBytes [] = (console, true) := by
  obtain ⟨written, room⟩ := console
  cases room with
  | none => simp [Console.writeBytes]
  | some room => simp [Console.writeBytes]

/-- Behind bytes that a console does not take in full, nothing makes a difference. -/
theorem writeBytes_append_of_full (console : Console) {as : List UInt8} (bs : List UInt8)
    (h : (console.writeBytes as).2 = false) :
    console.writeBytes (as ++ bs) = console.writeBytes as := by
  obtain ⟨written, room⟩ := console
  cases room with
  | none => cases h
  | some room =>
    rw [Console.writeBytes, decide_eq_false_iff_not, Nat.not_le] at h
    dsimp only [Console.writeBytes]
    rw [List.take_append_of_le_length (Nat.le_of_lt h), List.length_append]
    simp only [Prod.mk.injEq, Console.mk.injEq, Option.some.injEq, true_and, decide_eq_decide]
    omega

/-- What is done with a file that goes to a console: if it is rendered, its frame is written, and if
the console does not take all of it, that is a failure. -/
theorem produce_writes (hecho : Request.given job.outputDirectory = none) (file : Manifest.File)
    (disk : Disk) (console : Console) :
    produce around job file ⟨disk, console⟩ =
      match renderFile { around with disk := disk } job file with
      | .error failure => (⟨disk, console⟩, .error failure)
      | .ok none => (⟨disk, console⟩, .ok none)
      | .ok (some rendered) =>
        (⟨disk, (console.writeBytes (frameBytes rendered)).1⟩,
          if (console.writeBytes (frameBytes rendered)).2 then .ok (some rendered.name)
          else .error (.delivery rendered.name .consoleFull)) := by
  rw [produce]
  dsimp only
  rcases renderFile { around with disk := disk } job file with failure | (_ | rendered)
  · rfl
  · rfl
  · dsimp only
    rw [deliver, hecho]
    dsimp only [Console.write]
    rw [← frameBytes]
    rcases console.writeBytes (frameBytes rendered) with ⟨after, _ | _⟩ <;> rfl

/-- Echoing a file leaves the disk alone, also if the console does not take all of it. -/
theorem disk_produce (hecho : Request.given job.outputDirectory = none) (file : Manifest.File)
    (before : Outputs) : (produce around job file before).1.disk = before.disk := by
  obtain ⟨disk, console⟩ := before
  rw [produce_writes hecho]
  rcases renderFile { around with disk := disk } job file with failure | (_ | rendered) <;> rfl

/-- Of some rendered files, this one is the first that a console does not take in full: it takes the
frames of all those before it, but not the one of this file as well. -/
def FirstRefused (console : Console) (rendered : List Rendered) (refused : Rendered) : Prop :=
  ∃ before after, rendered = before ++ refused :: after ∧
    (console.writeBytes (framesBytes before)).2 = true ∧
    (console.writeBytes (framesBytes (before ++ [refused]))).2 = false

theorem FirstRefused.cons {r refused : Rendered} {rendered : List Rendered}
    (hr : (console.writeBytes (frameBytes r)).2 = true)
    (h : FirstRefused (console.writeBytes (frameBytes r)).1 rendered refused) :
    FirstRefused console (r :: rendered) refused := by
  obtain ⟨before, after, rfl, hbefore, hrefused⟩ := h
  refine ⟨r :: before, after, rfl, ?_, ?_⟩
  · rw [framesBytes_cons, Console.writeBytes_append console _ _ hr]
    exact hbefore
  · rw [List.cons_append, framesBytes_cons, Console.writeBytes_append console _ _ hr]
    exact hrefused

/-- **What a run writes to a console**: the frames of the files that are rendered before the first
failure, as far as the console takes them. If it takes them all, the run ends as rendering the files
does, else at the first file that the console does not take in full. The disk stays as it is. -/
theorem produceAll_writes (hecho : Request.given job.outputDirectory = none)
    (files : List Dealt) (disk : Disk) (console : Console) :
    let found := renderAll { around with disk := disk } job files
    let result := produceAll around job files ⟨disk, console⟩
    result.1 = ⟨disk, (console.writeBytes (framesBytes found.1)).1⟩ ∧
      ((console.writeBytes (framesBytes found.1)).2 = true → result.2 = namesOf found) ∧
      ((console.writeBytes (framesBytes found.1)).2 = false →
        ∃ refused, FirstRefused console found.1 refused ∧
          result.2 = .error (.delivery refused.name .consoleFull)) := by
  induction files generalizing console with
  | nil =>
    dsimp only [produceAll, renderAll, namesOf]
    rw [framesBytes_nil, writeBytes_nil]
    exact ⟨rfl, fun _ => rfl, fun h => by cases h⟩
  | cons entry rest ih =>
    obtain ⟨file, chance⟩ := entry
    have hfile := @produce_writes (around.drawing chance) job hecho file disk console
    rw [Surroundings.on_drawing] at hfile
    dsimp only [renderAll]
    rcases hrender : renderFile (Surroundings.drawing { around with disk := disk } chance) job file
      with failure | (_ | r)
    · -- the file fails before anything is written
      rw [hrender] at hfile
      rw [produceAll_cons_of_error hfile]
      dsimp only [namesOf]
      rw [framesBytes_nil, writeBytes_nil]
      exact ⟨rfl, fun _ => rfl, fun h => by cases h⟩
    · -- the file is skipped
      rw [hrender] at hfile
      rw [produceAll_cons_of_skipped hfile]
      exact ih console
    · rw [hrender] at hfile
      dsimp only at hfile ⊢
      rw [Option.toList_some, List.singleton_append, framesBytes_cons]
      cases hr : (console.writeBytes (frameBytes r)).2 with
      | false =>
        -- the frame does not fit, and nothing behind it is looked at
        rw [hr, if_neg Bool.false_ne_true] at hfile
        rw [produceAll_cons_of_error hfile, writeBytes_append_of_full console _ hr]
        refine ⟨rfl, fun h => ?_, fun _ => ⟨r, ⟨[], _, rfl, ?_, ?_⟩, rfl⟩⟩
        · rw [hr] at h
          cases h
        · rw [framesBytes_nil, writeBytes_nil]
        · rw [List.nil_append, framesBytes_cons, framesBytes_nil, List.append_nil]
          exact hr
      | true =>
        -- the frame fits, and the others find the console as it is by then
        rw [hr, if_pos rfl] at hfile
        rw [produceAll_cons_of_ok hfile, Console.writeBytes_append console _ _ hr]
        obtain ⟨hwritten, htakes, hrefuses⟩ := ih (console.writeBytes (frameBytes r)).1
        refine ⟨hwritten, fun h => ?_, fun h => ?_⟩
        · rw [htakes h]
          exact (namesOf_append [r] _).symm
        · obtain ⟨refused, hrefused, hresult⟩ := hrefuses h
          exact ⟨refused, hrefused.cons hr, by rw [hresult]; rfl⟩

/-- **What a run echoes** on a console without limit: the frames of the files that are rendered
before the first failure. The disk stays as it is. -/
theorem produceAll_echoed (hecho : Request.given job.outputDirectory = none)
    (files : List Dealt) {before : Outputs} (hroom : before.console.room = none) :
    produceAll around job files before =
      (⟨before.disk, ⟨before.console.written ++
          framesBytes (renderAll { around with disk := before.disk } job files).1, none⟩⟩,
        namesOf (renderAll { around with disk := before.disk } job files)) := by
  obtain ⟨disk, written, room⟩ := before
  cases hroom
  obtain ⟨hwritten, htakes, -⟩ := @produceAll_writes around job hecho files disk ⟨written, none⟩
  exact Prod.ext hwritten (htakes rfl)

/-- **Files that render and fit on the console** are echoed in full. -/
theorem produceAll_of_takes (hecho : Request.given job.outputDirectory = none)
    {files : List Dealt} {rendered : List Rendered} {disk : Disk} {console : Console}
    (hrender : renderAll { around with disk := disk } job files = (rendered, none))
    (hroom : (console.writeBytes (framesBytes rendered)).2 = true) :
    produceAll around job files ⟨disk, console⟩ =
      (⟨disk, (console.writeBytes (framesBytes rendered)).1⟩,
        .ok (rendered.map Rendered.name)) := by
  obtain ⟨hwritten, htakes, -⟩ := @produceAll_writes around job hecho files disk console
  rw [hrender] at hwritten htakes
  exact Prod.ext hwritten (htakes hroom)

/-! ## Runs over lists of files -/

/-- What a run over some files prints on an empty console. -/
def echoOf (around : Surroundings) (request : Request) (p : Plan) (files : List Dealt) :
    List UInt8 :=
  (runFiles around .unlimited request p files).1.console.written

/-- The names that a run over some files gives on an empty console, or its failure. -/
def answerOf (around : Surroundings) (request : Request) (p : Plan) (files : List Dealt) :
    Except Failure (List String) :=
  (runFiles around .unlimited request p files).2

variable {p : Plan}

/-- Running a request is running its plan over the files of its manifest. -/
theorem run_eq_runFiles (h : plan around.disk request = .ok p) :
    run around console request =
      runFiles around console request p (dealt around p.manifest.files) :=
  run_eq_runPlan h

/-- A run either fails at the fields for all files, whatever the files are, or produces the files
with these fields. -/
theorem runFiles_cases (around : Surroundings) (request : Request) (p : Plan) :
    (∃ cause, ∀ console files, runFiles around console request p files =
      (⟨around.disk, console⟩, .error (.field cause))) ∨
    (∃ fields, Expansion.expandFields (Library.standard around) (around.part 0) request.fields
        p.manifest.fields = .ok fields ∧
      ∀ console files, runFiles around console request p files =
        produceAll around ⟨p, fields, request.outputDirectory⟩ files ⟨around.disk, console⟩) := by
  cases hfields : Expansion.expandFields (Library.standard around) (around.part 0) request.fields
    p.manifest.fields with
  | error cause =>
    refine .inl ⟨cause, fun console files => ?_⟩
    rw [runFiles, hfields]
  | ok fields =>
    refine .inr ⟨fields, rfl, fun console files => ?_⟩
    rw [runFiles, hfields]

/-- A run that echoes leaves the disk alone. -/
theorem disk_runFiles (hecho : Request.given request.outputDirectory = none) (console : Console)
    (files : List Dealt) :
    (runFiles around console request p files).1.disk = around.disk := by
  rcases runFiles_cases around request p with ⟨cause, hrun⟩ | ⟨fields, -, hrun⟩
  · rw [hrun]
  · rw [hrun]
    exact produceAll_preserves (P := fun outputs => outputs.disk = around.disk)
      (fun file _ _ before h => (disk_produce hecho file before).trans h) rfl

/-- A run whose first files fail ends there. -/
theorem runFiles_append_of_error {first : List Dealt} {failure : Failure}
    (h : (runFiles around console request p first).2 = .error failure) (second : List Dealt) :
    runFiles around console request p (first ++ second) =
      runFiles around console request p first := by
  rcases runFiles_cases around request p with ⟨cause, hrun⟩ | ⟨fields, -, hrun⟩
  · rw [hrun, hrun]
  · rw [hrun] at h
    rw [hrun, hrun, produceAll_append]
    rcases hfirst : produceAll around ⟨p, fields, request.outputDirectory⟩ first
      ⟨around.disk, console⟩ with ⟨middle, failure' | names⟩
    · rfl
    · rw [hfirst] at h
      cases h

/-- **A run whose first files do not fail** goes on with the others on the console as it is by
then. -/
theorem runFiles_append_of_ok (hecho : Request.given request.outputDirectory = none)
    {first : List Dealt} {names : List String}
    (h : (runFiles around console request p first).2 = .ok names) (second : List Dealt) :
    runFiles around console request p (first ++ second) =
      ((runFiles around (runFiles around console request p first).1.console request p second).1,
        (runFiles around (runFiles around console request p first).1.console request p second).2.map
          (names ++ ·)) := by
  have hdisk : (runFiles around console request p first).1.disk = around.disk :=
    disk_runFiles hecho console first
  rcases runFiles_cases around request p with ⟨cause, hrun⟩ | ⟨fields, -, hrun⟩
  · rw [hrun] at h
    cases h
  · rw [hrun] at h hdisk
    rw [hrun, hrun, hrun, produceAll_append]
    rcases hfirst : produceAll around ⟨p, fields, request.outputDirectory⟩ first
      ⟨around.disk, console⟩ with ⟨⟨disk, console'⟩, failure | names'⟩
    · rw [hfirst] at h
      cases h
    · rw [hfirst] at h hdisk
      cases h
      dsimp only at hdisk ⊢
      rw [hdisk]
      rcases produceAll around ⟨p, fields, request.outputDirectory⟩ second
        ⟨around.disk, console'⟩ with ⟨after, failure | more⟩ <;> rfl

/-- What is on the console before a run makes no difference to it. -/
theorem runFiles_of_room (hecho : Request.given request.outputDirectory = none)
    (hroom : console.room = none) (files : List Dealt) :
    runFiles around console request p files =
      (⟨around.disk, ⟨console.written ++ echoOf around request p files, none⟩⟩,
        answerOf around request p files) := by
  obtain ⟨written, room⟩ := console
  cases hroom
  unfold echoOf answerOf
  rcases runFiles_cases around request p with ⟨cause, hrun⟩ | ⟨fields, -, hrun⟩
  · rw [hrun, hrun]
    simp [Console.unlimited]
  · rw [hrun, hrun, produceAll_echoed hecho files rfl, produceAll_echoed hecho files rfl]
    simp [Console.unlimited]

/-- A request without output directory leaves the disk alone and adds to what the console has. -/
theorem run_of_room (hecho : Request.given request.outputDirectory = none)
    (hroom : console.room = none) :
    ∃ bytes, (run around console request).1 = ⟨around.disk, ⟨console.written ++ bytes, none⟩⟩ := by
  cases hplan : plan around.disk request with
  | error failure =>
    obtain ⟨written, room⟩ := console
    cases hroom
    refine ⟨[], ?_⟩
    rw [run, prepare, hplan]
    simp
  | ok p =>
    rw [run_eq_runFiles hplan, runFiles_of_room hecho hroom]
    exact ⟨_, rfl⟩

/-- What two lists of files echo in turn, and the names that they give. -/
theorem echoOf_append (hecho : Request.given request.outputDirectory = none)
    {first : List Dealt} {names : List String}
    (h : answerOf around request p first = .ok names) (second : List Dealt) :
    echoOf around request p (first ++ second) =
        echoOf around request p first ++ echoOf around request p second ∧
      answerOf around request p (first ++ second) =
        (answerOf around request p second).map (names ++ ·) := by
  have hfirst : runFiles around .unlimited request p first = _ := runFiles_of_room hecho rfl first
  have happend := runFiles_append_of_ok hecho h second
  rw [hfirst, runFiles_of_room hecho rfl second] at happend
  rw [echoOf, answerOf, happend]
  exact ⟨by simp [Console.unlimited], rfl⟩

/-- A file that is skipped prints nothing. -/
theorem echoOf_of_skipped (hecho : Request.given request.outputDirectory = none)
    {file : Manifest.File} {chance : Chance}
    (h : answerOf around request p [(file, chance)] = .ok []) :
    echoOf around request p [(file, chance)] = [] := by
  unfold echoOf
  unfold answerOf at h
  rcases runFiles_cases around request p with ⟨cause, hrun⟩ | ⟨fields, -, hrun⟩
  · rw [hrun] at h
    cases h
  · rw [hrun, produceAll_echoed hecho [(file, chance)] rfl] at h ⊢
    dsimp only [renderAll] at h ⊢
    rcases hrender : renderFile (around.drawing chance) ⟨p, fields, request.outputDirectory⟩ file
      with failure | (_ | rendered)
    · rfl
    · rfl
    · rw [hrender] at h
      cases h

/-- A file that is generated prints its frame: a line with its name, its text, the end of a line
unless the text is empty or ends with one, and a line with its name again. -/
theorem echoOf_singleton (hecho : Request.given request.outputDirectory = none)
    {file : Manifest.File} {chance : Chance} {name : String}
    (h : answerOf around request p [(file, chance)] = .ok [name]) :
    ∃ fields text, Expansion.expandFields (Library.standard around) (around.part 0) request.fields
        p.manifest.fields = .ok fields ∧
      Renders (around.drawing chance) ⟨p, fields, request.outputDirectory⟩ file ⟨name, text⟩ ∧
      echoOf around request p [(file, chance)] = (">>>>>>> " ++ name ++ "\n" ++ text ++
        (if text = "" ∨ text.toList.getLast? = some '\n' then "" else "\n") ++
        "<<<<<<< " ++ name ++ "\n").toUTF8.toList := by
  unfold echoOf
  unfold answerOf at h
  rcases runFiles_cases around request p with ⟨cause, hrun⟩ | ⟨fields, hfields, hrun⟩
  · rw [hrun] at h
    cases h
  · rw [hrun, produceAll_echoed hecho [(file, chance)] rfl] at h ⊢
    dsimp only [renderAll] at h ⊢
    rcases hrender : renderFile (around.drawing chance) ⟨p, fields, request.outputDirectory⟩ file
      with failure | (_ | rendered)
    · rw [hrender] at h
      cases h
    · rw [hrender] at h
      cases h
    · rw [hrender] at h
      cases h
      refine ⟨fields, rendered.text, hfields, renderFile_eq_some_iff.1 hrender, ?_⟩
      simp [framesBytes, frameBytes, Console.frame, Console.unlimited]

/-- **Runs that echo are put together from the runs over portions of their files**, where each file
draws the same in all of them. The run of a plan is the one over its files as they are dealt, which
does not depend on the files that follow, and whatever files are dealt, it is a run of a plan. A run
whose first files fail ends there, whatever follows; otherwise it goes on as the run over the others
does, with the console as it is by then, so that it prints the text of both and gives the names of
both. The disk stays as it is. A file that is generated prints its frame and one that is skipped
prints nothing; what the files before and after it print, and what they give, is the same whatever
the file is. -/
theorem runs_echo_in_turn (hecho : Request.given request.outputDirectory = none) (p : Plan)
    (first second : List Dealt) :
    (∀ files, (∀ console, runPlan around console request (p.withFiles files) =
        runFiles around console request p (dealt around files)) ∧
      ∀ others, dealt around files <+: dealt around (files ++ others)) ∧
    (∀ files, ∃ chance, dealt (around.drawing chance) (files.map Prod.fst) = files ∧
      ∀ console,
        runPlan (around.drawing chance) console request (p.withFiles (files.map Prod.fst)) =
          runFiles around console request p files) ∧
    (∀ console failure, (runFiles around console request p first).2 = .error failure →
      runFiles around console request p (first ++ second) =
        runFiles around console request p first) ∧
    (∀ console names, (runFiles around console request p first).2 = .ok names →
      let rest :=
        runFiles around (runFiles around console request p first).1.console request p second
      runFiles around console request p (first ++ second) = (rest.1, rest.2.map (names ++ ·))) ∧
    (∀ names, answerOf around request p first = .ok names →
      echoOf around request p (first ++ second) =
          echoOf around request p first ++ echoOf around request p second ∧
        answerOf around request p (first ++ second) =
          (answerOf around request p second).map (names ++ ·)) ∧
    (∀ console files, (runFiles around console request p files).1.disk = around.disk) ∧
    (∀ file chance,
      (answerOf around request p [(file, chance)] = .ok [] →
        echoOf around request p [(file, chance)] = []) ∧
      ∀ name, answerOf around request p [(file, chance)] = .ok [name] →
        ∃ fields text, Expansion.expandFields (Library.standard around) (around.part 0)
            request.fields p.manifest.fields = .ok fields ∧
          Renders (around.drawing chance) ⟨p, fields, request.outputDirectory⟩ file ⟨name, text⟩ ∧
          echoOf around request p [(file, chance)] = (">>>>>>> " ++ name ++ "\n" ++ text ++
            (if text = "" ∨ text.toList.getLast? = some '\n' then "" else "\n") ++
            "<<<<<<< " ++ name ++ "\n").toUTF8.toList) ∧
    (∀ file names own, answerOf around request p first = .ok names →
      answerOf around request p [file] = .ok own →
      echoOf around request p (first ++ file :: second) = echoOf around request p first ++
          echoOf around request p [file] ++ echoOf around request p second ∧
        answerOf around request p (first ++ file :: second) =
          (answerOf around request p second).map (names ++ own ++ ·)) := by
  refine ⟨fun files => ⟨fun console => runPlan_withFiles files, fun others => ?_⟩,
    fun files => exists_runPlan_eq_runFiles around request p files, ?_, ?_, ?_, ?_, ?_, ?_⟩
  · exact ⟨_, (Chance.deal_append (around.chance.branch 1) files others).symm⟩
  · intro console failure h
    exact runFiles_append_of_error h second
  · intro console names h
    exact runFiles_append_of_ok hecho h second
  · intro names h
    exact echoOf_append hecho h second
  · intro console files
    exact disk_runFiles hecho console files
  · intro file chance
    exact ⟨fun h => echoOf_of_skipped hecho h, fun name h => echoOf_singleton hecho h⟩
  · intro file names own hfirst hfile
    have hboth := echoOf_append hecho hfirst [file]
    rw [hfile] at hboth
    have hall := echoOf_append hecho hboth.2 second
    rw [List.append_assoc, List.singleton_append, hboth.1] at hall
    exact hall

/-- A plan with one template and no fields. -/
def smallPlan : Plan where
  source := .directory "t"
  directory := "templates/classes/cpp"
  manifest := .empty

/-- Files of the same template under two names, the second with a field that is drawn. -/
def smallFiles : List Dealt :=
  [(⟨"a", "b", [], ""⟩, .still),
    (⟨"a", "c", [⟨"qArgName", .expression "\x7b\x7b get_random(end=9) \x7d\x7d"⟩], ""⟩, fun _ => 7)]

/-- The field of the second file has no influence on the third one. -/
theorem runs_echo_in_turn_thrice :
    Request.given (smallRequest none).outputDirectory = none ∧
    answerOf (smallAround "") (smallRequest none) smallPlan smallFiles = .ok ["b", "c"] ∧
    echoOf (smallAround "") (smallRequest none) smallPlan
        (smallFiles ++ [(⟨"a", "d", [], ""⟩, .still)]) =
      echoOf (smallAround "") (smallRequest none) smallPlan smallFiles ++
        echoOf (smallAround "") (smallRequest none) smallPlan [(⟨"a", "d", [], ""⟩, .still)] := by
  have hecho : Request.given (smallRequest none).outputDirectory = none := rfl
  have hanswer : answerOf (smallAround "") (smallRequest none) smallPlan smallFiles =
      .ok ["b", "c"] :=
    Template.eq_ok_of_toOption (by decide +kernel)
  obtain ⟨-, -, -, -, htexts, -⟩ := @runs_echo_in_turn (smallAround "") _ hecho smallPlan smallFiles
    [(⟨"a", "d", [], ""⟩, .still)]
  exact ⟨hecho, hanswer, (htexts _ hanswer).1⟩

end Scaffold.Generation
