import Mathlib.Data.List.Forall2
import Scaffold.CommandLine.Run
import Scaffold.Proofs.Generation.Echoed
import Scaffold.Proofs.Generation.Written

/-!
# What a run of the program reports

A run that generates files prints a line for each path of `reportedPaths`, and it writes the files
at `writtenPaths`. Both are made from the output directory and the names of the files, but not in
the same way. Main facts:

* `outputDirectory_eq_empty_iff` : when a request has an output directory that counts as none;
* `forall₂_same_iff` : the paths that are reported are those that are written if and only if there
  is no such directory and each name is what it is below the directory;
* `run_reports_files` : what a run prints and writes, and when the two agree.
-/

namespace Scaffold.CommandLine

open Generation (Generates given_of_ne smallAround)

variable {around : Surroundings} {arguments : List String} {order : Order}

/-! ## The order of a run -/

/-- The order that arguments and environment give. -/
def orderOf (around : Surroundings) (arguments : List String) : Except Stop Order :=
  (findCommand false arguments).bind (Order.ofArguments around.environment)

/-- The request of a run, completed from the settings that it finds. -/
def requestOf (around : Surroundings) (order : Order) : Request :=
  order.request around (Settings.find around).1

/-- A run with an order carries it out. -/
theorem run_of_order (h : orderOf around arguments = .ok order) :
    run around arguments = carryOut around order := by
  unfold orderOf at h
  rw [run]
  cases hcommand : findCommand false arguments with
  | error stop =>
    rw [hcommand] at h
    cases h
  | ok rest =>
    rw [hcommand] at h
    dsimp only [Except.bind] at h ⊢
    rw [h]

/-- What a run leaves that exits with zero: its files are generated, and after what was echoed comes
its summary. -/
theorem carryOut_of_exitCode (h : (carryOut around order).exitCode = 0) :
    ∃ outputs names, Generation.run around .unlimited (requestOf around order) =
        (outputs, .ok names) ∧
      (carryOut around order).disk = outputs.disk ∧
      (carryOut around order).output = (outputs.console.write
        (summary (requestOf around order).outputDirectory names)).1.written := by
  rw [carryOut] at h ⊢
  change ∃ outputs names, Generation.run around .unlimited
    (order.request around (Settings.find around).1) = _ ∧ _
  rcases hrun : Generation.run around .unlimited (order.request around (Settings.find around).1)
    with ⟨outputs, failure | names⟩
  · dsimp only at h
    rw [hrun] at h
    cases h
  · dsimp only
    rw [hrun]
    exact ⟨outputs, names, rfl, rfl, rfl⟩

/-! ## Reported and written paths -/

/-- The line about a path. -/
def reportLine (path : String) : String := "✓ Created: " ++ path ++ "\n"

/-- The paths that are reported: the names as they continue the output directory. -/
def reportedPaths (outputDirectory : Option String) (names : List String) : List String :=
  match outputDirectory with
  | some directory => names.map (Path.join directory)
  | none => []

/-- The paths that are written: the names placed below the output directory. An empty one counts as
none. -/
def writtenPaths (outputDirectory : Option String) (names : List String) : List String :=
  match Request.given outputDirectory with
  | some directory => names.map (Path.below directory)
  | none => []

/-- The summary has one line for each path that is reported. -/
theorem summary_eq_join (outputDirectory : Option String) {names : List String} (h : names ≠ []) :
    summary outputDirectory names =
      String.join ((reportedPaths outputDirectory names).map reportLine) := by
  obtain ⟨name, rest, rfl⟩ := List.exists_cons_of_ne_nil h
  cases outputDirectory with
  | none => rfl
  | some directory =>
    rw [summary, reportedPaths, List.map_map]
    · rfl
    · exact h

/-- A name that continues a directory is what is placed below it: it is relative and does not lead
upwards, or it is absolute and goes through the directory by itself. -/
def Continues (directory name : String) : Prop :=
  if Path.isAbsolute name then
    Path.parts name = Path.parts directory ++ (Path.names name).map .name
  else ".." ∉ Path.segments name

instance (directory name : String) : Decidable (Continues directory name) :=
  inferInstanceAs (Decidable (if Path.isAbsolute name then _ else _))

/-- **The paths that are reported are those that are written**, one for one and in order, if and
only if no output directory is empty and each name is what it is below the directory. -/
theorem forall₂_same_iff (outputDirectory : Option String) {names : List String} (h : names ≠ []) :
    List.Forall₂ (fun reported written => Path.same reported written = true)
        (reportedPaths outputDirectory names) (writtenPaths outputDirectory names) ↔
      outputDirectory ≠ some "" ∧
        ∀ directory ∈ outputDirectory, ∀ name ∈ names, Continues directory name := by
  cases outputDirectory with
  | none => simp [reportedPaths, writtenPaths, Request.given]
  | some directory =>
    by_cases hdir : directory = ""
    · subst hdir
      obtain ⟨name, rest, rfl⟩ := List.exists_cons_of_ne_nil h
      have hgiven : Request.given (some "") = none := rfl
      simp [reportedPaths, writtenPaths, hgiven]
    · rw [reportedPaths, writtenPaths, given_of_ne hdir, List.forall₂_map_left_iff,
        List.forall₂_map_right_iff, List.forall₂_same]
      simp only [Path.same_join_below_iff hdir, ne_eq, Option.some.injEq, hdir, not_false_eq_true,
        true_and, Option.mem_some_iff, forall_eq']
      rfl

/-! ## Empty output directories -/

/-- A path of the settings becomes empty only if it is the home directory, and that is empty. -/
theorem expandHome_eq_empty_iff {path : String} (h : path ≠ "") :
    Settings.expandHome around path = "" ↔ path = "~/" ∧ Settings.home? around = some "" := by
  unfold Settings.expandHome
  cases hrest : Text.stripStart? ['~', '/'] path.toList with
  | none =>
    have hne : path ≠ "~/" := by
      rintro rfl
      exact absurd hrest (by decide)
    simp [h, hne]
  | some rest =>
    have hpath : path = "~/" ↔ rest = [] := by
      rw [← String.toList_inj, Text.eq_append_of_stripStart? hrest]
      simp
    cases Settings.home? around with
    | none => simp [h]
    | some home =>
      dsimp only
      rw [Path.join_eq_empty_iff, hpath, and_comm]
      simp

/-- A path of an order is empty only if it comes from settings that name the home directory, and
that is empty. -/
theorem path_eq_empty_iff {parameter : Parameter} {setting : Option String} :
    order.path around parameter setting = some "" ↔
      Request.given (order.given.value? parameter) = none ∧ setting = some "~/" ∧
        Settings.home? around = some "" := by
  unfold Order.path
  cases hvalue : Request.given (order.given.value? parameter) with
  | some value =>
    have hne : value ≠ "" := Generation.ne_empty_of_given hvalue
    simp [hne]
  | none =>
    cases setting with
    | none => simp [Request.given]
    | some setting =>
      by_cases hne : setting = ""
      · simp [Request.given, Option.filter, hne]
      · rw [given_of_ne hne]
        simp [expandHome_eq_empty_iff hne]

/-- **The output directory of a run is empty only if the settings name the home directory** and that
is empty. -/
theorem outputDirectory_eq_empty_iff :
    (requestOf around order).outputDirectory = some "" ↔
      Request.given (order.given.value? .outputDirectory) = none ∧
        (Settings.find around).1.outputDirectory = some "~/" ∧
        Settings.home? around = some "" :=
  path_eq_empty_iff

/-! ## Whole runs -/

/-- A run that succeeds leaves room on a console without limit. -/
theorem room_eq_none_of_run {request : Request} {outputs : Generation.Outputs}
    {names : List String}
    (h : Generation.run around .unlimited request = (outputs, .ok names)) :
    outputs.console.room = none := by
  cases hgiven : Request.given request.outputDirectory with
  | some directory =>
    obtain ⟨job, rendered, -, -, -, hconsole⟩ := Generation.generates_of_run hgiven h
    rw [hconsole]
    rfl
  | none =>
    obtain ⟨bytes, houtputs⟩ : ∃ bytes, (Generation.run around .unlimited request).1 = _ :=
      Generation.run_of_room hgiven rfl
    rw [h] at houtputs
    exact congrArg (·.console.room) houtputs

/-- **A run that generates files reports the paths that continue the output directory by their
names**, after what it has echoed. With an output directory it has echoed nothing, and it has
written the files below the directory in order, where they are found afterwards; without one it has
written nothing. What is reported is what is written if and only if the output directory is not
empty and each name is what it is below the directory. -/
theorem run_reports_files (horder : orderOf around arguments = .ok order)
    (hexit : (run around arguments).exitCode = 0) :
    ∃ outputs names,
      Generation.run around .unlimited (requestOf around order) = (outputs, .ok names) ∧
      (run around arguments).disk = outputs.disk ∧
      (names ≠ [] →
        (run around arguments).output = outputs.console.written ++ (String.join
          ((reportedPaths (requestOf around order).outputDirectory names).map
            reportLine)).toUTF8.toList ∧
        (∀ directory, Request.given (requestOf around order).outputDirectory = some directory →
          outputs.console.written = [] ∧
          ∃ job rendered, Generation.prepare around (requestOf around order) = .ok job ∧
            Generates around job directory around.disk
              (Generation.dealt around job.plan.manifest.files) rendered outputs.disk ∧
            names = rendered.map Generation.Rendered.name ∧
            ∀ path ∈ writtenPaths (requestOf around order).outputDirectory names,
              ∃ content, outputs.disk.entryAt? path = some (.file content)) ∧
        (Request.given (requestOf around order).outputDirectory = none →
          outputs.disk = around.disk) ∧
        ((requestOf around order).outputDirectory = none →
          (run around arguments).output = outputs.console.written) ∧
        (List.Forall₂ (fun reported written => Path.same reported written = true)
            (reportedPaths (requestOf around order).outputDirectory names)
            (writtenPaths (requestOf around order).outputDirectory names) ↔
          (requestOf around order).outputDirectory ≠ some "" ∧
            ∀ directory ∈ (requestOf around order).outputDirectory, ∀ name ∈ names,
              Continues directory name)) := by
  rw [run_of_order horder] at hexit ⊢
  obtain ⟨outputs, names, hrun, hdisk, houtput⟩ := carryOut_of_exitCode hexit
  refine ⟨outputs, names, hrun, hdisk, fun hne => ?_⟩
  have hlines : (carryOut around order).output = outputs.console.written ++ (String.join
      ((reportedPaths (requestOf around order).outputDirectory names).map
        reportLine)).toUTF8.toList := by
    rw [houtput, summary_eq_join _ hne, Console.write, Console.writeBytes,
      room_eq_none_of_run hrun]
  refine ⟨hlines, fun directory hdir => ?_, fun hecho => ?_, fun hnone => ?_,
    forall₂_same_iff _ hne⟩
  · -- with an output directory only the report goes to the console
    obtain ⟨job, rendered, hprepare, hgenerates, hnames, hconsole⟩ :=
      Generation.generates_of_run hdir hrun
    refine ⟨by rw [hconsole]; rfl, job, rendered, hprepare, hgenerates, hnames, ?_⟩
    intro path hpath
    rw [writtenPaths, hdir, hnames] at hpath
    dsimp only at hpath
    rw [List.map_map] at hpath
    obtain ⟨r, hr, rfl⟩ := List.mem_map.1 hpath
    obtain ⟨s, -, -, hentry⟩ := hgenerates.exists_entryAt? (Generation.ne_empty_of_given hdir) hr
    exact ⟨_, hentry⟩
  · obtain ⟨bytes, houtputs⟩ :
        ∃ bytes, (Generation.run around .unlimited (requestOf around order)).1 = _ :=
      Generation.run_of_room hecho rfl
    rw [hrun] at houtputs
    exact congrArg Generation.Outputs.disk houtputs
  · rw [hlines, hnone]
    simp [reportedPaths]

/-- A manifest with one file of a given output path. -/
def manifestOf (output : String) : String := "files:\n- in: a\n  out: " ++ output ++ "\n"

/-- Arguments with a template directory. -/
def smallArguments : List String := ["new", "class", "N", "--template-dir", "t"]

/-- The order of these arguments with an output directory. -/
def smallOrder : Order where
  category := .classes
  name := "N"
  given := ⟨[], [(.templateDirectory, "t"), (.outputDirectory, "out")], some .classes, some "N"⟩

/-- A relative path that does not lead upwards is reported as the path that is written. -/
theorem run_reports_files_relative :
    orderOf (smallAround (manifestOf "./b")) (smallArguments ++ ["-o", "out"]) = .ok smallOrder ∧
    (run (smallAround (manifestOf "./b")) (smallArguments ++ ["-o", "out"])).exitCode = 0 ∧
    List.Forall₂ (fun reported written => Path.same reported written = true)
      (reportedPaths (some "out") ["./b"]) (writtenPaths (some "out") ["./b"]) := by
  have horder : orderOf (smallAround (manifestOf "./b")) (smallArguments ++ ["-o", "out"]) =
      .ok smallOrder :=
    Template.eq_ok_of_toOption (by decide +kernel)
  have hexit : (run (smallAround (manifestOf "./b")) (smallArguments ++ ["-o", "out"])).exitCode =
      0 := by
    decide +kernel
  have hnames : (Generation.run (smallAround (manifestOf "./b")) .unlimited
      (requestOf (smallAround (manifestOf "./b")) smallOrder)).2.toOption = some ["./b"] := by
    decide +kernel
  have hdir : (requestOf (smallAround (manifestOf "./b")) smallOrder).outputDirectory =
      some "out" := by
    decide +kernel
  obtain ⟨outputs, names, hrun, -, hreport⟩ := run_reports_files horder hexit
  obtain rfl : names = ["./b"] := by
    rw [hrun] at hnames
    cases hnames
    rfl
  obtain ⟨-, -, -, -, hsame⟩ := hreport (by decide)
  rw [hdir] at hsame
  exact ⟨horder, hexit, hsame.2 (by decide)⟩

/-- Surroundings with settings that name the home directory, which is empty, as output directory. -/
def homeless : Surroundings where
  disk :=
    { (smallAround (manifestOf "b")).disk with
      entries := (["w", ".qtcli.toml"], .file "output-dir = \"~/\"\n".toUTF8) ::
        (smallAround (manifestOf "b")).disk.entries }
  environment := [("HOME", "")]
  seconds := 0
  chance := .still
  complaint := fun _ _ => []

/-- **The paths that are reported are not always those that are written.** A file with an absolute
output path is reported there and written below the output directory; and with an output directory
that is empty a file is both echoed and reported. -/
theorem run_reports_elsewhere :
    ((run (smallAround (manifestOf "/b")) (smallArguments ++ ["-o", "out"])).exitCode = 0 ∧
      (run (smallAround (manifestOf "/b")) (smallArguments ++ ["-o", "out"])).output =
        "✓ Created: /b\n".toUTF8.toList ∧
      (run (smallAround (manifestOf "/b")) (smallArguments ++ ["-o", "out"])).disk.entryAt? "/b" =
        none ∧
      ((run (smallAround (manifestOf "/b")) (smallArguments ++ ["-o", "out"])).disk.entryAt?
        "out/b").isSome = true) ∧
    (run homeless smallArguments).exitCode = 0 ∧
    (run homeless smallArguments).output =
      ">>>>>>> b\nhi N\n<<<<<<< b\n✓ Created: b\n".toUTF8.toList ∧
    (run homeless smallArguments).disk.entryAt? "b" = none := by
  refine ⟨?_, ?_⟩ <;> decide +kernel

end Scaffold.CommandLine
