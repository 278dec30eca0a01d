import Scaffold.Proofs.Generation.Written

/-!
# Files inside the output directory

Whether a run that succeeds leaves its files inside the output directory. An output name whose parts
are no names, such as `..` or the root, adds nothing to the path of the directory, so that the file
is written where the directory should be. Main facts:

* `run_places_files_iff` : the output directory is a directory with the files below it exactly if
  every output name has a named part;
* `run_replaces_directory` : there is a run that succeeds and leaves a file in place of the
  directory.
-/

namespace Scaffold.Generation

variable {around : Surroundings} {console : Console} {request : Request} {directory : String}

/-- **A run that succeeds leaves its files inside the output directory exactly if every output name
has a named part**: then the output directory is a directory, and every output name leads from it to
a file strictly below it. Nothing needs to be known about what was there before the run. -/
theorem run_places_files_iff (hdir : Request.given request.outputDirectory = some directory)
    {outputs : Outputs} {names : List String} (hnames : names ≠ [])
    (h : run around console request = (outputs, .ok names)) :
    (outputs.disk.hasDirectory directory = true ∧
      ∀ name ∈ names, ∃ content,
        outputs.disk.entryAt? (Path.below directory name) = some (.file content) ∧
        ∃ ns ≠ [], outputs.disk.target (Path.below directory name) =
          outputs.disk.target directory ++ ns) ↔
      ∀ name ∈ names, Path.names name ≠ [] := by
  obtain ⟨job, rendered, -, hgenerates, rfl, -⟩ := generates_of_run hdir h
  have hne : directory ≠ "" := ne_empty_of_given hdir
  -- whatever the names, each path leads to a file
  have hfiles : ∀ name ∈ rendered.map Rendered.name, ∃ content,
      outputs.disk.entryAt? (Path.below directory name) = some (.file content) := by
    intro name hname
    obtain ⟨r, hr, rfl⟩ := List.mem_map.1 hname
    obtain ⟨s, -, -, hentry⟩ := hgenerates.exists_entryAt? hne hr
    exact ⟨_, hentry⟩
  constructor
  · rintro ⟨hdirectory, -⟩ name hname hnone
    obtain ⟨content, hentry⟩ := hfiles name hname
    have hsame : Path.below directory name = directory := by
      rw [Path.below, hnone]
      rfl
    rw [hsame] at hentry
    rw [Disk.hasDirectory, hentry] at hdirectory
    cases hdirectory
  · intro hparts
    refine ⟨?_, fun name hname => ?_⟩
    · obtain ⟨first, hfirst⟩ := List.exists_mem_of_ne_nil _ hnames
      obtain ⟨content, hentry⟩ := hfiles first hfirst
      cases hlocate : outputs.disk.locate (Path.below directory first) with
      | error fault =>
        rw [Disk.entryAt?, hlocate] at hentry
        cases hentry
      | ok place =>
        obtain ⟨hreach, hplace⟩ := Disk.passes_of_locate_foldl_join hne
          (fun n hn => Path.isName_of_mem_names hn) (hparts first hfirst) hlocate
        exact Disk.hasDirectory_of_locate hreach hplace
    · obtain ⟨content, hentry⟩ := hfiles name hname
      exact ⟨content, hentry, Path.names name, hparts name hname,
        Disk.target_below outputs.disk hne name⟩

/-- A manifest with a file whose output name begins at the root and goes up in between. -/
def windingManifest : String := "files:\n- in: a\n  out: /b/../c\n"

/-- The file is placed by the two names that are left. -/
theorem run_places_files_winding :
    ∃ outputs, Request.given (smallRequest (some "out")).outputDirectory = some "out" ∧
      run (smallAround windingManifest) .unlimited (smallRequest (some "out")) =
        (outputs, .ok ["/b/../c"]) ∧
      outputs.disk.hasDirectory "out" = true ∧
      ∃ content, outputs.disk.entryAt? (Path.below "out" "/b/../c") = some (.file content) := by
  have hnames : (run (smallAround windingManifest) .unlimited
      (smallRequest (some "out"))).2.toOption = some ["/b/../c"] := by
    decide +kernel
  obtain ⟨outputs, hrun⟩ := exists_run_eq_ok hnames
  have hdir : Request.given (smallRequest (some "out")).outputDirectory = some "out" := rfl
  have hparts : ∀ name ∈ ["/b/../c"], Path.names name ≠ [] := by decide
  obtain ⟨hdirectory, hfiles⟩ := (run_places_files_iff hdir (by simp) hrun).2 hparts
  obtain ⟨content, hentry, -⟩ := hfiles "/b/../c" List.mem_cons_self
  exact ⟨outputs, hdir, hrun, hdirectory, content, hentry⟩

/-- A manifest with a file whose output name only goes up. -/
def upManifest : String := "files:\n- in: a\n  out: ..\n"

/-- **A run that succeeds and leaves a file in place of the output directory**: there is nothing at
the path of the directory before the run, and afterwards there is the text of the file. -/
theorem run_replaces_directory :
    (smallAround upManifest).disk.entryAt? "out" = none ∧
      ∃ outputs, run (smallAround upManifest) .unlimited (smallRequest (some "out")) =
          (outputs, .ok [".."]) ∧
        outputs.disk.hasDirectory "out" = false ∧
        Path.below "out" ".." = "out" ∧
        outputs.disk.entryAt? "out" = some (.file "hi N".toUTF8) := by
  have hmissing : ((smallAround upManifest).disk.entryAt? "out").isNone = true := by decide +kernel
  have hnames : (run (smallAround upManifest) .unlimited
      (smallRequest (some "out"))).2.toOption = some [".."] := by
    decide +kernel
  have hentry : ((run (smallAround upManifest) .unlimited
      (smallRequest (some "out"))).1.disk.entryAt? "out").any
        (· == .file "hi N".toUTF8) = true := by
    decide +kernel
  obtain ⟨outputs, hrun⟩ := exists_run_eq_ok hnames
  rw [hrun] at hentry
  obtain ⟨entry, hfound, hfile⟩ := (Option.any_eq_true _ _).1 hentry
  have hsame : entry = .file "hi N".toUTF8 := by
    cases entry with
    | directory => cases hfile
    | file content =>
      have hbytes : content.data = "hi N".toUTF8.data := eq_of_beq hfile
      rw [ByteArray.ext hbytes]
  subst hsame
  refine ⟨Option.isNone_iff_eq_none.1 hmissing, outputs, hrun, ?_, by decide, hfound⟩
  rw [Disk.hasDirectory, hfound]

end Scaffold.Generation
