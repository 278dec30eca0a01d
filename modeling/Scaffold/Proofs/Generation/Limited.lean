import Scaffold.Proofs.Generation.Echoed

/-!
# Consoles that fill up

A console that takes a limited number of bytes gets the beginning of what a run prints on one
without limit, and the run fails at the first file whose frame it does not take in full. The key
notion is `generated`, the files that a request generates whatever the console is. Main facts:

* `Console.writeInTurn_eq` : writing portions in turn is writing them as one, so that it makes no
  difference in which portions a frame is written;
* `run_writes` : what a run writes on any console, and where it stops if the console is full;
* `run_limited` : so a limit cuts the text of a run, and up to the cut nothing else changes.
-/

namespace Scaffold

/-! ## Writing in portions -/

/-- Writes portions one after another, up to the first one that is not taken in full. -/
def Console.writeInTurn (console : Console) : List (List UInt8) → Console × Bool
  | [] => (console, true)
  | bytes :: rest =>
    match console.writeBytes bytes with
    | (after, true) => after.writeInTurn rest
    | (after, false) => (after, false)

namespace Generation

variable {around : Surroundings} {request : Request}

/-- **Writing portions in turn** is writing them as one. -/
theorem writeInTurn_eq (console : Console) (portions : List (List UInt8)) :
    console.writeInTurn portions = console.writeBytes portions.flatten := by
  induction portions generalizing console with
  | nil => exact (writeBytes_nil console).symm
  | cons bytes rest ih =>
    rw [Console.writeInTurn, List.flatten_cons]
    rcases hfirst : console.writeBytes bytes with ⟨after, _ | _⟩
    · rw [writeBytes_append_of_full console _ (by rw [hfirst]), hfirst]
    · rw [Console.writeBytes_append console _ _ (by rw [hfirst]), hfirst]
      exact ih after

/-! ## Whole runs -/

/-- The files that a request generates, in order, up to the first failure. -/
def generated (around : Surroundings) (request : Request) : List Rendered :=
  match prepare around request with
  | .error _ => []
  | .ok job => (renderAll around job (dealt around job.plan.manifest.files)).1

/-- **What a run writes on any console**: the frames of the files that the request generates, as far
as the console takes them. If it takes them all, the run ends as it does without any limit, else at
the first file that the console does not take in full. -/
theorem run_writes (hecho : Request.given request.outputDirectory = none) (console : Console) :
    let bytes := framesBytes (generated around request)
    let result := run around console request
    result.1 = ⟨around.disk, (console.writeBytes bytes).1⟩ ∧
      ((console.writeBytes bytes).2 = true → result.2 = (run around .unlimited request).2) ∧
      ((console.writeBytes bytes).2 = false →
        ∃ refused, FirstRefused console (generated around request) refused ∧
          result.2 = .error (.delivery refused.name .consoleFull)) := by
  dsimp only [run, generated]
  cases hprepare : prepare around request with
  | error failure =>
    dsimp only
    rw [framesBytes_nil, writeBytes_nil]
    exact ⟨rfl, fun _ => rfl, fun h => by cases h⟩
  | ok job =>
    have hdirectory : Request.given job.outputDirectory = none := by
      rw [(prepare_eq_ok_iff.1 hprepare).2.2, hecho]
    obtain ⟨hwritten, htakes, hrefuses⟩ :=
      @produceAll_writes around job hdirectory (dealt around job.plan.manifest.files) around.disk
        console
    obtain ⟨-, hunlimited, -⟩ :=
      @produceAll_writes around job hdirectory (dealt around job.plan.manifest.files) around.disk
        .unlimited
    refine ⟨hwritten, fun h => ?_, hrefuses⟩
    exact (htakes h).trans (hunlimited rfl).symm

/-- The names that a run gives are those of the files that the request generates. -/
theorem names_of_run (hecho : Request.given request.outputDirectory = none) {names : List String}
    (h : (run around .unlimited request).2 = .ok names) :
    names = (generated around request).map Rendered.name := by
  rw [run] at h
  rw [generated]
  cases hprepare : prepare around request with
  | error failure =>
    rw [hprepare] at h
    cases h
  | ok job =>
    rw [hprepare] at h
    have hdirectory : Request.given job.outputDirectory = none := by
      rw [(prepare_eq_ok_iff.1 hprepare).2.2, hecho]
    dsimp only at h ⊢
    rw [produceAll_echoed hdirectory _ rfl] at h
    dsimp only at h
    rcases hfound : renderAll around job (dealt around job.plan.manifest.files) with
      ⟨rendered, _ | failure⟩
    · rw [hfound] at h
      cases h
      rfl
    · rw [hfound] at h
      cases h

/-- **A limit of the console cuts the text of a run**, if the runs with and without it are left the
same to chance. The text of a run without limit consists of the frames of the files that the request
generates. A console that takes a limited number of bytes gets as many of its first bytes, and the
disk stays as it is. If that is all of them, the run ends as the one without limit does. If not, it
fails with the name of the first file whose frame goes beyond the limit: the frames before it end
within the limit. In which portions a frame is written makes no difference. -/
theorem run_limited (hecho : Request.given request.outputDirectory = none) (limit : Nat) :
    let whole := run around .unlimited request
    let text := whole.1.console.written
    let cut := run around (.limited limit) request
    (text = framesBytes (generated around request) ∧
      ∀ names, whole.2 = .ok names → names = (generated around request).map Rendered.name) ∧
    (cut.1.console.written = text.take limit ∧ cut.1.disk = around.disk) ∧
    (text.length ≤ limit → cut.2 = whole.2) ∧
    (limit < text.length → ∃ before refused after,
      generated around request = before ++ refused :: after ∧
      (framesBytes before).length ≤ limit ∧
      limit < (framesBytes (before ++ [refused])).length ∧
      cut.2 = .error (.delivery refused.name .consoleFull)) ∧
    ∀ r portions, portions.flatten = frameBytes r → ∀ console : Console,
      console.writeInTurn portions = console.write (Console.frame r.name r.text) := by
  obtain ⟨hwhole, -, -⟩ := @run_writes around request hecho .unlimited
  obtain ⟨hcut, htakes, hrefuses⟩ := @run_writes around request hecho (.limited limit)
  have htext : (run around .unlimited request).1.console.written =
      framesBytes (generated around request) := by
    rw [hwhole]
    exact List.nil_append _
  dsimp only
  rw [htext]
  refine ⟨⟨rfl, fun names h => names_of_run hecho h⟩, ⟨?_, ?_⟩, fun h => ?_, fun h => ?_, ?_⟩
  · rw [hcut]
    exact List.nil_append _
  · rw [hcut]
  · exact htakes (decide_eq_true h)
  · obtain ⟨refused, ⟨before, after, hsplit, hbefore, hrefused⟩, hresult⟩ :=
      hrefuses (decide_eq_false (Nat.not_le.2 h))
    exact ⟨before, refused, after, hsplit, of_decide_eq_true hbefore,
      Nat.not_le.1 (of_decide_eq_false hrefused), hresult⟩
  · intro r portions hportions console
    rw [writeInTurn_eq, hportions]
    rfl

/-- A manifest with two files. -/
def twoFilesManifest : String := "files:\n- in: a\n  out: b\n- in: a\n  out: c\n"

/-- A limit within the frame of the second file: the first file is echoed in full, the second one in
part, and the run fails with its name. -/
theorem run_limited_within_frame :
    Request.given (smallRequest none).outputDirectory = none ∧
    (run (smallAround twoFilesManifest) (.limited 40) (smallRequest none)).1.console.written =
      (Console.frame "b" "hi N" ++ ">>>>>>> c\nhi N\n").toUTF8.toList ∧
    (run (smallAround twoFilesManifest) (.limited 40) (smallRequest none)).2 =
      .error (.delivery "c" .consoleFull) := by
  have hecho : Request.given (smallRequest none).outputDirectory = none := rfl
  have hgenerated : generated (smallAround twoFilesManifest) (smallRequest none) =
      [⟨"b", "hi N"⟩, ⟨"c", "hi N"⟩] := by
    decide +kernel
  obtain ⟨⟨htext, -⟩, ⟨hwritten, -⟩, -, hcut, -⟩ :=
    @run_limited (smallAround twoFilesManifest) (smallRequest none) hecho 40
  rw [htext, hgenerated] at hwritten hcut
  refine ⟨hecho, ?_, ?_⟩
  · rw [hwritten]
    decide +kernel
  · obtain ⟨before, refused, after, hsplit, hwithin, hbeyond, hresult⟩ := hcut (by decide +kernel)
    rcases before with _ | ⟨first, _ | ⟨second, before⟩⟩
    · -- the first frame ends within the limit
      cases hsplit
      revert hbeyond
      decide +kernel
    · cases hsplit
      exact hresult
    · cases before <;> cases hsplit

end Generation

end Scaffold
