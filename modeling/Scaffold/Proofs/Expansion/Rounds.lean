import Mathlib.Data.List.Infix
import Scaffold.Proofs.Expansion.Reporting

/-!
# The rounds of an expansion

Every round renders once, with the names that are filled in so far. The next one follows if the
render fails and reports a plain name that is new, as long as there is room for it. Nothing is known
of the renderer, which may report what it likes for ever.

The key construction is `fillUndefinedM`, the rounds for a renderer that does something besides
answering; with `noting`, the contexts that it is asked for are written down. Main facts:

* `further?_error_eq_none_iff` : which failures no further round follows;
* `fillUndefined_round` : what one round does;
* `run_fillUndefinedM` : where the rounds end, and the contexts that a renderer is asked for;
* `renderFilled_within_limit` : the rounds end, and what they fill in and answer;
* `length_names_of_reports_new` : the limit is reached if a new name is reported every time.
-/

namespace Scaffold.Expansion

open Template

/-- Plain names are not empty, and have letters, digits and underscores only. -/
theorem isPlainName_toList_iff {name : String} :
    isPlainName name.toList = true ↔
      name ≠ "" ∧ ∀ c ∈ name.toList, Text.isAlphanumeric c = true ∨ c = '_' := by
  simp [isPlainName]

/-! ## One round -/

/-- The name that an answer leaves to be filled in: the one that it reports, if that is new and
there is room for it. -/
def further? (filled : List String) : Except Trace String → Option String
  | .ok _ => none
  | .error trace =>
    match undefinedName? trace with
    | none => none
    | some name => if name ∉ filled ∧ filled.length < fillLimit then some name else none

theorem further?_eq_some_iff {filled : List String} {answer : Except Trace String} {name : String} :
    further? filled answer = some name ↔
      ∃ trace, answer = .error trace ∧ undefinedName? trace = some name ∧ name ∉ filled ∧
        filled.length < fillLimit := by
  cases answer with
  | ok out => simp [further?]
  | error trace =>
    rw [further?]
    cases hname : undefinedName? trace with
    | none => simp [hname]
    | some other =>
      simp only [Option.ite_none_right_eq_some, Option.some.injEq, Except.error.injEq,
        exists_eq_left', hname]
      constructor
      · rintro ⟨⟨hnew, hroom⟩, rfl⟩
        exact ⟨rfl, hnew, hroom⟩
      · rintro ⟨rfl, hnew, hroom⟩
        exact ⟨⟨hnew, hroom⟩, rfl⟩

/-- A failure leaves nothing to be filled in if it reports no name, one that is filled in, or one
for which there is no room. -/
theorem further?_error_eq_none_iff {filled : List String} {trace : Trace} :
    further? filled (.error trace) = none ↔
      undefinedName? trace = none ∨ ∃ name, undefinedName? trace = some name ∧
        (name ∈ filled ∨ name ∉ filled ∧ fillLimit ≤ filled.length) := by
  rw [further?]
  cases undefinedName? trace with
  | none => simp
  | some name =>
    by_cases hname : name ∈ filled <;> simp [hname]

section Rounds

variable (render : Context → Except Trace String) (context : Context)

/-- A round is the last one, or takes one place of the budget for a name. -/
theorem fillUndefined_round {budget : Nat} {filled : List String}
    (hroom : filled.length + budget = fillLimit) :
    (further? filled (render (fillNames context filled)) = none ∧
        fillUndefined render context budget filled =
          ⟨filled, render (fillNames context filled)⟩) ∨
      ∃ name left, further? filled (render (fillNames context filled)) = some name ∧
        budget = left + 1 ∧
        fillUndefined render context budget filled =
          fillUndefined render context left (filled ++ [name]) := by
  cases budget with
  | zero =>
    refine .inl ⟨?_, fillUndefined.eq_1 render context filled⟩
    rw [Option.eq_none_iff_forall_not_mem]
    intro name hname
    obtain ⟨trace, -, -, -, hless⟩ := further?_eq_some_iff.1 hname
    omega
  | succ left =>
    have hless : filled.length < fillLimit := by omega
    rw [fillUndefined]
    cases render (fillNames context filled) with
    | ok out => exact .inl ⟨rfl, rfl⟩
    | error trace =>
      dsimp only [further?]
      cases undefinedName? trace with
      | none => exact .inl ⟨rfl, rfl⟩
      | some name =>
        by_cases hname : name ∈ filled
        · exact .inl (by simp [hname])
        · exact .inr ⟨name, left, by simp [hname, hless], rfl, by simp [hname]⟩

/-- The rounds for a renderer that does something besides answering, with some names filled in
already. -/
def fillUndefinedM {m : Type → Type} [Monad m] (render : Context → m (Except Trace String))
    (context : Context) (filled : List String) : m Filling := do
  let answer ← render (fillNames context filled)
  match _h : further? filled answer with
  | none => pure ⟨filled, answer⟩
  | some name => fillUndefinedM render context (filled ++ [name])
termination_by fillLimit - filled.length
decreasing_by
  -- whatever the renderer does, a name takes one of the places that are left
  obtain ⟨trace, -, -, -, hless⟩ := further?_eq_some_iff.1 _h
  simp only [List.length_append, List.length_singleton]
  omega

/-- A renderer that writes down the contexts that it is asked for. -/
def noting (render : Context → Except Trace String) (context : Context) :
    StateM (List Context) (Except Trace String) := do
  modify (· ++ [context])
  return render context

theorem run_noting_bind {α : Type} (rest : Except Trace String → StateM (List Context) α)
    (asked : List Context) :
    (noting render context >>= rest).run asked =
      (rest (render context)).run (asked ++ [context]) :=
  rfl

/-- A round asks once, and that is all if it is the last one. -/
theorem run_of_further?_eq_none {filled : List String} (asked : List Context)
    (h : further? filled (render (fillNames context filled)) = none) :
    (fillUndefinedM (noting render) context filled).run asked =
      (⟨filled, render (fillNames context filled)⟩, asked ++ [fillNames context filled]) := by
  rw [fillUndefinedM, run_noting_bind]
  split
  · rfl
  · rename_i hfurther
    rw [h] at hfurther
    cases hfurther

/-- Otherwise the other rounds go on with one name more. -/
theorem run_of_further?_eq_some {filled : List String} {name : String} (asked : List Context)
    (h : further? filled (render (fillNames context filled)) = some name) :
    (fillUndefinedM (noting render) context filled).run asked =
      (fillUndefinedM (noting render) context (filled ++ [name])).run
        (asked ++ [fillNames context filled]) := by
  rw [fillUndefinedM, run_noting_bind]
  split
  · rename_i hfurther
    rw [h] at hfurther
    cases hfurther
  · rename_i hfurther
    rw [h] at hfurther
    cases hfurther
    rfl

/-! ## All rounds -/

/-- **The rounds end** where no further name is to be filled in, and the renderer is asked once a
round, each time with one name more of those filled in. -/
theorem run_fillUndefinedM (budget : Nat) (filled : List String) (asked : List Context)
    (hroom : filled.length + budget = fillLimit) :
    ∃ more, (fillUndefined render context budget filled).names = filled ++ more ∧
      further? (fillUndefined render context budget filled).names
        (fillUndefined render context budget filled).result = none ∧
      (fillUndefinedM (noting render) context filled).run asked =
        (fillUndefined render context budget filled,
          asked ++ more.inits.map fun earlier => fillNames context (filled ++ earlier)) := by
  induction budget using Nat.strong_induction_on generalizing filled asked with
  | h budget ih =>
    rcases fillUndefined_round render context hroom with
      ⟨hnone, hlast⟩ | ⟨name, left, hsome, rfl, hnext⟩
    · rw [hlast, run_of_further?_eq_none render context asked hnone]
      exact ⟨[], by simp, hnone, by simp⟩
    · have hroom' : (filled ++ [name]).length + left = fillLimit := by
        simp only [List.length_append, List.length_singleton]
        omega
      obtain ⟨more, hnames, hends, hrun⟩ :=
        ih left (by omega) (filled ++ [name]) (asked ++ [fillNames context filled]) hroom'
      rw [hnext, run_of_further?_eq_some render context asked hsome, hrun]
      refine ⟨name :: more, by rw [hnames, List.append_assoc, List.singleton_append], hends, ?_⟩
      -- this round asks with the names so far, the others with the new name behind them
      rw [List.inits_cons, List.map_cons, List.map_map, List.append_assoc]
      simp [Function.comp_def]

/-- The renderer is asked with none of the names filled in, with the first of them, and so on. -/
theorem run_renderFilled :
    (fillUndefinedM (noting render) context []).run [] =
      (renderFilled render context,
        (renderFilled render context).names.inits.map (fillNames context)) := by
  obtain ⟨more, hnames, -, hrun⟩ := run_fillUndefinedM render context fillLimit [] [] rfl
  rw [← renderFilled, List.nil_append] at hnames
  rw [hrun, ← renderFilled, hnames]
  rfl

theorem further?_renderFilled :
    further? (renderFilled render context).names (renderFilled render context).result = none := by
  obtain ⟨-, -, hends, -⟩ := run_fillUndefinedM render context fillLimit [] [] rfl
  exact hends

/-- The names that are filled in are distinct, and each is reported with those before it. -/
theorem names_renderFilled :
    (renderFilled render context).names.Nodup ∧
      ∀ earlier name later, (renderFilled render context).names = earlier ++ name :: later →
        ∃ trace, render (fillNames context earlier) = .error trace ∧
          undefinedName? trace = some name := by
  obtain ⟨more, hnames, hnodup, hreports⟩ := fillUndefined_reports render context fillLimit []
  rw [← renderFilled, List.nil_append] at hnames
  rw [hnames]
  exact ⟨hnodup List.nodup_nil, hreports⟩

theorem isPlainName_of_mem_names {name : String} (h : name ∈ (renderFilled render context).names) :
    isPlainName name.toList = true := by
  obtain ⟨earlier, later, hsplit⟩ := List.append_of_mem h
  obtain ⟨trace, -, hreport⟩ := (names_renderFilled render context).2 earlier name later hsplit
  exact isPlainName_of_undefinedName? hreport

/-! ## What the rounds come to -/

/-- Filling names in binds them to the empty text, and nothing else. -/
theorem get?_fillNames (names : List String) (name : String) :
    (fillNames context names).get? name =
      if name ∈ names then some (.string "") else context.get? name := by
  split
  · exact get?_fillNames_of_mem context ‹_›
  · exact get?_fillNames_of_not_mem context ‹_›

/-- **The rounds end for every renderer**, which is asked 65 times at most: with none of the names
filled in, with the first of them, and so on up to all of them. The names are distinct and plain, 64
at most, and each was reported with those before it filled in. The answer is what the renderer says
with all of them filled in and nothing else changed; if that is a failure, it reports no name, one
that is filled in, or one beyond the 64th. -/
theorem renderFilled_within_limit :
    ∃ (names : List String) (result : Except Trace String) (asked : List Context),
      renderFilled render context = ⟨names, result⟩ ∧
      (fillUndefinedM (noting render) context []).run [] = (⟨names, result⟩, asked) ∧
      asked = names.inits.map (fillNames context) ∧ asked.length ≤ 65 ∧
      names.length ≤ 64 ∧ names.Nodup ∧
      (∀ name ∈ names, name ≠ "" ∧ ∀ c ∈ name.toList, Text.isAlphanumeric c = true ∨ c = '_') ∧
      (∀ earlier name later, names = earlier ++ name :: later →
        ∃ trace, render (fillNames context earlier) = .error trace ∧
          undefinedName? trace = some name) ∧
      (∀ name, (fillNames context names).get? name =
        if name ∈ names then some (.string "") else context.get? name) ∧
      render (fillNames context names) = result ∧
      ∀ trace, result = .error trace →
        undefinedName? trace = none ∨ ∃ name, undefinedName? trace = some name ∧
          (name ∈ names ∨ name ∉ names ∧ names.length = 64) := by
  obtain ⟨hnodup, hreports⟩ := names_renderFilled render context
  have hfew : (renderFilled render context).names.length ≤ 64 := filled_length_le render context
  refine ⟨(renderFilled render context).names, (renderFilled render context).result, _, rfl,
    run_renderFilled render context, rfl, ?_, hfew, hnodup, ?_, hreports,
    get?_fillNames context _, (result_eq render context).symm, ?_⟩
  · rw [List.length_map, List.length_inits]
    omega
  · intro name hname
    exact isPlainName_toList_iff.1 (isPlainName_of_mem_names render context hname)
  · intro trace htrace
    have hends := further?_renderFilled render context
    rw [htrace, further?_error_eq_none_iff] at hends
    rcases hends with hnone | ⟨name, hname, hmem | ⟨hnew, hfull⟩⟩
    · exact .inl hnone
    · exact .inr ⟨name, hname, .inl hmem⟩
    · exact .inr ⟨name, hname, .inr ⟨hnew, le_antisymm hfew hfull⟩⟩

/-- A name that is reported for ever is filled in once. -/
example : renderFilled (fun _ => .error ["Variable `x`"]) [] =
    ⟨["x"], .error ["Variable `x`"]⟩ := by
  rfl

/-- **The limit is reached** if the renderer reports a new name every time. -/
theorem length_names_of_reports_new
    (h : ∀ names : List String, ∃ trace name, render (fillNames context names) = .error trace ∧
      undefinedName? trace = some name ∧ name ∉ names) :
    (renderFilled render context).names.length = fillLimit := by
  obtain ⟨trace, name, hrender, hname, hnew⟩ := h (renderFilled render context).names
  have hends := further?_renderFilled render context
  rw [result_eq, hrender] at hends
  by_contra hlength
  -- there would be room for the name that the last render reports
  have hroom : (renderFilled render context).names.length < fillLimit :=
    lt_of_le_of_ne (filled_length_le render context) hlength
  have hmore := further?_eq_some_iff.2 ⟨trace, rfl, hname, hnew, hroom⟩
  rw [hends] at hmore
  cases hmore

/-- So it is by one that goes on counting. -/
example : (renderFilled (fun context => .error ["Variable `" ++ toString context.length ++ "`"])
    []).names.length = fillLimit := by
  decide +kernel

end Rounds

end Scaffold.Expansion
