import Scaffold.CommandLine.Order

/-!
# What arguments and environment give

The arguments of the command line are read one after the other, each of them gives a flag, a value
or a word, and a variable of the environment then stands in for a path that they do not give. What
every single gift keeps is kept by all of them: `Given.Stays` is such a property. Main facts:

* `Given.Stays.ofArguments` : what stays and holds of nothing holds of what any arguments give;
* `Given.PathsNonempty.ofArguments` : arguments that are accepted give no empty path;
* `value?_of_order` : an order has a value from the arguments, or else from the environment.
-/

namespace Scaffold.CommandLine

/-! ## Reading arguments -/

section Reading

variable {holds : Given → Prop} {given after : Given} {progress next : Progress}

theorem exists_of_bind_eq_ok {α β : Type} {x : Except Stop α} {f : α → Except Stop β} {b : β}
    (h : x.bind f = .ok b) : ∃ a, x = .ok a ∧ f a = .ok b := by
  cases x with
  | error stop => cases h
  | ok a => exact ⟨a, rfl, h⟩

theorem exists_of_map_eq_ok {α β : Type} {x : Except Stop α} {f : α → β} {b : β}
    (h : x.map f = .ok b) : ∃ a, x = .ok a ∧ f a = b := by
  cases x with
  | error stop => cases h
  | ok a => exact ⟨a, rfl, Except.ok.inj h⟩

/-- A property of what has been given that stays when more is given. -/
structure Given.Stays (holds : Given → Prop) : Prop where
  flag {given after : Given} {flag : Flag} :
    holds given → given.addFlag flag = .ok after → holds after
  value {given after : Given} {parameter : Parameter} {value : String} :
    holds given → given.addValue parameter value = .ok after → holds after
  word {given after : Given} {word : String} :
    holds given → given.addWord word = .ok after → holds after

namespace Given.Stays

theorem value_after (stays : Stays holds) {parameter : Parameter} {value : String}
    (hgiven : holds given) (h : (given.addValue parameter value).map Progress.after = .ok next) :
    holds next.given := by
  obtain ⟨after, hafter, rfl⟩ := exists_of_map_eq_ok h
  exact stays.value hgiven hafter

/-- By induction on the letters: each of them gives a flag, or a value is the last thing given. -/
theorem letters (stays : Stays holds) {cs : List Char} (hgiven : holds given)
    (h : Progress.letters given cs = .ok next) : holds next.given := by
  induction cs generalizing given with
  | nil =>
    cases h
    exact hgiven
  | cons c cs ih =>
    rw [Progress.letters.eq_def] at h
    dsimp only at h
    split at h
    · cases h
    · -- a flag, and the letters behind it
      obtain ⟨after, hafter, hrest⟩ := exists_of_bind_eq_ok h
      exact ih (stays.flag hgiven hafter) hrest
    · -- a parameter, whose value is the next argument or stands behind it
      split at h
      · cases h
        exact hgiven
      · exact stays.value_after hgiven h
      · exact stays.value_after hgiven h

theorem name (stays : Stays holds) {cs : List Char} (hgiven : holds given)
    (h : Progress.name given cs = .ok next) : holds next.given := by
  unfold Progress.name at h
  dsimp only at h
  split at h
  · cases h
  · obtain ⟨after, hafter, rfl⟩ := exists_of_map_eq_ok h
    exact stays.flag hgiven hafter
  · cases h
  · cases h
    exact hgiven
  · exact stays.value_after hgiven h

/-- One argument is a word, the value of an option, or options. -/
theorem read (stays : Stays holds) {argument : String} (hgiven : holds progress.given)
    (h : progress.read argument = .ok next) : holds next.given := by
  have hword : (progress.given.addWord argument).map (fun given => { progress with given := given })
      = .ok next → holds next.given := by
    intro hnext
    obtain ⟨after, hafter, rfl⟩ := exists_of_map_eq_ok hnext
    exact stays.word hgiven hafter
  unfold Progress.read at h
  dsimp only at h
  split at h
  · exact hword h
  · split at h
    · cases h
    · cases h
      exact hgiven
    · exact stays.name hgiven h
    · exact stays.letters hgiven h
    · exact stays.value_after hgiven h
    · exact hword h

theorem readAll (stays : Stays holds) {arguments : List String} (hgiven : holds progress.given)
    (h : progress.readAll arguments = .ok next) : holds next.given := by
  induction arguments generalizing progress with
  | nil =>
    cases h
    exact hgiven
  | cons argument arguments ih =>
    rw [Progress.readAll, List.foldlM_cons] at h
    obtain ⟨one, hone, hrest⟩ := exists_of_bind_eq_ok h
    exact ih (stays.read hgiven hone) hrest

/-- **What stays and holds of nothing holds of everything that arguments give.** -/
theorem ofArguments (stays : Stays holds) (hempty : holds .empty) {arguments : List String}
    (h : Given.ofArguments arguments = .ok given) : holds given := by
  unfold Given.ofArguments at h
  split at h
  · cases h
  next hread =>
    have hstart : holds Progress.start.given := hempty
    split at h
    · cases h
    · cases h
      exact stays.readAll hstart hread

theorem complete (stays : Stays holds) {environment : List (String × String)}
    {parameter : Parameter} (hgiven : holds given)
    (h : given.complete environment parameter = .ok after) : holds after := by
  unfold Given.complete at h
  split at h
  · exact stays.value hgiven h
  · cases h
    exact hgiven

end Given.Stays

end Reading

/-! ## Paths that are given -/

/-- No path that has been given is empty. -/
def Given.PathsNonempty (given : Given) : Prop :=
  ∀ parameter value, (parameter, value) ∈ given.values → parameter.isPath = true → value ≠ ""

theorem Given.addValue_eq_ok {given after : Given} {parameter : Parameter} {value : String}
    (h : given.addValue parameter value = .ok after) :
    ¬ (parameter.isPath = true ∧ value = "") ∧
      after = { given with values := given.values ++ [(parameter, value)] } := by
  unfold Given.addValue at h
  split at h
  · cases h
  next hvalue =>
    split at h
    · cases h
    · exact ⟨hvalue, (Except.ok.inj h).symm⟩

/-- An empty path is refused, and flags and words are no paths. -/
theorem Given.stays_pathsNonempty : Given.Stays Given.PathsNonempty where
  flag := by
    intro given after flag hgiven h
    unfold Given.addFlag at h
    split at h
    · cases h
    · split at h
      · cases h
      · cases h
        exact hgiven
  value := by
    intro given after parameter value hgiven h
    obtain ⟨hvalue, rfl⟩ := Given.addValue_eq_ok h
    intro p v hmem hpath
    rcases List.mem_append.1 hmem with hmem | hmem
    · exact hgiven p v hmem hpath
    · cases List.mem_singleton.1 hmem
      intro hempty
      exact hvalue ⟨hpath, hempty⟩
  word := by
    intro given after word hgiven h
    unfold Given.addWord at h
    split at h
    · split at h
      · cases h
        exact hgiven
      · cases h
    · cases h
      exact hgiven
    · cases h

/-- **Arguments that are accepted give no empty path.** -/
theorem Given.PathsNonempty.ofArguments {given : Given} {arguments : List String}
    (h : Given.ofArguments arguments = .ok given) : given.PathsNonempty := by
  refine Given.stays_pathsNonempty.ofArguments ?_ h
  intro parameter value hmem
  cases hmem

theorem Given.PathsNonempty.ne_empty {given : Given} (h : given.PathsNonempty)
    {parameter : Parameter} (hpath : parameter.isPath = true) {value : String}
    (hvalue : given.value? parameter = some value) : value ≠ "" := by
  obtain ⟨before, after, hvalues, -⟩ := List.lookup_eq_some_iff.1 hvalue
  exact h parameter value (by rw [hvalues]; simp) hpath

/-! ## Variables of the environment -/

/-- The value that the environment has for a parameter. -/
def Parameter.inEnvironment? (environment : List (String × String)) (parameter : Parameter) :
    Option String :=
  parameter.variable?.bind (List.lookup · environment)

/-- A value that is given counts only if there is none yet. -/
theorem Given.value?_of_addValue {given after : Given} {parameter : Parameter} {value : String}
    (h : given.addValue parameter value = .ok after) (other : Parameter) :
    after.value? other =
      (given.value? other).or (if other = parameter then some value else none) := by
  obtain ⟨-, rfl⟩ := Given.addValue_eq_ok h
  rw [Given.value?, List.lookup_append, ← Given.value?]
  congr 1
  by_cases hother : other = parameter
  · rw [if_pos hother, hother, List.lookup_cons, beq_self_eq_true]
  · rw [if_neg hother, List.lookup_cons, beq_false_of_ne hother]
    rfl

/-- Completing what has been given adds the value of a variable at most. -/
theorem Given.value?_complete {environment : List (String × String)} {given after : Given}
    {parameter : Parameter} (h : given.complete environment parameter = .ok after)
    (other : Parameter) :
    after.value? other = (given.value? other).or
      (if other = parameter then parameter.inEnvironment? environment else none) := by
  unfold Given.complete at h
  split at h
  next value hnone hvalue =>
    rw [Given.value?_of_addValue h, Parameter.inEnvironment?, hvalue]
  next hcases =>
    cases h
    by_cases hother : other = parameter
    · subst hother
      rw [if_pos rfl, Parameter.inEnvironment?]
      -- either there is a value already, or the environment has none
      cases hvalue : given.value? other with
      | some value => rfl
      | none =>
        cases henvironment : other.variable?.bind (List.lookup · environment) with
        | none => rfl
        | some value => exact (hcases value hvalue henvironment).elim
    · rw [if_neg hother, Option.or_none]

/-- **What an order has a value for** is what the arguments give one for, or else the environment.
None of its paths is empty. -/
theorem value?_of_order {environment : List (String × String)} {rest : List String}
    {order : Order} (h : Order.ofArguments environment rest = .ok order) :
    ∃ given, Given.ofArguments rest = .ok given ∧ order.given.PathsNonempty ∧
      ∀ parameter, order.given.value? parameter =
        (given.value? parameter).or (parameter.inEnvironment? environment) := by
  obtain ⟨given, hgiven, h⟩ := exists_of_bind_eq_ok h
  obtain ⟨first, hfirst, h⟩ := exists_of_bind_eq_ok h
  obtain ⟨second, hsecond, h⟩ := exists_of_bind_eq_ok h
  obtain ⟨third, hthird, h⟩ := exists_of_bind_eq_ok h
  have horder : order.given = third := by
    split at h
    · cases h
      rfl
    · cases h
  refine ⟨given, hgiven, ?_, fun parameter => ?_⟩
  · rw [horder]
    have stays := Given.stays_pathsNonempty
    exact stays.complete (stays.complete (stays.complete
      (Given.PathsNonempty.ofArguments hgiven) hfirst) hsecond) hthird
  · rw [horder, Given.value?_complete hthird, Given.value?_complete hsecond,
      Given.value?_complete hfirst]
    cases parameter <;> simp [Parameter.inEnvironment?, Parameter.variable?]

end Scaffold.CommandLine
