import Mathlib.Data.List.Induction
import Scaffold.Proofs.Expansion.Reporting
import Scaffold.Proofs.Template.Calls

/-!
# Functions registered one after another

What a registry holds after any series of registrations, and which function a template calls then.
Main facts:

* `Registry.names_ofList` : the names are in the order of first registration;
* `Registry.find?_ofList` : the last function registered under a name is found;
* `expandText_calling` : a template that prints a call depends on the function of this name only;
* `registered_last_is_called` : the call runs the function that was registered last, and does not
  change with other names;
* `expandText_calling_trueish` : there is a name that is registered and cannot be called.
-/

namespace Scaffold

open Template
open Grammar (IsCallable isIdentifier)

/-! ## Registries -/

namespace Registry

variable {n m : String} {f g : Function} (registrations : List (String × Function))

/-- A series of registrations ends with its last one. -/
theorem ofList_concat (n : String) (f : Function) :
    ofList (registrations ++ [(n, f)]) = (ofList registrations).register n f := by
  rw [ofList, List.foldl_append]
  rfl

/-- **Every name is there once**, where it was registered first. -/
theorem names_ofList :
    (ofList registrations).names = (registrations.map fun r => r.1).eraseDups := by
  induction registrations using List.reverseRecOn with
  | nil => rfl
  | append_singleton registrations last ih =>
    obtain ⟨n, f⟩ := last
    rw [ofList_concat, names_register, ih, List.map_append, List.eraseDups_append]
    simp only [List.mem_eraseDups, List.map_cons, List.map_nil]
    -- a name that is there already keeps its place, and a new one comes last
    by_cases hn : n ∈ registrations.map fun r => r.1
    · simp [List.removeAll, hn]
    · simp [List.removeAll, hn, List.eraseDups_cons]

theorem contains_ofList :
    (ofList registrations).contains n = true ↔ n ∈ registrations.map fun r => r.1 := by
  rw [contains, names_ofList, List.contains_iff_mem, List.mem_eraseDups]

/-- **The last function registered under a name** is found. -/
theorem find?_ofList {after : List (String × Function)} (h : n ∉ after.map fun r => r.1) :
    (ofList (registrations ++ (n, f) :: after)).find? n = some f := by
  induction after using List.reverseRecOn with
  | nil => rw [ofList_concat, find?_register, if_pos rfl]
  | append_singleton after last ih =>
    obtain ⟨m, g⟩ := last
    simp only [List.map_append, List.map_cons, List.map_nil, List.mem_append, List.mem_singleton,
      not_or] at h
    -- what is registered last has another name
    rw [← List.cons_append, ← List.append_assoc, ofList_concat, find?_register,
      if_neg (Ne.symm h.2), ih h.1]

end Registry

namespace Expansion

variable {registry : Registry} {n m : String} {f : Function}

/-! ## Calls -/

/-- A function of the registry comes before those that are there in every template. -/
theorem functionFor_of_find? (h : registry.find? n = some f) (around : Surroundings) :
    functionFor registry around n = some f := by
  rw [functionFor, h]

/-- Registering a function leaves other names alone. -/
theorem functionFor_register (hne : m ≠ n) (f : Function) (around : Surroundings) :
    functionFor (registry.register n f) around m = functionFor registry around m := by
  rw [functionFor, Registry.find?_register, if_neg (Ne.symm hne), functionFor]

/-- **A template that prints a call** depends on the function of this name only. -/
theorem expandText_calling (hn : IsCallable n) (registry : Registry) (around : Surroundings)
    (name : String) (fields : Fields) :
    expandText registry around name (calling n) fields =
      (renderFilled
        (fun context => answerOf (drawnByCall around.chance context) (givenName name) n
          (functionFor registry around n))
        (contextOf fields)).result.mapError (.unrendered (givenName name)) := by
  have hrender : (Engine.mk ⟨givenName name, [callNode n]⟩ (functionFor registry around)
      around.chance).render = _ :=
    funext (render_calling (givenName name) n (functionFor registry around) around.chance)
  rw [expandText_of_page (read?_calling hn (givenName name)), hrender]

/-- Its text is that of what the function gives, for what it draws in the last render. -/
theorem exists_drawn_expandText_calling (hn : IsCallable n) (registry : Registry)
    (around : Surroundings) (name : String) (fields : Fields) :
    ∃ drawn, expandText registry around name (calling n) fields =
      (answerOf drawn (givenName name) n (functionFor registry around n)).mapError
        (.unrendered (givenName name)) := by
  rw [expandText_calling hn, result_eq]
  exact ⟨_, rfl⟩

/-- **A template calls the function that was registered last.** After any series of registrations
the names are in the order in which they were first registered, and these are the names that the
registry has. Under each of them it is the last function that a call runs, and that a template
prints the value of if the name can be called; what a function has failed with is reported. No other
name changes when one more function is registered. -/
theorem registered_last_is_called (registrations : List (String × Function)) :
    (Registry.ofList registrations).names = (registrations.map fun r => r.1).eraseDups ∧
    (∀ n, (Registry.ofList registrations).contains n = true ↔
      n ∈ registrations.map fun r => r.1) ∧
    (∀ before n f after, registrations = before ++ (n, f) :: after →
      n ∉ after.map (fun r => r.1) → ∀ around,
      functionFor (Registry.ofList registrations) around n = some f ∧
      (∀ env chance frames, env.function? = functionFor (Registry.ofList registrations) around →
        Call.run env chance frames (.mk n []) =
          match f (chance.branch 1) [] with
          | .ok v => .ok v
          | .error causes =>
            (env.scope frames).stop (.failure (.functionFailed n) :: causes.map .said)) ∧
      (IsCallable n → ∀ name fields, ∃ drawn,
        expandText (Registry.ofList registrations) around name (calling n) fields =
          match f drawn [] with
          | .ok v => .ok v.text
          | .error causes => .error (.unrendered (givenName name)
              (headline (givenName name) none :: (Failure.functionFailed n).message :: causes)))) ∧
    (∀ n f m, m ≠ n →
      (Registry.ofList (registrations ++ [(n, f)])).contains m =
        (Registry.ofList registrations).contains m ∧
      ∀ around, functionFor (Registry.ofList (registrations ++ [(n, f)])) around m =
          functionFor (Registry.ofList registrations) around m ∧
        (IsCallable m → ∀ name fields,
          expandText (Registry.ofList (registrations ++ [(n, f)])) around name (calling m) fields =
            expandText (Registry.ofList registrations) around name (calling m) fields)) := by
  refine ⟨Registry.names_ofList registrations, fun n => Registry.contains_ofList registrations,
    ?last, ?others⟩
  case last =>
    rintro before n f after rfl hlast around
    have hfunction : functionFor (Registry.ofList (before ++ (n, f) :: after)) around n = some f :=
      functionFor_of_find? (Registry.find?_ofList before hlast) around
    refine ⟨hfunction, fun env chance frames henv => ?_, fun hn name fields => ?_⟩
    · exact run_call (henv ▸ hfunction)
    · obtain ⟨drawn, hexpand⟩ := exists_drawn_expandText_calling hn _ around name fields
      refine ⟨drawn, ?_⟩
      rw [hexpand, hfunction, answerOf]
      cases f drawn [] <;> rfl
  case others =>
    intro n f m hne
    have hfunction : ∀ around, functionFor (Registry.ofList (registrations ++ [(n, f)])) around m =
        functionFor (Registry.ofList registrations) around m := by
      intro around
      rw [Registry.ofList_concat, functionFor_register hne]
    refine ⟨?_, fun around => ⟨hfunction around, fun hm name fields => ?_⟩⟩
    · rw [Bool.eq_iff_iff, Registry.contains_ofList, Registry.contains_ofList]
      simp [hne]
    · rw [expandText_calling hm, hfunction, expandText_calling hm]

/-- A function that always gives the same text. -/
def constant (s : String) : Function := fun _ _ => .ok (.string s)

/-- One of the names is that of a function that is there in every template. -/
def greetings : List (String × Function) :=
  [("range", constant "hello"), ("other", constant "x"), ("range", constant "hi")]

/-- Its name keeps its place, and the function that was registered last is called. -/
theorem registered_last_is_called_range :
    ("range" ∉ ([] : List (String × Function)).map (fun r => r.1) ∧ IsCallable "range" ∧
      "other" ≠ "range" ∧ IsCallable "other") ∧
    (Registry.ofList greetings).names = ["range", "other"] ∧
    expandText (Registry.ofList greetings) nowhere "t" (calling "range") .empty = .ok "hi" ∧
    expandText (Registry.ofList (greetings ++ [("range", constant "")])) nowhere "t"
        (calling "other") .empty =
      expandText (Registry.ofList greetings) nowhere "t" (calling "other") .empty := by
  have hrange : IsCallable "range" := by decide
  have hother : IsCallable "other" := by decide
  obtain ⟨hnames, -, hlast, hothers⟩ := registered_last_is_called greetings
  refine ⟨⟨by simp, hrange, by decide, hother⟩, ?_, ?_, ?_⟩
  · rw [hnames]
    decide
  · obtain ⟨drawn, hcalled⟩ := (hlast [("range", constant "hello"), ("other", constant "x")]
      "range" (constant "hi") [] rfl (by simp) nowhere).2.2 hrange "t" .empty
    simpa [constant] using hcalled
  · exact ((hothers "range" (constant "") "other" (by decide)).2 nowhere).2 hother "t" .empty

/-- **A name that begins like a truth value cannot be called**, although its function is found. -/
theorem expandText_calling_trueish :
    isIdentifier "trueish" = true ∧
      functionFor (Registry.ofList [("trueish", constant "x")]) nowhere "trueish" =
        some (constant "x") ∧
      expandText (Registry.ofList [("trueish", constant "x")]) nowhere "t" (calling "trueish")
        .empty = .error (.malformed "t" (nowhere.complaint "t" (calling "trueish"))) := by
  have hpage : Page.read? (givenName "t") (calling "trueish") = none := by
    rw [← Option.isNone_iff_eq_none]
    decide +kernel
  refine ⟨by decide, rfl, ?_⟩
  unfold expandText
  dsimp only
  rw [hpage]
  rfl

end Expansion

end Scaffold
