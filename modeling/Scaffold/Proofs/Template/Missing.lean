import Scaffold.Template.Render
import Scaffold.Proofs.Template.Lookup

/-!
# What a template says to be missing

A render that fails hands its causes through expressions, calls, macros, loops and inserted pages.
The key notion is `Truthful`: whenever a cause of a failure says that a name is missing, the name
is not in the context. Main facts:

* `Expr.eval_truthful` and the lemmas next to it : evaluating is truthful, whatever is assigned
  around;
* `renderNode_truthful` and the lemmas next to it : so is rendering;
* `renderBodies_truthful` : so is rendering a page, however deeply macros and inserted pages call
  each other.
-/

namespace Scaffold.Template

/-- If an outcome is a failure that says that a name is missing, the name is not in the context. -/
def Truthful {α : Type} (context : Context) (r : Result α) : Prop :=
  ∀ fault, r = .error fault → ∀ u, Cause.unresolved u ∈ fault.causes →
    ∀ name : String, '.' ∉ name.toList → u.Misses name → context.get? name = none

namespace Truthful

variable {α β : Type} {context : Context} {scope : Scope}

/-- An answer says nothing. -/
theorem pure (a : α) : Truthful context (Pure.pure a : Result α) := by
  intro fault h
  cases h

/-- A failure that is none of a look-up says nothing. -/
theorem fail (failure : Failure) : Truthful context (scope.fail failure : Result α) := by
  intro fault h u hu
  cases h
  simp at hu

/-- What a function says of names does not count. -/
theorem stop_said (failure : Failure) (messages : List String) :
    Truthful context (scope.stop (.failure failure :: messages.map .said) : Result α) := by
  intro fault h u hu
  cases h
  simp at hu

theorem lift (x : Except Failure α) : Truthful context (scope.lift x) := by
  cases x with
  | ok a => exact .pure a
  | error failure => exact .fail failure

/-- **A failed look-up** tells the truth. -/
theorem stop_unresolved {path : String} {u : Unresolved} (h : scope.resolve path = .error u) :
    Truthful scope.context (scope.stop [.unresolved u] : Result α) := by
  intro fault hfault u' hu' name hname hmisses
  cases hfault
  rw [List.mem_singleton] at hu'
  cases hu'
  exact Scope.misses_of_resolve h hname hmisses

theorem value (path : String) : Truthful scope.context (scope.value path) := by
  unfold Scope.value
  split
  · exact .pure _
  · rename_i u hresolve
    exact .stop_unresolved hresolve

/-- Two truthful steps are truthful. -/
theorem bind {r : Result α} {f : α → Result β} (hr : Truthful context r)
    (hf : ∀ a, Truthful context (f a)) : Truthful context (r >>= f) := by
  intro fault h
  rcases eq_error_of_bind h with h | ⟨a, -, h⟩
  · exact hr fault h
  · exact hf a fault h

theorem causing {r : Result α} (hr : Truthful context r) (failure : Failure) :
    Truthful context (Result.causing failure r) := by
  cases r with
  | ok a => exact .pure a
  | error fault =>
    intro fault' h u hu
    cases h
    rcases List.mem_cons.1 hu with hu | hu
    · cases hu
    · exact hr fault rfl u hu

theorem outermostOnly {r : Result α} (hr : Truthful context r) :
    Truthful context (Template.outermostOnly r) := by
  cases r with
  | ok a => exact .pure a
  | error fault =>
    intro fault' h u hu
    cases h
    exact hr fault rfl u (List.mem_of_mem_take hu)

end Truthful

/-! ## Parts of expressions -/

variable {env : Env} {chance : Chance} {frames : List Frame}

/-- A default value that a filter supplies is truthful. -/
def FallbackTruthful (context : Context) (fallback : Option (Option (Result Value))) : Prop :=
  ∀ v, fallback = some (some v) → Truthful context v

theorem nameValue_truthful {scope : Scope} {path : String} {negated : Bool}
    {fallback : Unit → Option (Option (Result Value))} {filtered : Value → Result Value}
    (hfallback : FallbackTruthful scope.context (fallback ()))
    (hfiltered : ∀ v, Truthful scope.context (filtered v)) :
    Truthful scope.context (nameValue scope path negated fallback filtered) := by
  have hfinish : ∀ v, Truthful scope.context (do
      let v ← filtered v
      pure (if negated then .bool !v.truthy else v) : Result Value) :=
    fun v => (hfiltered v).bind fun w => .pure _
  unfold nameValue
  dsimp only
  -- a default steps in, a default lacks its value, or the look-up counts
  split
  · rename_i v hv
    rw [Option.ite_none_right_eq_some] at hv
    exact (hfallback v hv.2).bind hfinish
  · exact .fail _
  · split
    · exact hfinish _
    · rename_i u hresolve
      split
      · exact .pure _
      · exact .stop_unresolved hresolve

theorem combineTruth_truthful {context : Context} (op : LogicOp) {lhs rhs : Unit → Result Bool}
    (hl : Truthful context (lhs ())) (hr : Truthful context (rhs ())) :
    Truthful context (combineTruth op lhs rhs) := by
  refine hl.bind fun l => ?_
  split
  · exact .pure _
  · exact .pure _
  · exact hr

theorem compareTruth_truthful {scope : Scope} (negated : Bool) (op : CompareOp)
    {lhsValue rhsValue : Unit → Result Value} {lhsNumber rhsNumber : Unit → Result (Option Number)}
    (hlv : Truthful scope.context (lhsValue ())) (hrv : Truthful scope.context (rhsValue ()))
    (hln : Truthful scope.context (lhsNumber ())) (hrn : Truthful scope.context (rhsNumber ())) :
    Truthful scope.context
      (compareTruth scope negated op lhsValue rhsValue lhsNumber rhsNumber) := by
  cases op with
  | eq | ne =>
    unfold compareTruth
    refine hlv.bind fun l => hrv.bind fun r => ?_
    split
    · exact .pure _
    · exact .pure _
  | lt | le | gt | ge =>
    unfold compareTruth
    exact hln.bind fun l => hrn.bind fun r => (Truthful.lift _).bind fun b => .pure _

theorem memberTruth_truthful {scope : Scope} (negated : Bool) {item container : Result Value}
    (hi : Truthful scope.context item) (hc : Truthful scope.context container) :
    Truthful scope.context (memberTruth scope negated item container) :=
  hi.bind fun _ => hc.bind fun _ => (Truthful.lift _).bind fun _ => .pure _

theorem testTruth_truthful {scope : Scope} (negated : Bool) (path tester : String)
    {args : Result (List Value)} (hargs : Truthful scope.context args) :
    Truthful scope.context (testTruth scope negated path tester args) := by
  unfold testTruth
  split
  · exact .fail _
  · exact (hargs.causing _).bind fun vs => ((Truthful.lift _).causing _).bind fun b => .pure _

/-- Named arguments are truthful if each of their outcomes is. -/
def AllTruthful (context : Context) (given : List (String × Result Value)) : Prop :=
  ∀ arg ∈ given, Truthful context arg.2

theorem arguments_truthful {context : Context} {given : List (String × Result Value)}
    (h : AllTruthful context given) : Truthful context (arguments chance given) := by
  intro fault hfault
  obtain ⟨arg, harg, hargFault⟩ := mem_of_arguments hfault
  exact h arg harg fault hargFault

/-- An outcome found under a name is one of the outcomes. -/
theorem AllTruthful.lookup {context : Context} {given : List (String × Result Value)}
    (h : AllTruthful context given) {name : String} {v : Result Value}
    (hv : given.lookup name = some v) : Truthful context v := by
  induction given with
  | nil => cases hv
  | cons arg rest ih =>
    rw [List.lookup_cons] at hv
    split at hv
    · cases hv
      exact h arg List.mem_cons_self
    · exact ih (fun other hother => h other (List.mem_cons_of_mem _ hother)) hv

theorem callFunction_truthful (name : String) {given : List (String × Result Value)}
    (h : AllTruthful env.context given) :
    Truthful env.context (callFunction env chance frames name given) := by
  unfold callFunction
  split
  · exact .fail _
  · refine ((arguments_truthful h).causing _).bind fun vs => ?_
    split
    · exact .pure _
    · exact .stop_said _ _

theorem callFilter_truthful (v : Value) (name : String) {given : List (String × Result Value)}
    (h : AllTruthful env.context given) :
    Truthful env.context (callFilter env chance frames v name given) := by
  unfold callFilter
  split
  · exact .fail _
  · exact ((arguments_truthful h).causing _).bind fun vs => (Truthful.lift _).causing _

theorem callMacro_truthful
    (henv : ∀ chance frames nodes, Truthful env.context (env.body chance frames nodes))
    (space name : String) {given : List (String × Result Value)}
    (h : AllTruthful env.context given) :
    Truthful env.context (callMacro env chance frames space name given) := by
  unfold callMacro
  split
  · exact .fail _
  · split
    · exact .fail _
    · -- the parameters take the arguments given, then the body is rendered
      refine (arguments_truthful fun arg harg => ?_).bind fun assigned =>
        (henv _ _ _).bind fun out => .pure _
      obtain ⟨⟨param, fallback⟩, -, rfl⟩ := List.mem_map.1 harg
      dsimp only
      split
      · rename_i v _ hv
        exact h.lookup hv
      · exact .pure _
      · exact .fail _

theorem concatResult_truthful {scope : Scope} (failure : Failure) {v : Result Value}
    (hv : Truthful scope.context v) : Truthful scope.context (concatResult scope failure v) := by
  refine hv.bind fun v => ?_
  split
  · exact .pure _
  · exact .fail _

theorem numberResult_truthful {scope : Scope} (failure : Failure) {v : Result Value}
    (hv : Truthful scope.context v) : Truthful scope.context (numberResult scope failure v) := by
  refine hv.bind fun v => ?_
  split
  · exact .pure _
  · exact .fail _

/-! ## Expressions -/

section Syntax

set_option linter.unusedSectionVars false

-- Bodies that are found by name are not part of the syntax: what they say is assumed here and
-- supplied by the induction on the depth in `renderBodies_truthful`.
variable (henv : ∀ chance frames nodes, Truthful env.context (env.body chance frames nodes))
include henv

mutual

/-- **Evaluating an expression is truthful.** -/
theorem Expr.eval_truthful {chance : Chance} :
    (e : Expr) → Truthful env.context (e.eval env chance frames)
  | .mk operand negated filters => by
    by_cases hname : ∃ path, operand = .name path
    · obtain ⟨path, rfl⟩ := hname
      rw [Expr.eval]
      exact nameValue_truthful (fallbackOf_truthful filters) (applyFilters_truthful filters)
    · rw [Expr.eval.eq_2 _ _ _ _ _ _ fun path h => hname ⟨path, h⟩]
      exact (Operand.eval_truthful negated operand).bind fun v =>
        (applyFilters_truthful filters v).bind fun w => .pure _

theorem Operand.eval_truthful {chance : Chance} (negated : Bool) :
    (operand : Operand) → Truthful env.context (operand.eval env chance frames negated)
  | .text s => .pure _
  | .int n => .pure _
  | .float x => .pure _
  | .bool b => .pure _
  | .name path => by
    rw [Operand.eval]
    exact .value path
  | .math op lhs rhs => by
    rw [Operand.eval]
    exact ((Expr.number_truthful lhs).bind fun l => (Expr.number_truthful rhs).bind fun r =>
      (Truthful.lift _).bind fun n => .pure _).outermostOnly
  | .compare op lhs rhs => by
    rw [Operand.eval]
    exact (compareTruth_truthful negated op (Expr.eval_truthful lhs) (Expr.eval_truthful rhs)
      (Expr.number_truthful lhs) (Expr.number_truthful rhs)).bind fun b => .pure _
  | .logic op lhs rhs => by
    rw [Operand.eval]
    exact (combineTruth_truthful op (Expr.truth_truthful lhs) (Expr.truth_truthful rhs)).bind
      fun b => .pure _
  | .member memberNegated item container => by
    rw [Operand.eval]
    exact (memberTruth_truthful memberNegated (Expr.eval_truthful item)
      (Expr.eval_truthful container)).bind fun b => .pure _
  | .test testNegated path tester args => by
    rw [Operand.eval]
    exact (testTruth_truthful testNegated path tester (values_truthful args)).bind
      fun b => .pure _
  | .call function => by
    rw [Operand.eval]
    exact Call.run_truthful function
  | .macroCall space name args => by
    rw [Operand.eval]
    exact (callMacro_truthful henv space name (namedValues_truthful args)).bind fun text => .pure _
  | .array items => by
    rw [Operand.eval]
    exact (values_truthful items).bind fun vs => .pure _
  | .concat parts => by
    rw [Operand.eval]
    exact (concatenated_truthful parts).bind fun text => .pure _

/-- **Whether a condition holds is told truthfully.** -/
theorem Expr.truth_truthful {chance : Chance} :
    (e : Expr) → Truthful env.context (e.truth env chance frames)
  | .mk operand negated filters => by
    by_cases hname : ∃ path, operand = .name path
    · obtain ⟨path, rfl⟩ := hname
      rw [Expr.truth]
      exact .pure _
    · by_cases hconcat : ∃ parts, operand = .concat parts
      · obtain ⟨parts, rfl⟩ := hconcat
        rw [Expr.truth]
        exact (concatenated_truthful parts).bind fun text =>
          (applyFilters_truthful filters _).bind fun v => .pure _
      · rw [Expr.truth.eq_3 _ _ _ _ _ _ (fun path h => hname ⟨path, h⟩)
          fun parts h => hconcat ⟨parts, h⟩]
        exact Operand.truth_truthful negated operand

theorem Operand.truth_truthful {chance : Chance} (negated : Bool) :
    (operand : Operand) → Truthful env.context (operand.truth env chance frames negated)
  | .text s => .pure _
  | .int n => .pure _
  | .float x => .pure _
  | .bool b => .pure _
  | .name path => by
    rw [Operand.truth]
    exact (Truthful.value path).bind fun v => .pure _
  | .math op lhs rhs => by
    rw [Operand.truth]
    exact (Expr.number_truthful lhs).bind fun l => (Expr.number_truthful rhs).bind fun r =>
      (Truthful.lift _).bind fun n => .pure _
  | .compare op lhs rhs => by
    rw [Operand.truth]
    exact compareTruth_truthful negated op (Expr.eval_truthful lhs) (Expr.eval_truthful rhs)
      (Expr.number_truthful lhs) (Expr.number_truthful rhs)
  | .logic op lhs rhs => by
    rw [Operand.truth]
    exact (combineTruth_truthful op (Expr.truth_truthful lhs) (Expr.truth_truthful rhs)).bind
      fun b => .pure _
  | .member memberNegated item container => by
    rw [Operand.truth]
    exact (memberTruth_truthful memberNegated (Expr.eval_truthful item)
      (Expr.eval_truthful container)).bind fun b => .pure _
  | .test testNegated path tester args => by
    rw [Operand.truth]
    exact (testTruth_truthful testNegated path tester (values_truthful args)).bind
      fun b => .pure _
  | .call function => by
    rw [Operand.truth]
    refine (Call.run_truthful function).bind fun v => ?_
    split
    · exact .pure _
    · exact .fail _
  | .macroCall space name args => by
    rw [Operand.truth]
    exact (callMacro_truthful henv space name (namedValues_truthful args)).bind fun text => .pure _
  | .array items => .pure _
  | .concat parts => by
    rw [Operand.truth]
    exact (concatenated_truthful parts).bind fun text => .pure _

/-- **Evaluating a number is truthful.** -/
theorem Expr.number_truthful {chance : Chance} :
    (e : Expr) → Truthful env.context (e.number env chance frames)
  | .mk operand negated filters => by
    by_cases hnil : filters = []
    · subst hnil
      rw [Expr.number]
      exact Operand.number_truthful operand
    · by_cases hname : ∃ path, operand = .name path
      · obtain ⟨path, rfl⟩ := hname
        rw [Expr.number.eq_2 _ _ _ _ _ _ hnil]
        exact numberResult_truthful _
          (nameValue_truthful (fallbackOf_truthful filters) (applyFilters_truthful filters))
      · rw [Expr.number.eq_3 _ _ _ _ _ _ hnil fun path h => hname ⟨path, h⟩]
        exact numberResult_truthful _ ((Operand.eval_truthful negated operand).bind fun v =>
          (applyFilters_truthful filters v).bind fun w => .pure _)

theorem Operand.number_truthful {chance : Chance} :
    (operand : Operand) → Truthful env.context (operand.number env chance frames)
  | .int n => .pure _
  | .float x => .pure _
  | .name path => by
    rw [Operand.number]
    exact numberResult_truthful _ (.value path)
  | .call function => by
    rw [Operand.number]
    exact numberResult_truthful _ (Call.run_truthful function)
  | .math op lhs rhs => by
    rw [Operand.number]
    exact (Expr.number_truthful lhs).bind fun l => (Expr.number_truthful rhs).bind fun r =>
      Truthful.lift _
  | .text s => .fail _
  | .bool b => .fail _
  | .concat parts => .fail _
  | .test testNegated path tester args => .fail _
  | .compare op lhs rhs => .fail _
  | .logic op lhs rhs => .fail _
  | .member memberNegated item container => .fail _
  | .macroCall space name args => .fail _
  | .array items => .fail _

/-- **Calling a function is truthful.** -/
theorem Call.run_truthful {chance : Chance} :
    (c : Call) → Truthful env.context (c.run env chance frames)
  | .mk name args => by
    rw [Call.run]
    exact callFunction_truthful name (namedValues_truthful args)

theorem Call.filter_truthful {chance : Chance} (v : Value) :
    (c : Call) → Truthful env.context (c.filter env chance frames v)
  | .mk name args => by
    rw [Call.filter]
    exact callFilter_truthful v name (namedValues_truthful args)

theorem applyFilters_truthful {chance : Chance} :
    (filters : List Call) → (v : Value) →
      Truthful env.context (applyFilters env chance frames filters v)
  | [], v => .pure _
  | c :: rest, v => by
    rw [applyFilters]
    split
    · exact applyFilters_truthful rest v
    · exact (Call.filter_truthful v c).bind fun w => applyFilters_truthful rest w

theorem fallbackOf_truthful {chance : Chance} :
    (filters : List Call) → FallbackTruthful env.context (fallbackOf env chance frames filters)
  | [] => fun v h => by cases h
  | .mk name args :: rest => fun v h => by
    rw [fallbackOf, Option.ite_none_right_eq_some, Option.some.injEq] at h
    exact (namedValues_truthful args).lookup h.2

theorem values_truthful {chance : Chance} :
    (items : List Expr) → Truthful env.context (values env chance frames items)
  | [] => .pure _
  | e :: rest => by
    rw [values]
    exact (Expr.eval_truthful e).bind fun v => (values_truthful rest).bind fun vs => .pure _

theorem namedValues_truthful {chance : Chance} :
    (args : List (String × Expr)) → AllTruthful env.context (namedValues env chance frames args)
  | [] => fun arg harg => by cases harg
  | (n, e) :: rest => fun arg harg => by
    rw [namedValues, List.mem_cons] at harg
    rcases harg with rfl | harg
    · exact Expr.eval_truthful e
    · exact namedValues_truthful rest arg harg

theorem concatenated_truthful {chance : Chance} :
    (parts : List Operand) → Truthful env.context (concatenated env chance frames parts)
  | [] => .pure _
  | part :: rest => by
    rw [concatenated]
    exact (Operand.concatText_truthful part).bind fun text =>
      (concatenated_truthful rest).bind fun others => .pure _

theorem Operand.concatText_truthful {chance : Chance} :
    (operand : Operand) → Truthful env.context (operand.concatText env chance frames)
  | .text s => .pure _
  | .int n => .pure _
  | .float x => .pure _
  | .name path => by
    rw [Operand.concatText]
    exact concatResult_truthful _ (.value path)
  | .call function => by
    rw [Operand.concatText]
    exact concatResult_truthful _ (Call.run_truthful function)
  | .bool b => .pure _
  | .math op lhs rhs => .pure _
  | .compare op lhs rhs => .pure _
  | .logic op lhs rhs => .pure _
  | .member memberNegated item container => .pure _
  | .test testNegated path tester args => .pure _
  | .macroCall space name args => .pure _
  | .array items => .pure _
  | .concat parts => .pure _

end

/-! ## Nodes -/

omit henv in
theorem runRounds_truthful {context : Context} {keyName : Option String} {itemName : String}
    {count : Nat} {body : Chance → List Frame → Result Output}
    (hbody : ∀ chance frames, Truthful context (body chance frames)) (index : Nat)
    (rounds : List (String × Value)) (outer : List Frame) :
    Truthful context (runRounds keyName itemName count body chance index rounds outer) := by
  induction rounds generalizing index outer with
  | nil => exact .pure _
  | cons round rest ih =>
    obtain ⟨key, item⟩ := round
    rw [runRounds]
    refine (hbody _ _).bind fun out => ?_
    dsimp only
    split
    · exact .pure _
    · exact (ih _ _).bind fun others => .pure _

mutual

/-- **Rendering nodes is truthful.** -/
theorem renderNodes_truthful {chance : Chance} (frames : List Frame) :
    (nodes : List Node) → Truthful env.context (renderNodes env chance frames nodes)
  | [] => .pure _
  | n :: rest => by
    rw [renderNodes]
    refine (renderNode_truthful frames n).bind fun out => ?_
    split
    · exact (renderNodes_truthful out.frames rest).bind fun others => .pure _
    · exact .pure _

/-- **Rendering a node is truthful.** -/
theorem renderNode_truthful {chance : Chance} (frames : List Frame) :
    (n : Node) → Truthful env.context (renderNode env chance frames n)
  | .text s => .pure _
  | .raw opening s closing => .pure _
  | .comment edges => .pure _
  | .define opening name params body closing => .pure _
  | .print edges value => by
    rw [renderNode]
    exact (Expr.eval_truthful henv value).bind fun v => .pure _
  | .assign edges global name value => by
    rw [renderNode]
    exact (Expr.eval_truthful henv value).bind fun v => .pure _
  | .insert edges names skippable => by
    rw [renderNode]
    split
    · exact (henv _ _ _).bind fun out => .pure _
    · split
      · exact .pure _
      · exact .fail _
  | .forLoop opening key item container body otherwise closing => by
    rw [renderNode]
    split
    · exact .fail _
    · refine (Expr.eval_truthful henv container).bind fun v =>
        (Truthful.lift _).bind fun rounds => ?_
      dsimp only
      split
      · exact renderOtherwise_truthful frames otherwise
      · exact runRounds_truthful (fun chance frames => renderNodes_truthful frames body) _ _ _
  | .cond branches otherwise closing => by
    rw [renderNode]
    exact renderBranches_truthful frames (renderElse_truthful frames otherwise) branches
  | .filtered opening filter body closing => by
    rw [renderNode]
    refine (renderNodes_truthful frames body).bind fun out => ?_
    split
    · exact .pure _
    · exact (Call.filter_truthful henv _ filter).bind fun v => .pure _
  | .block opening name body closing => by
    rw [renderNode]
    split
    · exact henv _ _ _
    · exact renderNodes_truthful frames body
  | .breakLoop edges => by
    rw [renderNode]
    split
    · exact .pure _
    · exact .fail _
  | .continueLoop edges => by
    rw [renderNode]
    split
    · exact .pure _
    · exact .fail _
  | .parentBlock => .fail _

theorem renderBranches_truthful {chance : Chance} (frames : List Frame)
    {otherwise : Unit → Result Output}
    (h : Truthful env.context (otherwise ())) :
    (branches : List Branch) →
      Truthful env.context (renderBranches env chance frames otherwise branches)
  | [] => h
  | .mk edges condition body :: rest => by
    rw [renderBranches]
    refine (Expr.truth_truthful henv condition).bind fun b => ?_
    split
    · exact renderNodes_truthful frames body
    · exact renderBranches_truthful frames h rest

theorem renderElse_truthful {chance : Chance} (frames : List Frame) :
    (otherwise : Option ElseBranch) → Truthful env.context (renderElse env chance frames otherwise)
  | some (.mk edges body) => by
    rw [renderElse]
    exact renderNodes_truthful frames body
  | none => .pure _

theorem renderOtherwise_truthful {chance : Chance} (frames : List Frame) :
    (otherwise : Option (List Node)) →
      Truthful env.context (renderOtherwise env chance frames otherwise)
  | some body => by
    rw [renderOtherwise]
    exact renderNodes_truthful frames body
  | none => .pure _

end

end Syntax

/-! ## Pages -/

/-- **Rendering a page is truthful**, however deeply macros and inserted pages call each other. -/
theorem renderBodies_truthful (engine : Engine) (context : Context) (depth : Nat)
    (chance : Chance) (frames : List Frame) (nodes : List Node) :
    Truthful context (renderBodies engine context depth chance frames nodes) := by
  induction depth generalizing chance frames nodes with
  | zero => exact .fail _
  | succ depth ih =>
    -- the bodies called from here are one level less deep
    exact @renderNodes_truthful
      ⟨engine.page, context, engine.function?, renderBodies engine context depth⟩ ih chance frames
      nodes

end Scaffold.Template
