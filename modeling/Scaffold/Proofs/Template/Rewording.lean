import Mathlib.Data.List.Forall2
import Mathlib.Data.Option.Basic
import Scaffold.Proofs.Template.Lookup
import Scaffold.Template.Render

/-!
# Renders that differ in the wording of failures

A render looks at what a failed look-up says in no place: it only notes that there was one, and
hands its words on. Two environments in which look-ups come to the same up to the words of their
failures thus render to the same text, or fail with the same causes up to these words. The key
notions are `readsOnly`, a check on the syntax that every name that is read is among those that are
allowed, `Reworded`, two outcomes that differ in the words of failed look-ups, and `SameUpTo`, two
environments in which the look-ups of allowed names do. Syntax that leads to other parts of the
page, such as a call of a macro, is never allowed. Main facts:

* `Expr.eval_reworded` and the lemmas next to it : expressions have the same value;
* `renderNodes_reworded` : nodes print the same.
-/

namespace Scaffold.Template

/-! ## Names that are read -/

mutual

/-- Whether an expression reads allowed names only. -/
def Expr.readsOnly (allowed : String → Bool) : Expr → Bool
  | .mk o _ filters => o.readsOnly allowed && callsReadOnly allowed filters

/-- Whether an operand reads allowed names only. -/
def Operand.readsOnly (allowed : String → Bool) : Operand → Bool
  | .text _ | .int _ | .float _ | .bool _ => true
  | .name path => allowed path
  | .math _ l r | .compare _ l r | .logic _ l r | .member _ l r =>
    l.readsOnly allowed && r.readsOnly allowed
  | .test _ path _ args => allowed path && exprsReadOnly allowed args
  | .call c => c.readsOnly allowed
  | .macroCall _ _ _ => false
  | .array items => exprsReadOnly allowed items
  | .concat parts => operandsReadOnly allowed parts

/-- Whether a function or filter reads allowed names only. -/
def Call.readsOnly (allowed : String → Bool) : Call → Bool
  | .mk _ args => argsReadOnly allowed args

def callsReadOnly (allowed : String → Bool) : List Call → Bool
  | [] => true
  | c :: cs => c.readsOnly allowed && callsReadOnly allowed cs

def argsReadOnly (allowed : String → Bool) : List (String × Expr) → Bool
  | [] => true
  | (_, e) :: args => e.readsOnly allowed && argsReadOnly allowed args

def exprsReadOnly (allowed : String → Bool) : List Expr → Bool
  | [] => true
  | e :: es => e.readsOnly allowed && exprsReadOnly allowed es

def operandsReadOnly (allowed : String → Bool) : List Operand → Bool
  | [] => true
  | o :: os => o.readsOnly allowed && operandsReadOnly allowed os

end

mutual

/-- Whether a node reads allowed names only and stays within itself. -/
def Node.readsOnly (allowed : String → Bool) : Node → Bool
  | .text _ | .comment _ | .raw _ _ _ | .define _ _ _ _ _ | .breakLoop _ | .continueLoop _
  | .parentBlock => true
  | .print _ e | .assign _ _ _ e => e.readsOnly allowed
  | .insert _ _ _ | .block _ _ _ _ => false
  | .forLoop _ _ _ e body none _ => e.readsOnly allowed && nodesReadOnly allowed body
  | .forLoop _ _ _ e body (some others) _ =>
    e.readsOnly allowed && nodesReadOnly allowed body && nodesReadOnly allowed others
  | .cond branches none _ => branchesReadOnly allowed branches
  | .cond branches (some (.mk _ body)) _ =>
    branchesReadOnly allowed branches && nodesReadOnly allowed body
  | .filtered _ filter body _ => filter.readsOnly allowed && nodesReadOnly allowed body

/-- Whether nodes read allowed names only. -/
def nodesReadOnly (allowed : String → Bool) : List Node → Bool
  | [] => true
  | n :: ns => n.readsOnly allowed && nodesReadOnly allowed ns

def branchesReadOnly (allowed : String → Bool) : List Branch → Bool
  | [] => true
  | .mk _ c body :: bs =>
    c.readsOnly allowed && nodesReadOnly allowed body && branchesReadOnly allowed bs

end

/-! ## Outcomes in other words -/

/-- A cause, the failed look-up that it may be in other words. -/
def Cause.reword (ρ : Unresolved → Unresolved) : Cause → Cause
  | .unresolved u => .unresolved (ρ u)
  | .failure f => .failure f
  | .said message => .said message

/-- A failure, the failed look-ups among its causes in other words. -/
def Fault.reword (ρ : Unresolved → Unresolved) (fault : Fault) : Fault :=
  ⟨fault.causes.map (Cause.reword ρ), fault.site⟩

/-- Two outcomes are the same answer, or the same failure up to the words of failed look-ups. -/
inductive Reworded (ρ : Unresolved → Unresolved) {α : Type} : Result α → Result α → Prop
  | ok (a : α) : Reworded ρ (.ok a) (.ok a)
  | error (fault : Fault) : Reworded ρ (.error fault) (.error (fault.reword ρ))

/-- Two environments differ in the words of failed look-ups only, as far as allowed names go. -/
structure SameUpTo (ρ : Unresolved → Unresolved) (allowed : String → Bool) (env env' : Env) :
    Prop where
  function? : env'.function? = env.function?
  resolve : ∀ path, allowed path = true → ∀ frames,
    (env'.scope frames).resolve path = ((env.scope frames).resolve path).mapError ρ

variable {ρ : Unresolved → Unresolved} {allowed : String → Bool} {env env' : Env}
  {chance : Chance} {frames : List Frame}

namespace Reworded

variable {α β : Type}

theorem pure (a : α) : Reworded ρ (Pure.pure a : Result α) (Pure.pure a) := .ok a

/-- A stop at the same place of two environments. -/
theorem stop (causes : List Cause) :
    Reworded ρ ((env.scope frames).stop causes : Result α)
      ((env'.scope frames).stop (causes.map (Cause.reword ρ))) :=
  .error ⟨causes, (env.scope frames).site?⟩

/-- A failure that is none of a look-up has the same words. -/
theorem fail (failure : Failure) :
    Reworded ρ ((env.scope frames).fail failure : Result α) ((env'.scope frames).fail failure) :=
  .stop [.failure failure]

/-- What a function says has the same words. -/
theorem stop_said (failure : Failure) (messages : List String) :
    Reworded ρ ((env.scope frames).stop (.failure failure :: messages.map .said) : Result α)
      ((env'.scope frames).stop (.failure failure :: messages.map .said)) := by
  have hsame : (Cause.failure failure :: messages.map .said).map (Cause.reword ρ) =
      .failure failure :: messages.map .said := by
    rw [List.map_cons, List.map_map]
    rfl
  have hstop : Reworded ρ
      ((env.scope frames).stop (.failure failure :: messages.map .said) : Result α)
      ((env'.scope frames).stop _) :=
    .stop _
  rwa [hsame] at hstop

theorem lift (x : Except Failure α) :
    Reworded ρ ((env.scope frames).lift x) ((env'.scope frames).lift x) := by
  cases x with
  | ok a => exact .ok a
  | error failure => exact .fail failure

/-- Two steps are the same up to words if each of them is. -/
theorem bind {r r' : Result α} {f f' : α → Result β} (hr : Reworded ρ r r')
    (hf : ∀ a, Reworded ρ (f a) (f' a)) : Reworded ρ (r >>= f) (r' >>= f') := by
  cases hr with
  | ok a => exact hf a
  | error fault => exact .error fault

theorem causing {r r' : Result α} (hr : Reworded ρ r r') (failure : Failure) :
    Reworded ρ (Result.causing failure r) (Result.causing failure r') := by
  cases hr with
  | ok a => exact .ok a
  | error fault => exact .error ⟨.failure failure :: fault.causes, fault.site⟩

theorem outermostOnly {r r' : Result α} (hr : Reworded ρ r r') :
    Reworded ρ (Template.outermostOnly r) (Template.outermostOnly r') := by
  cases hr with
  | ok a => exact .ok a
  | error fault =>
    have hfault : Reworded ρ (.error ⟨fault.causes.take 1, fault.site⟩ : Result α) _ := .error _
    rwa [Fault.reword, List.map_take] at hfault

/-- Outcomes that are the same up to no words at all are the same. -/
theorem eq_of_id {r r' : Result α} (hr : Reworded id r r') : r = r' := by
  cases hr with
  | ok a => rfl
  | error fault =>
    obtain ⟨causes, site⟩ := fault
    have hcauses : causes.map (Cause.reword id) = causes := by
      refine List.map_id'' (fun cause => ?_) causes
      cases cause <;> rfl
    rw [Fault.reword, hcauses]

end Reworded

/-! ## Parts of expressions -/

theorem value_reworded (h : SameUpTo ρ allowed env env') {path : String}
    (hpath : allowed path = true) :
    Reworded ρ ((env.scope frames).value path) ((env'.scope frames).value path) := by
  rw [Scope.value, Scope.value, h.resolve path hpath]
  cases (env.scope frames).resolve path with
  | ok v => exact .ok v
  | error u => exact .stop [.unresolved u]

theorem nameValue_reworded (h : SameUpTo ρ allowed env env') {path : String}
    (hpath : allowed path = true) (negated : Bool)
    {fallback fallback' : Option (Option (Result Value))}
    (hfallback : Option.Rel (Option.Rel (Reworded ρ)) fallback fallback')
    {filtered filtered' : Value → Result Value}
    (hfiltered : ∀ v, Reworded ρ (filtered v) (filtered' v)) :
    Reworded ρ (nameValue (env.scope frames) path negated (fun _ => fallback) filtered)
      (nameValue (env'.scope frames) path negated (fun _ => fallback') filtered') := by
  have hfinish : ∀ v, Reworded ρ
      (do let v ← filtered v
          pure (if negated then .bool !v.truthy else v) : Result Value)
      (do let v ← filtered' v
          pure (if negated then .bool !v.truthy else v)) :=
    fun v => (hfiltered v).bind fun w => .pure _
  unfold nameValue
  rw [h.resolve path hpath]
  cases (env.scope frames).resolve path with
  | ok v =>
    cases v with
    | null =>
      -- a default steps in, if there is one
      cases hfallback with
      | none => exact hfinish _
      | some hdefault =>
        cases hdefault with
        | none => exact .fail _
        | some hvalue => exact hvalue.bind hfinish
    | bool b => exact hfinish _
    | number n => exact hfinish _
    | string s => exact hfinish _
    | array items => exact hfinish _
    | object entries => exact hfinish _
  | error u =>
    cases hfallback with
    | none =>
      cases negated with
      | true => exact .pure _
      | false => exact .stop [.unresolved u]
    | some hdefault =>
      cases hdefault with
      | none => exact .fail _
      | some hvalue => exact hvalue.bind hfinish

/-- A condition looks at a failure of its variable no further. -/
theorem nameTruth_reworded (negated : Bool) {r r' : Result Value} (hr : Reworded ρ r r') :
    nameTruth negated r = nameTruth negated r' := by
  cases hr <;> rfl

theorem combineTruth_reworded (op : LogicOp) {lhs rhs lhs' rhs' : Result Bool}
    (hl : Reworded ρ lhs lhs') (hr : Reworded ρ rhs rhs') :
    Reworded ρ (combineTruth op (fun _ => lhs) fun _ => rhs)
      (combineTruth op (fun _ => lhs') fun _ => rhs') := by
  refine hl.bind fun l => ?_
  cases op <;> cases l
  · exact .pure _
  · exact hr
  · exact hr
  · exact .pure _

theorem compareTruth_reworded (negated : Bool) (op : CompareOp)
    {lhsValue rhsValue lhsValue' rhsValue' : Result Value}
    {lhsNumber rhsNumber lhsNumber' rhsNumber' : Result (Option Number)}
    (hlv : Reworded ρ lhsValue lhsValue') (hrv : Reworded ρ rhsValue rhsValue')
    (hln : Reworded ρ lhsNumber lhsNumber') (hrn : Reworded ρ rhsNumber rhsNumber') :
    Reworded ρ
      (compareTruth (env.scope frames) negated op (fun _ => lhsValue) (fun _ => rhsValue)
        (fun _ => lhsNumber) fun _ => rhsNumber)
      (compareTruth (env'.scope frames) negated op (fun _ => lhsValue') (fun _ => rhsValue')
        (fun _ => lhsNumber') fun _ => rhsNumber') := by
  cases op with
  | eq | ne =>
    unfold compareTruth
    refine hlv.bind fun l => hrv.bind fun r => ?_
    split
    · exact .pure _
    · exact .pure _
  | lt | le | gt | ge =>
    unfold compareTruth
    exact hln.bind fun l => hrn.bind fun r => (Reworded.lift _).bind fun b => .pure _

theorem memberTruth_reworded (negated : Bool) {item container item' container' : Result Value}
    (hi : Reworded ρ item item') (hc : Reworded ρ container container') :
    Reworded ρ (memberTruth (env.scope frames) negated item container)
      (memberTruth (env'.scope frames) negated item' container') :=
  hi.bind fun _ => hc.bind fun _ => (Reworded.lift _).bind fun _ => .pure _

theorem testTruth_reworded (h : SameUpTo ρ allowed env env') (negated : Bool) {path : String}
    (hpath : allowed path = true) (tester : String) {args args' : Result (List Value)}
    (hargs : Reworded ρ args args') :
    Reworded ρ (testTruth (env.scope frames) negated path tester args)
      (testTruth (env'.scope frames) negated path tester args') := by
  have hfound : ((env'.scope frames).resolve path).toOption =
      ((env.scope frames).resolve path).toOption := by
    rw [h.resolve path hpath]
    cases (env.scope frames).resolve path <;> rfl
  unfold testTruth
  rw [hfound]
  split
  · exact .fail _
  · exact (hargs.causing _).bind fun vs => ((Reworded.lift _).causing _).bind fun b => .pure _

/-- Related items that are put at the same place keep two lists related one by one. -/
theorem forall₂_insertIdx {α β : Type} {R : α → β → Prop} {a : α} {b : β} (hab : R a b) (i : Nat)
    {items : List α} {items' : List β} (h : List.Forall₂ R items items') :
    List.Forall₂ R (items.insertIdx i a) (items'.insertIdx i b) := by
  induction h generalizing i with
  | nil =>
    cases i with
    | zero => exact .cons hab .nil
    | succ i => exact .nil
  | cons hfirst hrest ih =>
    cases i with
    | zero => exact .cons hab (.cons hfirst hrest)
    | succ i => exact .cons hfirst (ih i)

/-- Named arguments whose outcomes are the same up to words, one by one. -/
def AllReworded (ρ : Unresolved → Unresolved) : (given given' : List (String × Result Value)) →
    Prop :=
  List.Forall₂ fun arg arg' => arg.1 = arg'.1 ∧ Reworded ρ arg.2 arg'.2

/-- In an order that is left to chance, related items stay related one by one. -/
theorem shuffle_forall₂ {α β : Type} {R : α → β → Prop} (chance : Chance) {items : List α}
    {items' : List β} (h : List.Forall₂ R items items') :
    List.Forall₂ R (chance.shuffle items) (chance.shuffle items') := by
  induction h generalizing chance with
  | nil => exact .nil
  | @cons a b rest rest' hab hrest ih =>
    rw [Chance.shuffle, Chance.shuffle, hrest.length_eq]
    exact forall₂_insertIdx hab _ (ih _)

/-- The first failures of outcomes that are the same up to words are the same up to words. -/
theorem firstFault_reworded {given given' : List (String × Result Value)}
    (h : AllReworded ρ given given') :
    firstFault given' = (firstFault given).map (Fault.reword ρ) := by
  induction h with
  | nil => rfl
  | @cons arg arg' rest rest' hfirst _ ih =>
    obtain ⟨name, v⟩ := arg
    obtain ⟨name', v'⟩ := arg'
    obtain ⟨rfl, hv⟩ := hfirst
    cases hv with
    | ok v => exact ih
    | error fault => rfl

theorem valuesOf_reworded {given given' : List (String × Result Value)}
    (h : AllReworded ρ given given') : valuesOf given' = valuesOf given := by
  induction h with
  | nil => rfl
  | @cons arg arg' rest rest' hfirst _ ih =>
    obtain ⟨name, v⟩ := arg
    obtain ⟨name', v'⟩ := arg'
    obtain ⟨rfl, hv⟩ := hfirst
    cases hv with
    | ok v => rw [valuesOf, valuesOf, ih]
    | error fault => exact ih

theorem arguments_reworded {given given' : List (String × Result Value)}
    (h : AllReworded ρ given given') :
    Reworded ρ (arguments chance given) (arguments chance given') := by
  rw [arguments, arguments, firstFault_reworded (shuffle_forall₂ chance h), valuesOf_reworded h]
  cases firstFault (chance.shuffle given) with
  | none => exact .ok _
  | some fault => exact .error fault

/-- Under a name the same outcome is found, up to words. -/
theorem AllReworded.lookup {given given' : List (String × Result Value)}
    (h : AllReworded ρ given given') (name : String) :
    Option.Rel (Reworded ρ) (given.lookup name) (given'.lookup name) := by
  induction h with
  | nil => exact .none
  | @cons arg arg' rest rest' hfirst _ ih =>
    obtain ⟨other, v⟩ := arg
    obtain ⟨other', v'⟩ := arg'
    obtain ⟨rfl, hv⟩ := hfirst
    rw [List.lookup_cons, List.lookup_cons]
    dsimp only
    cases name == other with
    | true => exact .some hv
    | false => exact ih

theorem callFunction_reworded (h : SameUpTo ρ allowed env env') (name : String)
    {given given' : List (String × Result Value)} (hgiven : AllReworded ρ given given') :
    Reworded ρ (callFunction env chance frames name given)
      (callFunction env' chance frames name given') := by
  unfold callFunction
  rw [h.function?]
  split
  · exact .fail _
  · refine ((arguments_reworded hgiven).causing _).bind fun vs => ?_
    split
    · exact .pure _
    · exact .stop_said _ _

theorem callFilter_reworded (v : Value) (name : String)
    {given given' : List (String × Result Value)} (hgiven : AllReworded ρ given given') :
    Reworded ρ (callFilter env chance frames v name given)
      (callFilter env' chance frames v name given') := by
  unfold callFilter
  split
  · exact .fail _
  · exact ((arguments_reworded hgiven).causing _).bind fun vs => (Reworded.lift _).causing _

theorem concatResult_reworded (failure : Failure) {v v' : Result Value} (hv : Reworded ρ v v') :
    Reworded ρ (concatResult (env.scope frames) failure v)
      (concatResult (env'.scope frames) failure v') := by
  refine hv.bind fun v => ?_
  split
  · exact .pure _
  · exact .fail _

theorem numberResult_reworded (failure : Failure) {v v' : Result Value} (hv : Reworded ρ v v') :
    Reworded ρ (numberResult (env.scope frames) failure v)
      (numberResult (env'.scope frames) failure v') := by
  refine hv.bind fun v => ?_
  split
  · exact .pure _
  · exact .fail _

/-! ## Expressions -/

section Syntax

set_option linter.unusedSectionVars false

variable (h : SameUpTo ρ allowed env env')
include h

mutual

/-- **An expression has the same value**, up to words. -/
theorem Expr.eval_reworded {chance : Chance} : (e : Expr) → e.readsOnly allowed = true →
    Reworded ρ (e.eval env chance frames) (e.eval env' chance frames)
  | .mk operand negated filters, he => by
    rw [Expr.readsOnly, Bool.and_eq_true] at he
    by_cases hname : ∃ path, operand = .name path
    · obtain ⟨path, rfl⟩ := hname
      rw [Expr.eval, Expr.eval]
      exact nameValue_reworded h he.1 negated (fallbackOf_reworded filters he.2)
        (applyFilters_reworded filters he.2)
    · rw [Expr.eval.eq_2 _ _ _ _ _ _ fun path h => hname ⟨path, h⟩,
        Expr.eval.eq_2 _ _ _ _ _ _ fun path h => hname ⟨path, h⟩]
      exact (Operand.eval_reworded negated operand he.1).bind fun v =>
        (applyFilters_reworded filters he.2 v).bind fun w => .pure _

theorem Operand.eval_reworded {chance : Chance} (negated : Bool) :
    (o : Operand) → o.readsOnly allowed = true →
      Reworded ρ (o.eval env chance frames negated) (o.eval env' chance frames negated)
  | .text s, _ => .pure _
  | .int n, _ => .pure _
  | .float x, _ => .pure _
  | .bool b, _ => .pure _
  | .name path, ho => by
    rw [Operand.eval, Operand.eval]
    exact value_reworded h ho
  | .math op l r, ho => by
    rw [Operand.readsOnly, Bool.and_eq_true] at ho
    rw [Operand.eval, Operand.eval]
    exact ((Expr.number_reworded l ho.1).bind fun l => (Expr.number_reworded r ho.2).bind fun r =>
      (Reworded.lift _).bind fun n => .pure _).outermostOnly
  | .compare op l r, ho => by
    rw [Operand.readsOnly, Bool.and_eq_true] at ho
    rw [Operand.eval, Operand.eval]
    exact (compareTruth_reworded negated op (Expr.eval_reworded l ho.1)
      (Expr.eval_reworded r ho.2) (Expr.number_reworded l ho.1)
      (Expr.number_reworded r ho.2)).bind fun b => .pure _
  | .logic op l r, ho => by
    rw [Operand.readsOnly, Bool.and_eq_true] at ho
    rw [Operand.eval, Operand.eval]
    exact (combineTruth_reworded op (Expr.truth_reworded l ho.1)
      (Expr.truth_reworded r ho.2)).bind fun b => .pure _
  | .member memberNegated item container, ho => by
    rw [Operand.readsOnly, Bool.and_eq_true] at ho
    rw [Operand.eval, Operand.eval]
    exact (memberTruth_reworded memberNegated (Expr.eval_reworded item ho.1)
      (Expr.eval_reworded container ho.2)).bind fun b => .pure _
  | .test testNegated path tester args, ho => by
    rw [Operand.readsOnly, Bool.and_eq_true] at ho
    rw [Operand.eval, Operand.eval]
    exact (testTruth_reworded h testNegated ho.1 tester (values_reworded args ho.2)).bind
      fun b => .pure _
  | .call function, ho => by
    rw [Operand.eval, Operand.eval]
    exact Call.run_reworded function ho
  | .macroCall space name args, ho => by cases ho
  | .array items, ho => by
    rw [Operand.eval, Operand.eval]
    exact (values_reworded items ho).bind fun vs => .pure _
  | .concat parts, ho => by
    rw [Operand.eval, Operand.eval]
    exact (concatenated_reworded parts ho).bind fun text => .pure _

/-- **A condition has the same outcome**, up to words. -/
theorem Expr.truth_reworded {chance : Chance} : (e : Expr) → e.readsOnly allowed = true →
    Reworded ρ (e.truth env chance frames) (e.truth env' chance frames)
  | .mk operand negated filters, he => by
    rw [Expr.readsOnly, Bool.and_eq_true] at he
    by_cases hname : ∃ path, operand = .name path
    · obtain ⟨path, rfl⟩ := hname
      rw [Expr.truth, Expr.truth, nameTruth_reworded negated (nameValue_reworded h he.1 negated
        (fallbackOf_reworded filters he.2) (applyFilters_reworded filters he.2))]
      exact .pure _
    · by_cases hconcat : ∃ parts, operand = .concat parts
      · obtain ⟨parts, rfl⟩ := hconcat
        rw [Expr.truth, Expr.truth]
        exact (concatenated_reworded parts he.1).bind fun text =>
          (applyFilters_reworded filters he.2 _).bind fun v => .pure _
      · rw [Expr.truth.eq_3 _ _ _ _ _ _ (fun path h => hname ⟨path, h⟩)
            fun parts h => hconcat ⟨parts, h⟩,
          Expr.truth.eq_3 _ _ _ _ _ _ (fun path h => hname ⟨path, h⟩)
            fun parts h => hconcat ⟨parts, h⟩]
        exact Operand.truth_reworded negated operand he.1

theorem Operand.truth_reworded {chance : Chance} (negated : Bool) :
    (o : Operand) → o.readsOnly allowed = true →
      Reworded ρ (o.truth env chance frames negated) (o.truth env' chance frames negated)
  | .text s, _ => .pure _
  | .int n, _ => .pure _
  | .float x, _ => .pure _
  | .bool b, _ => .pure _
  | .name path, ho => by
    rw [Operand.truth, Operand.truth]
    exact (value_reworded h ho).bind fun v => .pure _
  | .math op l r, ho => by
    rw [Operand.readsOnly, Bool.and_eq_true] at ho
    rw [Operand.truth, Operand.truth]
    exact (Expr.number_reworded l ho.1).bind fun l => (Expr.number_reworded r ho.2).bind fun r =>
      (Reworded.lift _).bind fun n => .pure _
  | .compare op l r, ho => by
    rw [Operand.readsOnly, Bool.and_eq_true] at ho
    rw [Operand.truth, Operand.truth]
    exact compareTruth_reworded negated op (Expr.eval_reworded l ho.1)
      (Expr.eval_reworded r ho.2) (Expr.number_reworded l ho.1) (Expr.number_reworded r ho.2)
  | .logic op l r, ho => by
    rw [Operand.readsOnly, Bool.and_eq_true] at ho
    rw [Operand.truth, Operand.truth]
    exact (combineTruth_reworded op (Expr.truth_reworded l ho.1)
      (Expr.truth_reworded r ho.2)).bind fun b => .pure _
  | .member memberNegated item container, ho => by
    rw [Operand.readsOnly, Bool.and_eq_true] at ho
    rw [Operand.truth, Operand.truth]
    exact (memberTruth_reworded memberNegated (Expr.eval_reworded item ho.1)
      (Expr.eval_reworded container ho.2)).bind fun b => .pure _
  | .test testNegated path tester args, ho => by
    rw [Operand.readsOnly, Bool.and_eq_true] at ho
    rw [Operand.truth, Operand.truth]
    exact (testTruth_reworded h testNegated ho.1 tester (values_reworded args ho.2)).bind
      fun b => .pure _
  | .call function, ho => by
    rw [Operand.truth, Operand.truth]
    refine (Call.run_reworded function ho).bind fun v => ?_
    split
    · exact .pure _
    · exact .fail _
  | .macroCall space name args, ho => by cases ho
  | .array items, _ => .pure _
  | .concat parts, ho => by
    rw [Operand.truth, Operand.truth]
    exact (concatenated_reworded parts ho).bind fun text => .pure _

/-- **An expression stands for the same number**, up to words. -/
theorem Expr.number_reworded {chance : Chance} : (e : Expr) → e.readsOnly allowed = true →
    Reworded ρ (e.number env chance frames) (e.number env' chance frames)
  | .mk operand negated filters, he => by
    rw [Expr.readsOnly, Bool.and_eq_true] at he
    by_cases hnil : filters = []
    · subst hnil
      rw [Expr.number, Expr.number]
      exact Operand.number_reworded operand he.1
    · by_cases hname : ∃ path, operand = .name path
      · obtain ⟨path, rfl⟩ := hname
        rw [Expr.number.eq_2 _ _ _ _ _ _ hnil, Expr.number.eq_2 _ _ _ _ _ _ hnil]
        exact numberResult_reworded _ (nameValue_reworded h he.1 negated
          (fallbackOf_reworded filters he.2) (applyFilters_reworded filters he.2))
      · rw [Expr.number.eq_3 _ _ _ _ _ _ hnil fun path h => hname ⟨path, h⟩,
          Expr.number.eq_3 _ _ _ _ _ _ hnil fun path h => hname ⟨path, h⟩]
        exact numberResult_reworded _ ((Operand.eval_reworded negated operand he.1).bind fun v =>
          (applyFilters_reworded filters he.2 v).bind fun w => .pure _)

theorem Operand.number_reworded {chance : Chance} : (o : Operand) → o.readsOnly allowed = true →
    Reworded ρ (o.number env chance frames) (o.number env' chance frames)
  | .int n, _ => .pure _
  | .float x, _ => .pure _
  | .name path, ho => by
    rw [Operand.number, Operand.number]
    exact numberResult_reworded _ (value_reworded h ho)
  | .call function, ho => by
    rw [Operand.number, Operand.number]
    exact numberResult_reworded _ (Call.run_reworded function ho)
  | .math op l r, ho => by
    rw [Operand.readsOnly, Bool.and_eq_true] at ho
    rw [Operand.number, Operand.number]
    exact (Expr.number_reworded l ho.1).bind fun l => (Expr.number_reworded r ho.2).bind fun r =>
      Reworded.lift _
  | .text s, _ => .fail _
  | .bool b, _ => .fail _
  | .concat parts, _ => .fail _
  | .test testNegated path tester args, _ => .fail _
  | .compare op l r, _ => .fail _
  | .logic op l r, _ => .fail _
  | .member memberNegated item container, _ => .fail _
  | .macroCall space name args, _ => .fail _
  | .array items, _ => .fail _

/-- **A function call has the same value**, up to words. -/
theorem Call.run_reworded {chance : Chance} : (c : Call) → c.readsOnly allowed = true →
    Reworded ρ (c.run env chance frames) (c.run env' chance frames)
  | .mk name args, hc => by
    rw [Call.run, Call.run]
    exact callFunction_reworded h name (namedValues_reworded args hc)

theorem Call.filter_reworded {chance : Chance} (v : Value) :
    (c : Call) → c.readsOnly allowed = true →
      Reworded ρ (c.filter env chance frames v) (c.filter env' chance frames v)
  | .mk name args, hc => by
    rw [Call.filter, Call.filter]
    exact callFilter_reworded v name (namedValues_reworded args hc)

theorem applyFilters_reworded {chance : Chance} :
    (cs : List Call) → callsReadOnly allowed cs = true → ∀ v,
      Reworded ρ (applyFilters env chance frames cs v) (applyFilters env' chance frames cs v)
  | [], _, v => .pure _
  | c :: cs, hcs, v => by
    rw [callsReadOnly, Bool.and_eq_true] at hcs
    rw [applyFilters, applyFilters]
    split
    · exact applyFilters_reworded cs hcs.2 v
    · exact (Call.filter_reworded v c hcs.1).bind fun w => applyFilters_reworded cs hcs.2 w

theorem fallbackOf_reworded {chance : Chance} : (cs : List Call) → callsReadOnly allowed cs = true →
    Option.Rel (Option.Rel (Reworded ρ)) (fallbackOf env chance frames cs)
      (fallbackOf env' chance frames cs)
  | [], _ => .none
  | .mk name args :: cs, hcs => by
    rw [callsReadOnly, Bool.and_eq_true] at hcs
    rw [fallbackOf, fallbackOf]
    split
    · exact .some ((namedValues_reworded args hcs.1).lookup "value")
    · exact .none

theorem values_reworded {chance : Chance} : (es : List Expr) → exprsReadOnly allowed es = true →
    Reworded ρ (values env chance frames es) (values env' chance frames es)
  | [], _ => .pure _
  | e :: es, hes => by
    rw [exprsReadOnly, Bool.and_eq_true] at hes
    rw [values, values]
    exact (Expr.eval_reworded e hes.1).bind fun v => (values_reworded es hes.2).bind fun vs =>
      .pure _

theorem namedValues_reworded {chance : Chance} :
    (args : List (String × Expr)) → argsReadOnly allowed args = true →
      AllReworded ρ (namedValues env chance frames args) (namedValues env' chance frames args)
  | [], _ => .nil
  | (name, e) :: args, hargs => by
    rw [argsReadOnly, Bool.and_eq_true] at hargs
    rw [namedValues, namedValues]
    exact .cons ⟨rfl, Expr.eval_reworded e hargs.1⟩ (namedValues_reworded args hargs.2)

theorem concatenated_reworded {chance : Chance} :
    (os : List Operand) → operandsReadOnly allowed os = true →
      Reworded ρ (concatenated env chance frames os) (concatenated env' chance frames os)
  | [], _ => .pure _
  | o :: os, hos => by
    rw [operandsReadOnly, Bool.and_eq_true] at hos
    rw [concatenated, concatenated]
    exact (Operand.concatText_reworded o hos.1).bind fun text =>
      (concatenated_reworded os hos.2).bind fun others => .pure _

theorem Operand.concatText_reworded {chance : Chance} : (o : Operand) → o.readsOnly allowed = true →
    Reworded ρ (o.concatText env chance frames) (o.concatText env' chance frames)
  | .text s, _ => .pure _
  | .int n, _ => .pure _
  | .float x, _ => .pure _
  | .name path, ho => by
    rw [Operand.concatText, Operand.concatText]
    exact concatResult_reworded _ (value_reworded h ho)
  | .call function, ho => by
    rw [Operand.concatText, Operand.concatText]
    exact concatResult_reworded _ (Call.run_reworded function ho)
  | .bool b, _ => .pure _
  | .math op l r, _ => .pure _
  | .compare op l r, _ => .pure _
  | .logic op l r, _ => .pure _
  | .member memberNegated item container, _ => .pure _
  | .test testNegated path tester args, _ => .pure _
  | .macroCall space name args, _ => .pure _
  | .array items, _ => .pure _
  | .concat parts, _ => .pure _

end

/-! ## Nodes -/

omit h in
theorem runRounds_reworded {keyName : Option String} {itemName : String} {count : Nat}
    {body body' : Chance → List Frame → Result Output}
    (hbody : ∀ chance frames, Reworded ρ (body chance frames) (body' chance frames)) (index : Nat)
    (rounds : List (String × Value)) (outer : List Frame) :
    Reworded ρ (runRounds keyName itemName count body chance index rounds outer)
      (runRounds keyName itemName count body' chance index rounds outer) := by
  induction rounds generalizing index outer with
  | nil => exact .pure _
  | cons round rest ih =>
    obtain ⟨key, item⟩ := round
    rw [runRounds, runRounds]
    refine (hbody _ _).bind fun out => ?_
    dsimp only
    split
    · exact .pure _
    · exact (ih _ _).bind fun others => .pure _

mutual

/-- **Nodes print the same**, up to words, and leave the same frames. -/
theorem renderNodes_reworded {chance : Chance} (frames : List Frame) : (ns : List Node) →
    nodesReadOnly allowed ns = true →
      Reworded ρ (renderNodes env chance frames ns) (renderNodes env' chance frames ns)
  | [], _ => .pure _
  | n :: ns, hns => by
    rw [nodesReadOnly, Bool.and_eq_true] at hns
    rw [renderNodes, renderNodes]
    refine (renderNode_reworded frames n hns.1).bind fun out => ?_
    split
    · exact (renderNodes_reworded out.frames ns hns.2).bind fun others => .pure _
    · exact .pure _

theorem renderNode_reworded {chance : Chance} (frames : List Frame) :
    (n : Node) → n.readsOnly allowed = true →
      Reworded ρ (renderNode env chance frames n) (renderNode env' chance frames n)
  | .text s, _ => .pure _
  | .raw opening s closing, _ => .pure _
  | .comment edges, _ => .pure _
  | .define opening name params body closing, _ => .pure _
  | .print edges e, hn => by
    rw [renderNode, renderNode]
    exact (Expr.eval_reworded h e hn).bind fun v => .pure _
  | .assign edges global name e, hn => by
    rw [renderNode, renderNode]
    exact (Expr.eval_reworded h e hn).bind fun v => .pure _
  | .insert edges names skippable, hn => by cases hn
  | .forLoop opening key item e body none closing, hn => by
    rw [Node.readsOnly, Bool.and_eq_true] at hn
    rw [renderNode, renderNode]
    split
    · exact .fail _
    · refine (Expr.eval_reworded h e hn.1).bind fun v => (Reworded.lift _).bind fun rounds => ?_
      dsimp only
      split
      · exact .pure _
      · exact runRounds_reworded (fun chance frames => renderNodes_reworded frames body hn.2) _ _ _
  | .forLoop opening key item e body (some others) closing, hn => by
    rw [Node.readsOnly, Bool.and_eq_true, Bool.and_eq_true] at hn
    rw [renderNode, renderNode]
    split
    · exact .fail _
    · refine (Expr.eval_reworded h e hn.1.1).bind fun v => (Reworded.lift _).bind fun rounds => ?_
      dsimp only
      split
      · rw [renderOtherwise, renderOtherwise]
        exact renderNodes_reworded frames others hn.2
      · exact runRounds_reworded (fun _ frames => renderNodes_reworded frames body hn.1.2) _ _ _
  | .cond branches none closing, hn => by
    rw [renderNode, renderNode]
    exact renderBranches_reworded frames (.pure _) branches hn
  | .cond branches (some (.mk edges body)) closing, hn => by
    rw [Node.readsOnly, Bool.and_eq_true] at hn
    rw [renderNode, renderNode]
    refine renderBranches_reworded frames ?_ branches hn.1
    rw [renderElse, renderElse]
    exact renderNodes_reworded frames body hn.2
  | .filtered opening filter body closing, hn => by
    rw [Node.readsOnly, Bool.and_eq_true] at hn
    rw [renderNode, renderNode]
    refine (renderNodes_reworded frames body hn.2).bind fun out => ?_
    split
    · exact .pure _
    · exact (Call.filter_reworded h _ filter hn.1).bind fun v => .pure _
  | .block opening name body closing, hn => by cases hn
  | .breakLoop edges, _ => by
    rw [renderNode, renderNode]
    split
    · exact .pure _
    · exact .fail _
  | .continueLoop edges, _ => by
    rw [renderNode, renderNode]
    split
    · exact .pure _
    · exact .fail _
  | .parentBlock, _ => .fail _

theorem renderBranches_reworded {chance : Chance} (frames : List Frame)
    {otherwise otherwise' : Unit → Result Output}
    (hotherwise : Reworded ρ (otherwise ()) (otherwise' ())) :
    (bs : List Branch) → branchesReadOnly allowed bs = true →
      Reworded ρ (renderBranches env chance frames otherwise bs)
        (renderBranches env' chance frames otherwise' bs)
  | [], _ => hotherwise
  | .mk edges c body :: bs, hbs => by
    rw [branchesReadOnly, Bool.and_eq_true, Bool.and_eq_true] at hbs
    rw [renderBranches, renderBranches]
    refine (Expr.truth_reworded h c hbs.1.1).bind fun b => ?_
    split
    · exact renderNodes_reworded frames body hbs.1.2
    · exact renderBranches_reworded frames hotherwise bs hbs.2

end

end Syntax

end Scaffold.Template
