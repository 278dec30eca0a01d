import Scaffold.Template.Page
import Scaffold.Template.Describe
import Scaffold.Template.Testers
import Scaffold.Template.Scope
import Scaffold.Template.Filter.Catalog

/-!
# Rendering

Expressions are evaluated in a scope and leave it as it is; nodes print text and may assign names.
Both follow the tree that was read. What leads away from the tree, the body of a macro, a block or
the page itself that is inserted, is rendered through `Env.body`; `renderBodies` ties that knot
level by level. A failure remembers the macro whose frame was innermost when it arose.

What is left to chance comes in as a tree, of which every part of an expression and every node draws
from a branch of its own. Two things depend on it: what functions draw, and which of several
arguments that fail is the one that is told of, since named arguments are taken in no fixed order;
`exists_arguments_iff` says that it can be any of them.
Some things are simpler than they might be: loops run over the characters of a text one by one,
whether or not some of them are seen as one; a page can insert itself but not import its own macros
under another name; bodies call each other `depthLimit` deep at most; the clock shows whole seconds
at the prime meridian; and slugs keep letters of the Latin script only.
-/

namespace Scaffold.Template

/-- A failure on its way out: its causes, the outermost one first, and the macro in whose frame it
arose. -/
structure Fault where
  causes : List Cause
  site : Option (String × String)

/-- The messages of a failure. -/
def Fault.trace (fault : Fault) : Trace := fault.causes.map Cause.message

/-- What comes out of an evaluation. -/
abbrev Result := Except Fault

/-- How the rendering of a body ends. -/
inductive Flow where
  | normal
  /-- The loop around it is left. -/
  | broken
  /-- The loop around it goes on with the next round. -/
  | continued
  deriving Repr, DecidableEq

/-- Text that was printed, and the frames as they are afterwards. -/
structure Output where
  text : String
  frames : List Frame
  flow : Flow

/-- What stays the same while a page is rendered. -/
structure Env where
  page : Page
  context : Context
  function? : String → Option Function
  /-- Renders a body that is found by name. -/
  body : Chance → List Frame → List Node → Result Output

/-- The scope of some frames. -/
def Env.scope (env : Env) (frames : List Frame) : Scope := ⟨env.page.name, env.context, frames⟩

namespace Scope

/-- Stops at a place. -/
def stop {α : Type} (scope : Scope) (causes : List Cause) : Result α :=
  .error ⟨causes, scope.site?⟩

/-- Fails at a place. -/
def fail {α : Type} (scope : Scope) (failure : Failure) : Result α :=
  scope.stop [.failure failure]

/-- Takes over an outcome, its failure arising at this place. -/
def lift {α : Type} (scope : Scope) : Except Failure α → Result α
  | .ok a => .ok a
  | .error failure => scope.fail failure

/-- The value of a path at a place. -/
def value (scope : Scope) (path : String) : Result Value :=
  match scope.resolve path with
  | .ok v => .ok v
  | .error u => scope.stop [.unresolved u]

end Scope

/-- Puts a failure behind another one that it is the cause of. -/
def Result.causing {α : Type} (failure : Failure) : Result α → Result α
  | .ok a => .ok a
  | .error fault => .error { fault with causes := .failure failure :: fault.causes }

/-! ## Expressions -/

/-- The value of a variable with its filters. A default steps in for a missing or null value, and
what is missing counts as false under a negation. -/
def nameValue (scope : Scope) (path : String) (negated : Bool)
    (fallback : Unit → Option (Option (Result Value)))
    (filtered : Value → Result Value) : Result Value := do
  let found := scope.resolve path
  let useFallback : Bool := match found with
    | .ok .null => true
    | .ok _ => false
    | .error _ => true
  let finish (v : Value) : Result Value := do
    let v ← filtered v
    pure (if negated then .bool !v.truthy else v)
  match if useFallback then fallback () else none with
  | some (some v) => v >>= finish
  | some none => scope.fail .defaultWithoutValue
  | none =>
    match found with
    | .ok v => finish v
    | .error u => if negated then pure (.bool true) else scope.stop [.unresolved u]

/-- Whether a variable counts as true in a condition; whatever fails counts as false. -/
def nameTruth (negated : Bool) (value : Result Value) : Bool :=
  let found := match value with
    | .ok v => v.truthy
    | .error _ => false
  -- A negation is part of the value already, and a failure is no reason to pass.
  if negated then !(!found) else found

/-- Combines two truth values, the second one only if the first one leaves it open. -/
def combineTruth (op : LogicOp) (lhs rhs : Unit → Result Bool) : Result Bool := do
  let l ← lhs ()
  match op, l with
  | .or, true => pure true
  | .and, false => pure false
  | _, _ => rhs ()

/-- Keeps only the outermost cause of a failure. -/
def outermostOnly {α : Type} : Result α → Result α
  | .ok a => .ok a
  | .error fault => .error { fault with causes := fault.causes.take 1 }

/-- Whether a value is negated. -/
def applyNegation (negated b : Bool) : Bool := if negated then !b else b

/-- The outcome of a comparison. A number and something else are neither equal nor different, which
a negation does not change. -/
def compareTruth (scope : Scope) (negated : Bool) (op : CompareOp)
    (lhsValue rhsValue : Unit → Result Value)
    (lhsNumber rhsNumber : Unit → Result (Option Number)) : Result Bool :=
  match op with
  | .eq | .ne => do
    let l ← lhsValue ()
    let r ← rhsValue ()
    match compareValues (op == .ne) l r with
    | some b => pure (applyNegation negated b)
    | none => pure false
  | op => do
    let l ← lhsNumber ()
    let r ← rhsNumber ()
    let b ← scope.lift (compareSizes op l r)
    pure (applyNegation negated b)

/-- The outcome of a membership condition. -/
def memberTruth (scope : Scope) (negated : Bool) (item container : Result Value) :
    Result Bool := do
  let i ← item
  let c ← container
  let b ← scope.lift (isMember i c)
  pure (applyNegation negated b)

/-- The outcome of a test. -/
def testTruth (scope : Scope) (negated : Bool) (path tester : String)
    (args : Result (List Value)) : Result Bool :=
  match Tester.find? tester with
  | none => scope.fail (.noTester tester)
  | some run => do
    let vs ← Result.causing (.testerFailed tester) args
    let v := (scope.resolve path).toOption
    let b ← Result.causing (.testerFailed tester) (scope.lift (run v vs))
    pure (applyNegation negated b)

/-- The first failure among some outcomes. -/
def firstFault : List (String × Result Value) → Option Fault
  | [] => none
  | (_, .error fault) :: _ => some fault
  | (_, .ok _) :: rest => firstFault rest

/-- The values among some outcomes, with their names. -/
def valuesOf : List (String × Result Value) → Args
  | [] => []
  | (_, .error _) :: rest => valuesOf rest
  | (n, .ok v) :: rest => (n, v) :: valuesOf rest

/-- The values of named arguments, or the failure that comes first in an order left to chance. -/
def arguments (chance : Chance) (given : List (String × Result Value)) : Result Args :=
  match firstFault (chance.shuffle given) with
  | some fault => .error fault
  | none => .ok (valuesOf given)

theorem mem_of_firstFault {given : List (String × Result Value)} {fault : Fault}
    (h : firstFault given = some fault) : ∃ arg ∈ given, arg.2 = .error fault := by
  fun_induction firstFault given with
  | case1 => cases h
  | case2 name fault' rest =>
    cases h
    exact ⟨_, .head rest, rfl⟩
  | case3 name v rest ih =>
    obtain ⟨arg, harg, hfault⟩ := ih h
    exact ⟨arg, .tail _ harg, hfault⟩

theorem firstFault_eq_none_iff {given : List (String × Result Value)} :
    firstFault given = none ↔ ∀ arg ∈ given, ∃ v, arg.2 = .ok v := by
  fun_induction firstFault given with
  | case1 => simp
  | case2 => simp
  | case3 name v rest ih => simp [ih]

/-- Whether named arguments have values is not left to chance. -/
theorem arguments_of_ok (chance : Chance) {given : List (String × Result Value)}
    (h : ∀ arg ∈ given, ∃ v, arg.2 = .ok v) : arguments chance given = .ok (valuesOf given) := by
  have hnone : firstFault (chance.shuffle given) = none :=
    firstFault_eq_none_iff.2 fun arg harg => h arg ((chance.shuffle_perm given).mem_iff.1 harg)
  rw [arguments, hnone]

/-- If named arguments fail, one of them does. -/
theorem mem_of_arguments {chance : Chance} {given : List (String × Result Value)} {fault : Fault}
    (h : arguments chance given = .error fault) : ∃ arg ∈ given, arg.2 = .error fault := by
  unfold arguments at h
  split at h
  · rename_i fault' hfirst
    cases h
    obtain ⟨arg, harg, hfault⟩ := mem_of_firstFault hfirst
    exact ⟨arg, (chance.shuffle_perm given).mem_iff.1 harg, hfault⟩
  · cases h

/-- If one of some named arguments fails, they do. -/
theorem arguments_of_error (chance : Chance) {given : List (String × Result Value)}
    {arg : String × Result Value} {fault : Fault} (harg : arg ∈ given) (h : arg.2 = .error fault) :
    ∃ fault', arguments chance given = .error fault' := by
  cases hfirst : firstFault (chance.shuffle given) with
  | none =>
    obtain ⟨v, hv⟩ := firstFault_eq_none_iff.1 hfirst arg
      ((chance.shuffle_perm given).mem_iff.2 harg)
    rw [h] at hv
    cases hv
  | some fault' =>
    rw [arguments, hfirst]
    exact ⟨fault', rfl⟩

/-- Any of the named arguments that fail can be the one that is told of. -/
theorem exists_arguments_iff {given : List (String × Result Value)} {fault : Fault} :
    (∃ chance, arguments chance given = .error fault) ↔
      ∃ arg ∈ given, arg.2 = .error fault := by
  constructor
  · rintro ⟨chance, h⟩
    exact mem_of_arguments h
  · rintro ⟨⟨name, result⟩, harg, rfl⟩
    obtain ⟨before, behind, rfl⟩ := List.append_of_mem harg
    -- an order that begins with this argument
    have hfirst : ((name, .error fault) :: (before ++ behind)).Perm
        (before ++ (name, .error fault) :: behind) := List.perm_middle.symm
    obtain ⟨chance, hchance⟩ := Chance.exists_shuffle hfirst
    exact ⟨chance, by rw [arguments, hchance, firstFault]⟩

/-- The value of a function call. -/
def callFunction (env : Env) (chance : Chance) (frames : List Frame) (name : String)
    (given : List (String × Result Value)) : Result Value :=
  match env.function? name with
  | none => (env.scope frames).fail (.noFunction name)
  | some run => do
    let vs ← Result.causing (.functionFailed name) (arguments (chance.branch 0) given)
    match run (chance.branch 1) vs with
    | .ok v => pure v
    | .error cause =>
      (env.scope frames).stop (.failure (.functionFailed name) :: cause.map .said)

/-- A value after a filter. -/
def callFilter (env : Env) (chance : Chance) (frames : List Frame) (v : Value) (name : String)
    (given : List (String × Result Value)) : Result Value :=
  match Filter.find? name with
  | none => (env.scope frames).fail (.noFilter name)
  | some run => do
    let vs ← Result.causing (.filterFailed name) (arguments (chance.branch 0) given)
    Result.causing (.filterFailed name) ((env.scope frames).lift (run v vs))

/-- The text of a macro. Its parameters take the arguments given, then their default values; the
macro sees nothing else that is assigned where it is called. -/
def callMacro (env : Env) (chance : Chance) (frames : List Frame) (space name : String)
    (given : List (String × Result Value)) : Result String :=
  if space ≠ "self" ∨ env.page.definitions.isEmpty then
    (env.scope frames).fail (.noMacroSpace space env.page.name)
  else match env.page.definition? name with
    | none => (env.scope frames).fail (.noMacro space name env.page.name)
    | some definition => do
      let assigned ← arguments (chance.branch 0) <| definition.params.map fun (param, fallback) =>
        (param, match given.lookup param, fallback with
          | some v, _ => v
          | none, some v => pure v
          | none, none => (env.scope frames).fail (.macroArgument name param))
      let out ← env.body (chance.branch 1) [⟨.definition space name, assigned.reverse⟩]
        definition.body
      pure out.text

/-- The text of a value in a concatenation, with the failure for when it has none. -/
def concatResult (scope : Scope) (failure : Failure) (v : Result Value) : Result String := do
  let v ← v
  match concatText? v with
  | some text => pure text
  | none => scope.fail failure

/-- The number that a value is, with the failure for when it is none. -/
def numberResult (scope : Scope) (failure : Failure) (v : Result Value) :
    Result (Option Number) := do
  let v ← v
  match v with
  | .number n => pure (some n)
  | _ => scope.fail failure

mutual

/-- The value of an expression. -/
def Expr.eval (env : Env) (chance : Chance) (frames : List Frame) : Expr → Result Value
  | .mk (.name path) negated filters =>
    nameValue (env.scope frames) path negated
      (fun _ => fallbackOf env (chance.branch 0) frames filters)
      (applyFilters env (chance.branch 1) frames filters)
  | .mk operand negated filters => do
    let v ← operand.eval env (chance.branch 0) frames negated
    let v ← applyFilters env (chance.branch 1) frames filters v
    pure (if negated then .bool !v.truthy else v)

/-- The value of an operand that is no variable. Conditions take the negation of their expression
into account. -/
def Operand.eval (env : Env) (chance : Chance) (frames : List Frame) (negated : Bool) :
    Operand → Result Value
  | .text s => pure (.string s)
  | .int n => pure (.number (.int n))
  | .float x => pure (.ofFloat x)
  | .bool b => pure (.bool b)
  | .name path => (env.scope frames).value path
  | .math op lhs rhs => outermostOnly do
    let l ← lhs.number env (chance.branch 0) frames
    let r ← rhs.number env (chance.branch 1) frames
    let n ← (env.scope frames).lift
      (arithmetic op (fun _ => lhs.describe (chance.branch 2))
        (fun _ => rhs.describe (chance.branch 3)) l r)
    pure (arithmeticValue n)
  | .compare op lhs rhs => do
    let b ← compareTruth (env.scope frames) negated op
      (fun _ => lhs.eval env (chance.branch 0) frames)
      (fun _ => rhs.eval env (chance.branch 1) frames)
      (fun _ => lhs.number env (chance.branch 0) frames)
      (fun _ => rhs.number env (chance.branch 1) frames)
    pure (.bool b)
  | .logic op lhs rhs => do
    let b ← combineTruth op (fun _ => lhs.truth env (chance.branch 0) frames)
      (fun _ => rhs.truth env (chance.branch 1) frames)
    pure (.bool (applyNegation negated b))
  | .member negated item container => do
    let b ← memberTruth (env.scope frames) negated (item.eval env (chance.branch 0) frames)
      (container.eval env (chance.branch 1) frames)
    pure (.bool b)
  | .test negated path tester args => do
    let b ← testTruth (env.scope frames) negated path tester (values env chance frames args)
    pure (.bool b)
  | .call function => function.run env chance frames
  | .macroCall space name args => do
    let text ← callMacro env chance frames space name
      (namedValues env (chance.branch 2) frames args)
    pure (.string text)
  | .array items => do
    let vs ← values env chance frames items
    pure (.array vs)
  | .concat parts => do
    let text ← concatenated env chance frames parts
    pure (.string text)

/-- Whether an expression counts as true in a condition. -/
def Expr.truth (env : Env) (chance : Chance) (frames : List Frame) : Expr → Result Bool
  | .mk (.name path) negated filters =>
    pure (nameTruth negated
      (nameValue (env.scope frames) path negated
        (fun _ => fallbackOf env (chance.branch 0) frames filters)
        (applyFilters env (chance.branch 1) frames filters)))
  | .mk (.concat parts) negated filters => do
    let text ← concatenated env (chance.branch 0) frames parts
    let v ← applyFilters env (chance.branch 1) frames filters (.string text)
    pure (applyNegation negated v.truthy)
  | .mk operand negated _ => operand.truth env (chance.branch 0) frames negated

/-- Whether an operand that is no variable counts as true, filters aside. -/
def Operand.truth (env : Env) (chance : Chance) (frames : List Frame) (negated : Bool) :
    Operand → Result Bool
  | .text s => pure (applyNegation negated (s != ""))
  | .int n => pure (applyNegation negated (n != 0))
  | .float x => pure (applyNegation negated (arithmeticTruth (some (.float x))))
  | .bool b => pure (applyNegation negated b)
  | .name path => do
    let v ← (env.scope frames).value path
    pure (applyNegation negated v.truthy)
  | .math op lhs rhs => do
    let l ← lhs.number env (chance.branch 0) frames
    let r ← rhs.number env (chance.branch 1) frames
    let n ← (env.scope frames).lift
      (arithmetic op (fun _ => lhs.describe (chance.branch 2))
        (fun _ => rhs.describe (chance.branch 3)) l r)
    pure (applyNegation negated (arithmeticTruth n))
  | .compare op lhs rhs =>
    compareTruth (env.scope frames) negated op
      (fun _ => lhs.eval env (chance.branch 0) frames)
      (fun _ => rhs.eval env (chance.branch 1) frames)
      (fun _ => lhs.number env (chance.branch 0) frames)
      (fun _ => rhs.number env (chance.branch 1) frames)
  | .logic op lhs rhs => do
    let b ← combineTruth op (fun _ => lhs.truth env (chance.branch 0) frames)
      (fun _ => rhs.truth env (chance.branch 1) frames)
    pure (applyNegation negated b)
  | .member memberNegated item container => do
    let b ← memberTruth (env.scope frames) memberNegated (item.eval env (chance.branch 0) frames)
      (container.eval env (chance.branch 1) frames)
    pure (applyNegation negated b)
  | .test testNegated path tester args => do
    let b ← testTruth (env.scope frames) testNegated path tester (values env chance frames args)
    pure (applyNegation negated b)
  | .call function => do
    let v ← function.run env chance frames
    match v with
    | .bool b => pure (applyNegation negated b)
    | _ => (env.scope frames).fail (.callNotLogical function.name)
  | .macroCall space name args => do
    let text ← callMacro env chance frames space name
      (namedValues env (chance.branch 2) frames args)
    pure (applyNegation negated (text != ""))
  | .array items => pure (applyNegation negated !items.isEmpty)
  | .concat parts => do
    let text ← concatenated env chance frames parts
    pure (applyNegation negated (text != ""))

/-- The number that an expression stands for in arithmetic. -/
def Expr.number (env : Env) (chance : Chance) (frames : List Frame) : Expr → Result (Option Number)
  | .mk operand _ [] => operand.number env (chance.branch 0) frames
  | .mk (.name path) negated filters =>
    numberResult (env.scope frames) .filteredNotNumeric
      (nameValue (env.scope frames) path negated
        (fun _ => fallbackOf env (chance.branch 0) frames filters)
        (applyFilters env (chance.branch 1) frames filters))
  | .mk operand negated filters => numberResult (env.scope frames) .filteredNotNumeric do
    let v ← operand.eval env (chance.branch 0) frames negated
    let v ← applyFilters env (chance.branch 1) frames filters v
    pure (if negated then .bool !v.truthy else v)

/-- The number that an operand stands for in arithmetic. -/
def Operand.number (env : Env) (chance : Chance) (frames : List Frame) :
    Operand → Result (Option Number)
  | .int n => pure (some (.int n))
  | .float x => pure (some (.float x))
  | .name path =>
    numberResult (env.scope frames) (.nameNotNumeric path)
      ((env.scope frames).value path)
  | .call function =>
    numberResult (env.scope frames) (.callNotNumeric function.name) (function.run env chance frames)
  | .math op lhs rhs => do
    let l ← lhs.number env (chance.branch 0) frames
    let r ← rhs.number env (chance.branch 1) frames
    (env.scope frames).lift
      (arithmetic op (fun _ => lhs.describe (chance.branch 2))
        (fun _ => rhs.describe (chance.branch 3)) l r)
  | .text s => (env.scope frames).fail (.mathOnText s)
  | .bool b => (env.scope frames).fail (.mathOnBool b)
  | .concat parts => (env.scope frames).fail (.mathOnConcat (describeConcat parts))
  | .test _ _ tester _ => (env.scope frames).fail (.mathOnTest tester)
  | .compare _ _ _ | .logic _ _ _ | .member _ _ _ | .macroCall _ _ _ | .array _ =>
    (env.scope frames).fail .mathOnOther

/-- The value of a function call. -/
def Call.run (env : Env) (chance : Chance) (frames : List Frame) : Call → Result Value
  | .mk name args =>
    callFunction env chance frames name (namedValues env (chance.branch 2) frames args)

/-- A value after a filter. -/
def Call.filter (env : Env) (chance : Chance) (frames : List Frame) (v : Value) :
    Call → Result Value
  | .mk name args =>
    callFilter env chance frames v name (namedValues env (chance.branch 2) frames args)

/-- A value after several filters. The filter that marks a text as safe and the one that supplies a
default have no effect here. -/
def applyFilters (env : Env) (chance : Chance) (frames : List Frame) :
    List Call → Value → Result Value
  | [], v => pure v
  | c :: rest, v => do
    if c.name = "safe" ∨ c.name = "default" then applyFilters env (chance.branch 1) frames rest v
    else
      let w ← c.filter env (chance.branch 0) frames v
      applyFilters env (chance.branch 1) frames rest w

/-- The default value that the first of some filters supplies; `some none` if it lacks one. -/
def fallbackOf (env : Env) (chance : Chance) (frames : List Frame) :
    List Call → Option (Option (Result Value))
  | [] => none
  | .mk name args :: _ =>
    if name = "default" then some ((namedValues env chance frames args).lookup "value") else none

/-- The values of some expressions. -/
def values (env : Env) (chance : Chance) (frames : List Frame) : List Expr → Result (List Value)
  | [] => pure []
  | e :: rest => do
    let v ← e.eval env (chance.branch 0) frames
    let vs ← values env (chance.branch 1) frames rest
    pure (v :: vs)

/-- What becomes of some named arguments, failures included. -/
def namedValues (env : Env) (chance : Chance) (frames : List Frame) :
    List (String × Expr) → List (String × Result Value)
  | [] => []
  | (n, e) :: rest =>
    (n, e.eval env (chance.branch 0) frames) :: namedValues env (chance.branch 1) frames rest

/-- The text of a concatenation. -/
def concatenated (env : Env) (chance : Chance) (frames : List Frame) : List Operand → Result String
  | [] => pure ""
  | part :: rest => do
    let text ← part.concatText env (chance.branch 0) frames
    let others ← concatenated env (chance.branch 1) frames rest
    pure (text ++ others)

/-- The text of a part of a concatenation. -/
def Operand.concatText (env : Env) (chance : Chance) (frames : List Frame) : Operand → Result String
  | .text s => pure s
  | .int n => pure (Number.text (.int n))
  | .float x => pure (Number.text (.float x))
  | .name path =>
    concatResult (env.scope frames) (.concatName path)
      ((env.scope frames).value path)
  | .call function =>
    concatResult (env.scope frames) (.concatCall function.name) (function.run env chance frames)
  | _ => pure ""

end

/-! ## Loops -/

/-- What a loop is said to run over in messages. -/
def containerName : Expr → Option String
  | .mk (.name path) _ _ => some path
  | .mk (.call function) _ _ => some function.name
  | .mk (.array _) _ _ => some "an array literal"
  | _ => none

/-- The keys and items that a loop runs over. Lists have no keys, maps must be given one, and a text
is a list of characters. -/
def roundsOf (name : String) (hasKey : Bool) : Value → Except Failure (List (String × Value))
  | .array items => if hasKey then .error (.loopKeyOnList name) else .ok (items.map (("", ·)))
  | .string s =>
    if hasKey then .error (.loopKeyOnList name)
    else .ok (s.toList.map fun c => ("", .string (String.ofList [c])))
  | .object entries => if hasKey then .ok entries else .error (.loopWithoutKey name)
  | _ => .error (.loopUnsupported name)

/-- Runs the rounds of a loop, each with the branch of its index. Each round starts with a fresh
frame, what it assigns further out stays. -/
def runRounds (keyName : Option String) (itemName : String) (count : Nat)
    (body : Chance → List Frame → Result Output) (chance : Chance) : (index : Nat) →
    List (String × Value) → List Frame → Result Output
  | _, [], outer => pure ⟨"", outer, .normal⟩
  | index, (key, item) :: rest, outer => do
    let round : Round := ⟨keyName, itemName, key, item, index, count⟩
    let out ← body (chance.branch index) (.ofKind (.loop round) :: outer)
    let outer := out.frames.tail
    if out.flow = .broken then pure ⟨out.text, outer, .normal⟩
    else
      let others ← runRounds keyName itemName count body chance (index + 1) rest outer
      pure ⟨out.text ++ others.text, others.frames, .normal⟩

/-! ## Nodes -/

mutual

/-- Renders nodes one after the other, until one of them leaves the body. -/
def renderNodes (env : Env) (chance : Chance) (frames : List Frame) : List Node → Result Output
  | [] => pure ⟨"", frames, .normal⟩
  | n :: rest => do
    let out ← renderNode env (chance.branch 0) frames n
    match out.flow with
    | .normal =>
      let others ← renderNodes env (chance.branch 1) out.frames rest
      pure { others with text := out.text ++ others.text }
    | _ => pure out

/-- Renders a node. -/
def renderNode (env : Env) (chance : Chance) (frames : List Frame) : Node → Result Output
  | .text s | .raw _ s _ => pure ⟨s, frames, .normal⟩
  | .comment _ | .define _ _ _ _ _ => pure ⟨"", frames, .normal⟩
  | .print _ value => do
    let v ← value.eval env chance frames
    pure ⟨v.text, frames, .normal⟩
  | .assign _ global name value => do
    let v ← value.eval env chance frames
    pure ⟨"", if global then assignGlobal name v frames else assignLocal name v frames, .normal⟩
  | .insert _ names skippable =>
    if names.contains env.page.name then do
      let out ← env.body chance (.ofKind .inserted :: frames) env.page.nodes
      pure ⟨out.text, out.frames.tail, .normal⟩
    else if skippable then pure ⟨"", frames, .normal⟩
    else (env.scope frames).fail (.noPage names)
  | .forLoop _ key item container body otherwise _ => do
    match containerName container with
    | none => (env.scope frames).fail (.loopContainer (container.operand.describe chance))
    | some name =>
      let v ← container.eval env (chance.branch 0) frames
      let rounds ← (env.scope frames).lift (roundsOf name key.isSome v)
      let run (chance : Chance) (frames : List Frame) : Result Output :=
        renderNodes env chance frames body
      if rounds.isEmpty then renderOtherwise env (chance.branch 1) frames otherwise
      else runRounds key item rounds.length run (chance.branch 1) 0 rounds frames
  | .cond branches otherwise _ =>
    renderBranches env (chance.branch 0) frames
      (fun _ => renderElse env (chance.branch 1) frames otherwise) branches
  | .filtered _ filter body _ => do
    let out ← renderNodes env (chance.branch 0) frames body
    if filter.name = "safe" then pure out
    else
      let v ← filter.filter env (chance.branch 1) out.frames (.string out.text)
      pure { out with text := v.text }
  | .block _ name body _ =>
    match env.page.block? name with
    | some found => env.body chance frames found
    | none => renderNodes env chance frames body
  | .breakLoop _ =>
    if inLoop frames then pure ⟨"", frames, .broken⟩
    else (env.scope frames).fail (.outsideLoop "break")
  | .continueLoop _ =>
    if inLoop frames then pure ⟨"", frames, .continued⟩
    else (env.scope frames).fail (.outsideLoop "continue")
  | .parentBlock => (env.scope frames).fail .parentBlockAtTop

/-- Renders the first branch whose condition holds; `otherwise` stands for what is left if there is
none. -/
def renderBranches (env : Env) (chance : Chance) (frames : List Frame)
    (otherwise : Unit → Result Output) : List Branch → Result Output
  | [] => otherwise ()
  | .mk _ condition body :: rest => do
    let b ← condition.truth env (chance.branch 0) frames
    if b then renderNodes env (chance.branch 1) frames body
    else renderBranches env (chance.branch 2) frames otherwise rest

/-- Renders the branch for when no condition holds. -/
def renderElse (env : Env) (chance : Chance) (frames : List Frame) :
    Option ElseBranch → Result Output
  | some (.mk _ body) => renderNodes env chance frames body
  | none => pure ⟨"", frames, .normal⟩

/-- Renders what a loop has for an empty container. -/
def renderOtherwise (env : Env) (chance : Chance) (frames : List Frame) :
    Option (List Node) → Result Output
  | some body => renderNodes env chance frames body
  | none => pure ⟨"", frames, .normal⟩

end

/-! ## Pages -/

/-- What the rendering of a page is given. -/
structure Engine where
  page : Page
  function? : String → Option Function
  chance : Chance

/-- How deeply macros and inserted pages may call each other. -/
def depthLimit : Nat := 1000

/-- Renders bodies that call others `depth` deep at most. -/
def renderBodies (engine : Engine) (context : Context) :
    (depth : Nat) → Chance → List Frame → List Node → Result Output
  | 0 => fun _ frames _ =>
    (Scope.mk engine.page.name context frames).fail .tooDeep
  | depth + 1 => fun chance frames nodes =>
    renderNodes ⟨engine.page, context, engine.function?, renderBodies engine context depth⟩
      chance frames nodes

/-- The outermost message of a page that could not be rendered. -/
def headline (page : String) (site : Option (String × String)) : String :=
  match site with
  | none => s!"Failed to render '{page}'"
  | some (space, name) =>
    s!"Failed to render '{page}': error while rendering macro `{space}::{name}`"

/-- Renders a page in a context. A page that is rendered again with more names draws anew. -/
def Engine.render (engine : Engine) (context : Context) : Except Trace String :=
  match renderBodies engine context depthLimit (engine.chance.branch context.length)
      [.ofKind .page] engine.page.nodes with
  | .ok out => .ok out.text
  | .error fault => .error (headline engine.page.name fault.site :: fault.trace)

end Scaffold.Template
