import Scaffold.Calendar.Moment
import Scaffold.Chance
import Scaffold.Template.Failure

/-!
# Functions

A function takes named arguments and gives a value or fails with a message; what it leaves to chance
it draws from a tree of its own. Those defined here are there in every template, unless the caller
supplies one of the same name. `Function.exists_random_iff` says which numbers can be drawn.
-/

namespace Scaffold.Template

/-- Named arguments with their values. -/
abbrev Args := List (String × Value)

/-- Computes a value from arguments, or tells what went wrong and why. -/
abbrev Function := Chance → Args → Except Trace Value

namespace Function

/-- Fails with a message that has no further cause. -/
def fail {α : Type} (message : String) : Except Trace α := .error [message]

/-- A natural number that fits 64 bits. -/
def natural? : Value → Option Nat
  | .number (.int n) => if 0 ≤ n ∧ n < Nat.pow 2 64 then some n.toNat else none
  | _ => none

/-- A whole number that fits 64 bits with a sign. -/
def integer? : Value → Option Int
  | .number (.int n) => if -(Nat.pow 2 63) ≤ n ∧ n < Nat.pow 2 63 then some n else none
  | _ => none

/-- A number among the arguments, if it is there; `wrong` is the message for what is none. -/
def numberArg {α : Type} (as? : Value → Option α) (args : Args) (name : String)
    (wrong : String → String) : Except Trace (Option α) :=
  match lookupEntry name args with
  | none => .ok none
  | some v =>
    match as? v with
    | some n => .ok (some n)
    | none => fail (wrong (Json.compact v))

theorem numberArg_of_bind {α : Type} {as? : Value → Option α} {args : Args} {name : String} {n : α}
    (h : (lookupEntry name args).bind as? = some n) (wrong : String → String) :
    numberArg as? args name wrong = .ok (some n) := by
  obtain ⟨v, hv, hn⟩ := Option.bind_eq_some_iff.1 h
  rw [numberArg, hv]
  dsimp only
  rw [hn]

/-- The numbers from `start` to before `end`, `step_by` apart; none if they are to be zero apart. -/
def range : Function := fun _ args => do
  let start ← numberArg natural? args "start" fun got =>
    s!"Function `range` received start={got} but `start` can only be a number"
  let step ← numberArg natural? args "step_by" fun got =>
    s!"Function `range` received step_by={got} but `step` can only be a number"
  let stop ← numberArg natural? args "end" fun got =>
    s!"Function `range` received end={got} but `end` can only be a number"
  let start := start.getD 0
  let step := step.getD 1
  match stop with
  | none => fail "Function `range` was called without a `end` argument"
  | some stop =>
    if start > stop then
      fail "Function `range` was called with a `start` argument greater than the `end` one"
    else
      let count := (stop - start + step - 1) / step
      .ok (.array ((List.range count).map fun i => .number (.int (start + i * step : Nat))))

/-- Fails with the message it is given. -/
def throw : Function := fun _ args =>
  match lookupEntry "message" args with
  | some (.string message) => fail message
  | some v =>
    fail ("Function `throw` received message=" ++ Json.compact v ++
      " but `message` can only be a string")
  | none => fail "Function `throw` was called without a `message` argument"

/-- The value of a variable of the environment, or a default value. -/
def environmentValue (environment : List (String × String)) : Function := fun _ args =>
  match lookupEntry "name" args with
  | some (.string name) =>
    match environment.lookup name, lookupEntry "default" args with
    | some value, _ => .ok (.string value)
    | none, some fallback => .ok fallback
    | none, none => fail s!"Environment variable `{name}` not found"
  | some v =>
    fail ("Function `get_env` received name=" ++ Json.compact v ++
      " but `name` can only be a string")
  | none => fail "Function `get_env` didn't receive a `name` argument"

/-- An argument of the clock that is a truth value, false if it is not there. -/
def clockFlag (args : Args) (name : String) : Except Trace Bool :=
  match lookupEntry name args with
  | none => .ok false
  | some (.bool b) => .ok b
  | some v =>
    fail s!"Function `now` received {name}={Json.compact v} but `{name}` can only be a boolean"

/-- What the clock shows, in whole seconds and at the prime meridian, as a text or as a number. -/
def now (seconds : Int) : Function := fun _ args => do
  let _ ← clockFlag args "utc"
  let inSeconds ← clockFlag args "timestamp"
  .ok (if inSeconds then .number (.int seconds) else .string (Moment.ofSeconds seconds).text)

/-- A random whole number from `start` to before `end`. A range without numbers has none to give,
which is a failure like any other; what else such a call may stop is not described. -/
def random : Function := fun chance args => do
  let start ← numberArg integer? args "start" fun got =>
    s!"Function `get_random` received start={got} but `start` can only be a number"
  let stop ← numberArg integer? args "end" fun got =>
    s!"Function `get_random` received end={got} but `end` can only be a number"
  let start := start.getD 0
  match stop with
  | none => fail "Function `get_random` didn't receive an `end` argument"
  | some stop =>
    if start < stop then .ok (.number (.int (chance.between start stop)))
    else fail "cannot sample empty range"

/-- A call that asks for a range can give the numbers of the range, and nothing else. -/
theorem exists_random_iff {args : Args} {start stop : Int} {v : Value}
    (hstart : (lookupEntry "start" args).bind integer? = some start)
    (hstop : (lookupEntry "end" args).bind integer? = some stop) :
    (∃ chance, random chance args = .ok v) ↔
      ∃ n, v = .number (.int n) ∧ start ≤ n ∧ n < stop := by
  have hrandom : ∀ chance, random chance args =
      if start < stop then .ok (.number (.int (chance.between start stop)))
      else fail "cannot sample empty range" := by
    intro chance
    rw [random, numberArg_of_bind hstart, numberArg_of_bind hstop]
    rfl
  constructor
  · rintro ⟨chance, h⟩
    rw [hrandom] at h
    by_cases hrange : start < stop
    · rw [if_pos hrange] at h
      obtain ⟨hlow, hhigh⟩ := chance.between_mem hrange
      exact ⟨_, (Except.ok.inj h).symm, hlow, hhigh⟩
    · rw [if_neg hrange] at h
      cases h
  · rintro ⟨n, rfl, hlow, hhigh⟩
    obtain ⟨chance, hchance⟩ := Chance.exists_between hlow hhigh
    refine ⟨chance, ?_⟩
    rw [hrandom, if_pos (by omega), hchance]

/-- The functions that are there in every template. -/
def standard (environment : List (String × String)) (seconds : Int) : List (String × Function) :=
  [("range", range), ("throw", throw), ("get_env", environmentValue environment),
    ("now", now seconds), ("get_random", random)]

end Function

end Scaffold.Template
