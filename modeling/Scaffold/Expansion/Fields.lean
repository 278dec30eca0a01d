import Scaffold.Expansion.Basic
import Scaffold.Manifest.Definition

/-!
# Expanding fields

Definitions are resolved one after the other on top of some fields: a literal is taken as it is, an
expression is expanded with the fields that there are by then and draws from a branch of its own.
The first failure ends it. `expandFields_append` says that resolving can be interrupted and resumed
anywhere, with the branches that are left.
-/

namespace Scaffold.Expansion

/-- A field that could not be expanded, and why. -/
structure FieldFailure where
  field : String
  cause : Failure
  deriving Repr, DecidableEq

/-- The text of a failure. -/
def FieldFailure.message (failure : FieldFailure) : String :=
  s!"failed to expand field '{failure.field}': {failure.cause.message}"

/-- The value of a definition, given how to expand an expression. -/
def valueOf (expand : (name template : String) → Fields → Except Failure String)
    (fields : Fields) (definition : Definition) : Except FieldFailure Field :=
  match definition.body with
  | .literal value => .ok value
  | .expression template =>
    match expand definition.name template fields with
    | .ok text => .ok (.text text)
    | .error cause => .error ⟨definition.name, cause⟩

/-- Expands definitions on top of some fields. -/
def expandFields (registry : Registry) (around : Surroundings) (fields : Fields) :
    List Definition → Except FieldFailure Fields
  | [] => .ok fields
  | definition :: rest =>
    match valueOf (expandText registry (around.part 0)) fields definition with
    | .ok value =>
      expandFields registry (around.later 1) (fields.insert definition.name value) rest
    | .error failure => .error failure

theorem expandFields_append (registry : Registry) (around : Surroundings) (fields : Fields)
    (first second : List Definition) :
    expandFields registry around fields (first ++ second) =
      match expandFields registry around fields first with
      | .ok middle => expandFields registry (around.later first.length) middle second
      | .error failure => .error failure := by
  induction first generalizing around fields with
  | nil => simp [expandFields]
  | cons d rest ih =>
    simp only [List.cons_append, expandFields]
    cases valueOf (expandText registry (around.part 0)) fields d with
    | error failure => rfl
    | ok value => simp only [ih, Surroundings.later_later, List.length_cons, Nat.add_comm]

end Scaffold.Expansion
