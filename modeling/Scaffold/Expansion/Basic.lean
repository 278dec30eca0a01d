import Scaffold.Expansion.Undefined
import Scaffold.Expansion.Registry
import Scaffold.Template.Render
import Scaffold.Source.Basic
import Scaffold.Surroundings
import Scaffold.Field.Basic

/-!
# Expanding templates

An expansion renders a template with some fields and a registry of functions; names that are not
defined read as empty texts. Functions of the registry take precedence over those that are there in
every template. A template that could not be expanded was malformed, could not be rendered, or could
not be read at all.
-/

namespace Scaffold

open Template

namespace Expansion

/-- Why a template could not be expanded. -/
inductive Failure where
  | malformed (name : String) (complaint : Trace)
  | unrendered (name : String) (trace : Trace)
  | unread (path : String) (cause : Source.Fault)
  deriving Repr, DecidableEq

/-- The text of a failure. -/
def Failure.message : Failure → String
  | .malformed name complaint =>
    s!"failed to parse template '{name}': " ++ ": ".intercalate complaint
  | .unrendered name trace => s!"failed to render template '{name}': " ++ ": ".intercalate trace
  | .unread path cause => s!"failed to read template {path}: {cause.message}"

/-- The texts of what caused a failure. -/
def Failure.causes : Failure → Trace
  | .malformed _ complaint => complaint
  | .unrendered _ trace => trace
  | .unread _ cause => [cause.message]

/-- The name of a template without one. -/
def inlineName : String := "__inline__"

/-- The name that a template goes by. -/
def givenName (name : String) : String := if name = "" then inlineName else name

/-- The context of some fields. -/
def contextOf (fields : Fields) : Context :=
  (fields.entries.map fun (name, field) => (name, field.toValue)).reverse

/-- The function of a name: one of the registry, or one that is there in every template. -/
def functionFor (registry : Registry) (around : Surroundings) (name : String) :
    Option Function :=
  match registry.find? name with
  | some function => some function
  | none => (Function.standard around.environment around.seconds).lookup name

@[simp] theorem functionFor_drawing (registry : Registry) (around : Surroundings)
    (chance : Chance) :
    functionFor registry (around.drawing chance) = functionFor registry around := rfl

/-- Expands a template given as a text. -/
def expandText (registry : Registry) (around : Surroundings) (name text : String)
    (fields : Fields) : Except Failure String :=
  let name := givenName name
  match Page.read? name text with
  | none => .error (.malformed name (around.complaint name text))
  | some page =>
    let engine : Engine := ⟨page, functionFor registry around, around.chance⟩
    match (renderFilled engine.render (contextOf fields)).result with
    | .ok out => .ok out
    | .error trace => .error (.unrendered name trace)

/-- Expands a template that is read from a source. -/
def expandPath (registry : Registry) (around : Surroundings) (source : Source)
    (name path : String) (fields : Fields) : Except Failure String :=
  match source.readText around.disk path with
  | .ok text => expandText registry around name text fields
  | .error cause => .error (.unread path cause)

end Expansion

end Scaffold
