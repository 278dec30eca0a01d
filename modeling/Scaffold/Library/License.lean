import Scaffold.Calendar
import Scaffold.Expansion.Basic
import Scaffold.Library.Arguments

/-!
# License headers

The license of a generated file is a template of its own, read from the disk. It sees the date, the
user and the fields that the caller passes, and only the function for the environment.
-/

namespace Scaffold.Library

open Template

/-- Gives the value of a variable of the environment, empty if it is not set. -/
def environmentText (around : Surroundings) : Function := fun _ args => do
  let name ← requiredText "qEnv" args "name"
  .ok (.string (around.variable name))

/-- The functions that a license template may call. -/
def licenseRegistry (around : Surroundings) : Registry :=
  Registry.empty.register "qEnv" (environmentText around)

/-- The name of the user. -/
def userName (around : Surroundings) : String :=
  match around.environment.lookup "USER" with
  | some user => user
  | none => around.variable "USERNAME"

/-- The fields of every license template. -/
def licenseFields (around : Surroundings) : Fields :=
  let today := Date.ofSeconds around.seconds
  .ofList [("Year", .text today.yearText), ("Month", .text today.monthText),
    ("Day", .text today.dayText), ("Date", .text today.text),
    ("User", .text (userName around))]

/-- Why a license could not be made. -/
structure LicenseFailure where
  path : String
  cause : Expansion.Failure

/-- The text of a failure. -/
def LicenseFailure.message (failure : LicenseFailure) : String :=
  s!"failed to generate license from {failure.path}: {failure.cause.message}"

/-- The text of a failure and those of its causes. -/
def LicenseFailure.trace (failure : LicenseFailure) : Trace :=
  failure.message :: failure.cause.message :: failure.cause.causes

/-- The license made from the template at a path; no path makes no license. -/
def license (around : Surroundings) (path : String) (fields : Fields) :
    Except LicenseFailure String :=
  if path = "" then .ok ""
  else
    match Expansion.expandPath (licenseRegistry around) around Source.anywhere
      ((Path.fileName? path).getD "") path ((licenseFields around).merge fields) with
    | .ok text => .ok text
    | .error cause => .error ⟨path, cause⟩

end Scaffold.Library
