import Scaffold.CommandLine.Arguments
import Scaffold.Generation.Request
import Scaffold.Settings

/-!
# Orders

An order is what the arguments ask for, completed from the environment: a variable stands in for a
path that the arguments do not give. Settings stand in for what is still missing when the order
becomes a request. `path_of_value` and `path_of_settings` say which of them a path of the request
comes from.
-/

namespace Scaffold.CommandLine

/-! ## The environment -/

/-- The variable of the environment that stands in for a parameter. -/
def Parameter.variable? : Parameter → Option String
  | .outputDirectory => some "QTCLI_OUTPUT_DIR"
  | .licenseFile => some "QTCLI_LICENSE_FILE"
  | .templateDirectory => some "QTCLI_TEMPLATE_DIR"
  | _ => none

/-- Takes the value of a parameter from the environment if none has been given. -/
def Given.complete (environment : List (String × String)) (given : Given) (parameter : Parameter) :
    Except Stop Given :=
  match given.value? parameter, parameter.variable?.bind (List.lookup · environment) with
  | none, some value => given.addValue parameter value
  | _, _ => .ok given

/-- What is asked for: a category, a name, and everything else that was given. -/
structure Order where
  category : Category
  name : String
  given : Given
  deriving Repr, DecidableEq

namespace Order

/-- Reads an order from the arguments of the command and the environment. -/
def ofArguments (environment : List (String × String)) (arguments : List String) :
    Except Stop Order := do
  let given ← Given.ofArguments arguments
  let given ← given.complete environment .outputDirectory
  let given ← given.complete environment .licenseFile
  let given ← given.complete environment .templateDirectory
  match given.category, given.name with
  | some category, some name => .ok ⟨category, name, given⟩
  | _, _ => .error .usage

/-! ## Requests -/

/-- A path of a request: the one that was given, or else that of the settings. Empty ones do not
count. -/
def path (around : Surroundings) (order : Order) (parameter : Parameter)
    (setting : Option String) : Option String :=
  match Request.given (order.given.value? parameter) with
  | some path => some path
  | none => (Request.given setting).map (Settings.expandHome around)

/-- The Python module of requests that name none. -/
def defaultModule : String := "PySide6"

/-- The type of requests that name none. -/
def defaultType : String := "cpp"

/-- The request of an order, completed from the settings. -/
def request (around : Surroundings) (settings : Settings) (order : Order) : Request :=
  { category := order.category
    typeName := (order.given.value? .typeName).getD defaultType
    name := order.name
    outputDirectory := path around order .outputDirectory settings.outputDirectory
    licenseFile := path around order .licenseFile settings.licenseFile
    templateDirectory := path around order .templateDirectory settings.templateDirectory
    baseClass := (order.given.value? .baseClass).getD ""
    macros := order.given.valuesOf .addition
    includes := order.given.valuesOf .inclusion
    isQObject := order.given.has .isQObject
    usesPragma := order.given.has .usesPragma
    moduleName :=
      ((order.given.value? .moduleName).or settings.moduleName).getD defaultModule
    imports := order.given.valuesOf .importation }

theorem path_of_value {around : Surroundings} {order : Order} {parameter : Parameter}
    {setting : Option String} {value : String} (h : order.given.value? parameter = some value)
    (hne : value ≠ "") : order.path around parameter setting = some value := by
  simp [path, h, Request.given, Option.filter, hne]

theorem path_of_settings {around : Surroundings} {order : Order} {parameter : Parameter}
    {setting : Option String} (h : order.given.value? parameter = none) :
    order.path around parameter setting =
      (Request.given setting).map (Settings.expandHome around) := by
  simp [path, h, Request.given]

end Order

end Scaffold.CommandLine
