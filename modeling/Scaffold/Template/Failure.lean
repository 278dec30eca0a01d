import Scaffold.Value.Json

/-!
# What stops a render

Looking up a path fails with an `Unresolved`, everything else that a template does with a
`Failure`, and each has its wording. What stops a render as a whole is a list of causes, the
outermost one first, which the caller gets to see as a trace of messages.
-/

namespace Scaffold.Template

/-- Messages of a failure and of its causes, the outermost one first. -/
abbrev Trace := List String

/-- Why a path means nothing. -/
inductive Unresolved where
  | name (path page : String)
  /-- A path with indices; `evaluated` has them replaced by their values. -/
  | element (path page evaluated : String)
  | inIndex (path : String) (cause : Unresolved)
  | indexKind (index path : String)

/-- The text of what makes a path mean nothing. -/
def Unresolved.message : Unresolved → String
  | .name path page => s!"Variable `{path}` not found in context while rendering '{page}'"
  | .element path page evaluated =>
    s!"Variable `{path}` not found in context while rendering '{page}': " ++
      s!"the evaluated version was `{evaluated}`. Maybe the index is out of bounds?"
  | .inIndex path cause => s!"Variable {path} can not be evaluated because: {cause.message}"
  | .indexKind index path =>
    s!"Only variables evaluating to String or Number can be used as index (`{index}` of `{path}`)"

/-- Why a template could not be rendered, if not for a path. -/
inductive Failure where
  | nameNotNumeric (path : String)
  | callNotNumeric (function : String)
  | filteredNotNumeric
  | mathOnText (s : String)
  | mathOnBool (b : Bool)
  | mathOnConcat (shown : String)
  | mathOnTest (tester : String)
  | mathOnOther
  | moduloByZero (lhs rhs : String)
  | overflow (lhs op rhs : String)
  | comparisonToNaN
  | callNotLogical (function : String)
  | itemNotText (shown container : String)
  | containerKind
  | concatName (path : String)
  | concatCall (function : String)
  | loopContainer (shown : String)
  | loopKeyOnList (name : String)
  | loopWithoutKey (name : String)
  | loopUnsupported (name : String)
  | noFunction (name : String)
  | noFilter (name : String)
  | noTester (name : String)
  | noPage (names : List String)
  | functionFailed (name : String)
  | filterFailed (name : String)
  | testerFailed (name : String)
  | defaultWithoutValue
  | macroArgument (name param : String)
  | noMacroSpace (space page : String)
  | noMacro (space name page : String)
  | parentBlockAtTop
  | outsideLoop (keyword : String)
  | tooDeep
  /-- A filter got a value that is not of the kind it works on. -/
  | filterInput (filter : String) (got : Value) (kind : String)
  /-- A filter got an argument that is not of the kind it needs. -/
  | filterArgument (filter param : String) (got : Value) (kind : String)
  | filterMissing (filter param : String)
  /-- A message that the function, filter or tester composed itself. -/
  | own (message : String)

/-- The text of a failure. -/
def Failure.message : Failure → String
  | .nameNotNumeric path =>
    s!"Variable `{path}` was used in a math operation but is not a number"
  | .callNotNumeric function =>
    s!"Function `{function}` was used in a math operation but is not returning a number"
  | .filteredNotNumeric => "Tried to do math with an expression not resulting in a number"
  | .mathOnText s => s!"Tried to do math with a string: `{s}`"
  | .mathOnBool b => s!"Tried to do math with a boolean: `{b}`"
  | .mathOnConcat shown => s!"Tried to do math with a string concatenation: {shown}"
  | .mathOnTest tester => s!"Tried to do math with a test: {tester}"
  | .mathOnOther => "Tried to do math with an unsupported expression"
  | .moduloByZero lhs rhs => s!"Tried to do a modulo by zero: {lhs}/{rhs}"
  | .overflow lhs op rhs => s!"{lhs} {op} {rhs} results in an out of bounds i64"
  | .comparisonToNaN => "Comparison to NaN"
  | .callNotLogical function =>
    s!"Function `{function}` was used in a logic operation but is not returning a bool"
  | .itemNotText shown container =>
    s!"Tried to check if {shown} is in a {container}, but it isn't a string"
  | .containerKind => "The `in` operator only supports strings, arrays and objects."
  | .concatName path =>
    s!"Tried to concat a value that is not a string or a number from ident {path}"
  | .concatCall function =>
    s!"Tried to concat a value that is not a string or a number from function call {function}"
  | .loopContainer shown =>
    "Forloop containers have to be an ident or a function call (tried to iterate on '" ++
      shown ++ "')"
  | .loopKeyOnList name =>
    s!"Tried to iterate using key value on variable `{name}`, but it isn't an object/map"
  | .loopWithoutKey name =>
    s!"Tried to iterate using key value on variable `{name}`, but it is missing a key"
  | .loopUnsupported name =>
    s!"Tried to iterate on a container (`{name}`) that has a unsupported type"
  | .noFunction name => s!"Function '{name}' not found"
  | .noFilter name => s!"Filter '{name}' not found"
  | .noTester name => s!"Test '{name}' not found"
  | .noPage names => "Template '[" ++ ", ".intercalate names ++ "]' not found"
  | .functionFailed name => s!"Function call '{name}' failed"
  | .filterFailed name => s!"Filter call '{name}' failed"
  | .testerFailed name => s!"Test call '{name}' failed"
  | .defaultWithoutValue => "The `default` filter requires a `value` argument."
  | .macroArgument name param => s!"Macro `{name}` is missing the argument `{param}`"
  | .noMacroSpace space page =>
    s!"Macro namespace `{space}` was not found in template `{page}`. " ++
      "Have you maybe forgotten to import it, or misspelled it?"
  | .noMacro space name page => s!"Macro `{space}::{name}` not found in template `{page}`"
  | .parentBlockAtTop => "Tried to use super() in the top level block"
  | .outsideLoop keyword => s!"Attempted `{keyword}` while not in `for loop`"
  | .tooDeep => "Templates are nested too deeply"
  | .filterInput filter got kind =>
    s!"Filter `{filter}` was called on an incorrect value: got `" ++ Json.compact got ++
      s!"` but expected a {kind}"
  | .filterArgument filter param got kind =>
    s!"Filter `{filter}` received an incorrect type for arg `{param}`: got `" ++
      Json.compact got ++ s!"` but expected a {kind}"
  | .filterMissing filter param => s!"Filter `{filter}` expected an arg called `{param}`"
  | .own message => message

/-- A single thing that stops a render: a path without meaning, another failure, or what a function
that was called said. -/
inductive Cause where
  | unresolved (u : Unresolved)
  | failure (f : Failure)
  | said (message : String)

/-- The text of a cause. -/
def Cause.message : Cause → String
  | .unresolved u => u.message
  | .failure f => f.message
  | .said message => message

end Scaffold.Template
