import Scaffold.Surroundings
import Scaffold.Target

/-!
# Arguments

The arguments of the command line are read one after the other: words, options with a value, and
flags, of which several may share a dash. An option that may be given once only is refused the
second time. The first argument that asks for help or that is in error ends the reading.
`readAll_append` says that arguments can be read in two portions.
-/

namespace Scaffold.CommandLine

/-- What ends the reading of arguments. -/
inductive Stop where
  | usage
  | help
  | version
  deriving Repr, DecidableEq

/-- What a flag tells. -/
inductive Flag where
  | verbose
  | help
  | isQObject
  | usesPragma
  deriving Repr, DecidableEq

/-- What a value is given for. -/
inductive Parameter where
  | typeName
  | baseClass
  | addition
  | inclusion
  | importation
  | moduleName
  | outputDirectory
  | licenseFile
  | templateDirectory
  deriving Repr, DecidableEq

/-- What an option is. -/
inductive Meaning where
  | flag (flag : Flag)
  | parameter (parameter : Parameter)
  deriving Repr, DecidableEq

/-- The meaning of the name of an option. -/
def Meaning.ofName? (name : String) : Option Meaning :=
  match name with
  | "verbose" => some (.flag .verbose)
  | "help" => some (.flag .help)
  | "qobject" => some (.flag .isQObject)
  | "pragma" => some (.flag .usesPragma)
  | "type" => some (.parameter .typeName)
  | "base" => some (.parameter .baseClass)
  | "add" => some (.parameter .addition)
  | "include" => some (.parameter .inclusion)
  | "import" => some (.parameter .importation)
  | "module" => some (.parameter .moduleName)
  | "output-dir" => some (.parameter .outputDirectory)
  | "license" => some (.parameter .licenseFile)
  | "template-dir" => some (.parameter .templateDirectory)
  | _ => none

/-- The meaning of the letter of an option. -/
def Meaning.ofLetter? (letter : Char) : Option Meaning :=
  match letter with
  | 'v' => some (.flag .verbose)
  | 'h' => some (.flag .help)
  | 't' => some (.parameter .typeName)
  | 'b' => some (.parameter .baseClass)
  | 'a' => some (.parameter .addition)
  | 'i' => some (.parameter .inclusion)
  | 'o' => some (.parameter .outputDirectory)
  | 'l' => some (.parameter .licenseFile)
  | _ => none

namespace Parameter

/-- Whether several values may be given. -/
def isRepeatable : Parameter → Bool
  | .addition | .inclusion | .importation => true
  | _ => false

/-- Whether a value is a path, which must not be empty. -/
def isPath : Parameter → Bool
  | .outputDirectory | .licenseFile | .templateDirectory => true
  | _ => false

end Parameter

/-! ## What has been given -/

/-- What has been given: flags, values in order, the category and the name. A name comes with a
category before it. -/
structure Given where
  flags : List Flag
  values : List (Parameter × String)
  category : Option Category
  name : Option String
  deriving Repr, DecidableEq

namespace Given

/-- Nothing given yet. -/
def empty : Given := ⟨[], [], none, none⟩

/-- Whether a flag has been given. -/
def has (given : Given) (flag : Flag) : Bool := given.flags.contains flag

/-- The first value that has been given for a parameter. -/
def value? (given : Given) (parameter : Parameter) : Option String :=
  given.values.lookup parameter

/-- The values that have been given for a parameter. -/
def valuesOf (given : Given) (parameter : Parameter) : List String :=
  (given.values.filter (·.1 == parameter)).map (·.2)

/-- Gives a flag. -/
def addFlag (given : Given) (flag : Flag) : Except Stop Given :=
  if flag = .help then .error .help
  else if given.has flag then .error .usage
  else .ok { given with flags := flag :: given.flags }

/-- Gives a value for a parameter. -/
def addValue (given : Given) (parameter : Parameter) (value : String) : Except Stop Given :=
  if parameter.isPath ∧ value = "" then .error .usage
  else if ¬ parameter.isRepeatable ∧ (given.value? parameter).isSome then .error .usage
  else .ok { given with values := given.values ++ [(parameter, value)] }

/-- Gives a word: first the category, then the name. -/
def addWord (given : Given) (word : String) : Except Stop Given :=
  match given.category, given.name with
  | none, _ =>
    match Category.ofName? word with
    | some category => .ok { given with category := some category }
    | none => .error .usage
  | some _, none => .ok { given with name := some word }
  | some _, some _ => .error .usage

end Given

/-! ## Reading -/

/-- The state of the reading: what has been given, the parameter that the next argument is the value
of, and whether only words are to follow. -/
structure Progress where
  given : Given
  awaited : Option Parameter
  onlyWords : Bool
  deriving Repr, DecidableEq

namespace Progress

/-- Nothing read yet. -/
def start : Progress := ⟨.empty, none, false⟩

/-- The progress after something has been given. -/
def after (given : Given) : Progress := ⟨given, none, false⟩

/-- Reads letters behind one dash. What follows the letter of a parameter is its value. -/
def letters : Given → List Char → Except Stop Progress
  | given, [] => .ok (after given)
  | given, c :: cs =>
    match Meaning.ofLetter? c with
    | none => .error .usage
    | some (.flag flag) => (given.addFlag flag).bind fun given => letters given cs
    | some (.parameter parameter) =>
      match cs with
      | [] => .ok ⟨given, some parameter, false⟩
      | '=' :: value => (given.addValue parameter (String.ofList value)).map after
      | value => (given.addValue parameter (String.ofList value)).map after

/-- Reads what follows two dashes: a name, and perhaps a value behind an equals sign. -/
def name (given : Given) (cs : List Char) : Except Stop Progress :=
  let cut := Text.cutFirst? ['='] cs
  let name := String.ofList ((cut.map (·.1)).getD cs)
  match Meaning.ofName? name, cut with
  | none, _ => .error .usage
  | some (.flag flag), none => (given.addFlag flag).map after
  | some (.flag _), some _ => .error .usage
  | some (.parameter parameter), none => .ok ⟨given, some parameter, false⟩
  | some (.parameter parameter), some (_, value) =>
    (given.addValue parameter (String.ofList value)).map after

/-- Reads an argument. One that starts with a dash is no value of the argument before it. -/
def read (progress : Progress) (argument : String) : Except Stop Progress :=
  let word : Except Stop Progress :=
    (progress.given.addWord argument).map fun given => { progress with given := given }
  if progress.onlyWords then word
  else
    match argument.toList, progress.awaited with
    | '-' :: _ :: _, some _ => .error .usage
    | ['-', '-'], none => .ok { progress with onlyWords := true }
    | '-' :: '-' :: cs, none => name progress.given cs
    | '-' :: c :: cs, none => letters progress.given (c :: cs)
    | _, some parameter => (progress.given.addValue parameter argument).map after
    | _, none => word

/-- Reads arguments in order. -/
def readAll (progress : Progress) (arguments : List String) : Except Stop Progress :=
  arguments.foldlM read progress

theorem readAll_append (progress : Progress) (first second : List String) :
    progress.readAll (first ++ second) = (progress.readAll first).bind (·.readAll second) := by
  simp [readAll]
  rfl

end Progress

/-- Reads the arguments of the command that makes something new. -/
def Given.ofArguments (arguments : List String) : Except Stop Given :=
  match Progress.start.readAll arguments with
  | .error stop => .error stop
  | .ok progress => if progress.awaited.isSome then .error .usage else .ok progress.given

/-! ## Commands -/

/-- Reads the letters of flags before the command. Gives whether much is to be told. -/
def leadingLetters : (verbose : Bool) → List Char → Except Stop Bool
  | verbose, [] => .ok verbose
  | false, 'v' :: cs => leadingLetters true cs
  | _, 'h' :: _ => .error .help
  | _, 'V' :: _ => .error .version
  | _, _ :: _ => .error .usage

/-- The letters of flags that an argument before the command stands for. -/
def leadingFlags? (argument : String) : Option (List Char) :=
  match argument with
  | "--verbose" => some ['v']
  | "--help" => some ['h']
  | "--version" => some ['V']
  | _ =>
    match argument.toList with
    | '-' :: c :: cs => if c = '-' then none else some (c :: cs)
    | _ => none

/-- What asking for help ends with: help is there for the program and for each command. -/
def helpOn : List String → Stop
  | [] | ["new"] | ["help"] => .help
  | _ => .usage

/-- Finds the command and gives its arguments. -/
def findCommand : (verbose : Bool) → List String → Except Stop (List String)
  | _, [] => .error .usage
  | verbose, argument :: rest =>
    if argument = "new" then .ok rest
    else if argument = "help" then .error (helpOn rest)
    else
      match leadingFlags? argument with
      | none => .error .usage
      | some letters =>
        (leadingLetters verbose letters).bind fun verbose => findCommand verbose rest

end Scaffold.CommandLine
