import Scaffold.Surroundings
import Scaffold.Toml.Document

/-!
# Settings

Settings are defaults that a file of the working directory or of the home directory gives. The first
of the two that is there counts, and settings that cannot be read are as good as none.
`file?_of_local` says that the file of the working directory hides the other.
-/

namespace Scaffold

/-- Paths and the Python module that count when the command line gives none. -/
structure Settings where
  licenseFile : Option String
  templateDirectory : Option String
  outputDirectory : Option String
  moduleName : Option String
  deriving Repr, DecidableEq

namespace Settings

/-- No settings. -/
def empty : Settings := ⟨none, none, none, none⟩

/-- Why settings could not be read. -/
inductive Fault where
  | notText
  | malformed
  deriving Repr, DecidableEq

/-- The text of a fault. -/
def Fault.message : Fault → String
  | .notText => "Failed to read CLI config, using defaults"
  | .malformed => "Failed to parse CLI config, using defaults"

/-! ## Reading -/

/-- The text under a name of a table. Every other value is refused. -/
def textOf? (table : Toml.Table) (name : String) : Option (Option String) :=
  match table.lookup name with
  | none => some none
  | some (.text s) => some (some s)
  | some _ => none

/-- The settings of a table. Other names have no meaning. -/
def ofTable? (table : Toml.Table) : Option Settings := do
  let licenseFile ← textOf? table "license-file"
  let templateDirectory ← textOf? table "template-dir"
  let outputDirectory ← textOf? table "output-dir"
  let moduleName ← textOf? table "python-module"
  pure ⟨licenseFile, templateDirectory, outputDirectory, moduleName⟩

/-- Reads settings. -/
def ofBytes (content : ByteArray) : Except Fault Settings :=
  match String.fromUTF8? content with
  | none => .error .notText
  | some text =>
    match (Toml.Table.ofText? text).bind ofTable? with
    | none => .error .malformed
    | some settings => .ok settings

/-! ## Finding -/

/-- The home directory. -/
def home? (around : Surroundings) : Option String := around.environment.lookup "HOME"

/-- The path of the settings of the working directory. -/
def localPath : String := ".qtcli.toml"

/-- The path of the settings of a home directory. -/
def pathBelow (home : String) : String := Path.join (Path.join home ".config") "qtcli.toml"

/-- The content of a regular file. -/
def contentAt? (around : Surroundings) (path : String) : Option ByteArray :=
  match around.disk.entryAt? path with
  | some (.file content) => some content
  | _ => none

/-- The content of the file that gives the settings. -/
def file? (around : Surroundings) : Option ByteArray :=
  match contentAt? around localPath with
  | some content => some content
  | none => (home? around).bind fun home => contentAt? around (pathBelow home)

/-- The settings that are found, and what is wrong with their file. -/
def find (around : Surroundings) : Settings × Option Fault :=
  match file? around with
  | none => (empty, none)
  | some content =>
    match ofBytes content with
    | .ok settings => (settings, none)
    | .error fault => (empty, some fault)

/-- A path of the settings, in which a tilde at the beginning stands for the home directory. -/
def expandHome (around : Surroundings) (path : String) : String :=
  match Text.stripStart? ['~', '/'] path.toList, home? around with
  | some rest, some home => Path.join home (String.ofList rest)
  | _, _ => path

theorem file?_of_local {around : Surroundings} {content : ByteArray}
    (h : contentAt? around localPath = some content) : file? around = some content := by
  simp [file?, h]

end Settings

end Scaffold
