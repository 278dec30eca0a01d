import Scaffold.Disk.Basic
import Scaffold.Source.Bundled

/-!
# Where templates come from

Templates are read from those that come with the program or from a directory of the disk. A path
given to a directory is looked up below it, unless it is absolute.
-/

namespace Scaffold

/-- A place that templates are read from. -/
inductive Source where
  | bundled
  | directory (root : String)
  deriving Repr, DecidableEq

namespace Source

/-- The source that takes every path as it is. -/
def anywhere : Source := .directory ""

/-- Why a template could not be read. -/
inductive Fault where
  | notFound (path : String)
  | notRegular (path : String)
  | notText (path : String)
  deriving Repr, DecidableEq

/-- The text of a fault. -/
def Fault.message : Fault → String
  | .notFound path => s!"cannot read file info, given {path}"
  | .notRegular path => s!"cannot read non-regular file, given {path}"
  | .notText path => s!"file is not valid UTF-8: {path}"

/-- The bytes of a file. -/
def read (source : Source) (disk : Disk) (path : String) : Except Fault ByteArray :=
  match source with
  | .bundled =>
    match Bundled.find? path with
    | some text => .ok text.toUTF8
    | none => .error (.notFound path)
  | .directory root =>
    match disk.entryAt? (Path.join root path) with
    | some (.file content) => .ok content
    | some .directory => .error (.notRegular (Path.join root path))
    | none => .error (.notFound (Path.join root path))

/-- The text of a file. -/
def readText (source : Source) (disk : Disk) (path : String) : Except Fault String :=
  match source.read disk path with
  | .ok content =>
    match String.fromUTF8? content with
    | some text => .ok text
    | none => .error (.notText path)
  | .error fault => .error fault

end Source

end Scaffold
