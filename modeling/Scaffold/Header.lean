import Scaffold.Text.Letter
import Scaffold.Text.Search

/-!
# The parts of a header

A scoped name is a class name behind the names of the scopes around it, the outermost first, with
double colons between them. Each scope is opened and closed in a line of its own. The include guard
of a header is its file name in capitals, with underscores for all that is neither an ASCII letter
nor a digit. Of some names, those that look like Qt classes are included: they are sorted, each of a
row of equal ones is kept once, and the module is put in front where it is known.
-/

namespace Scaffold.Header

/-! ## Scoped names -/

/-- What stands between the scopes of a name. -/
def scopeMark : List Char := "::".toList

/-- The class name at the end of a scoped name. -/
def className (name : String) : String := String.ofList (Text.lastPiece scopeMark name.toList)

/-- The scopes of a scoped name, the outermost first. -/
def scopes (name : String) : List String :=
  ((Text.pieces scopeMark name.toList).dropLast).map String.ofList

/-- The line that opens a scope. -/
def openingLine (scope : String) : String := "namespace " ++ scope ++ " \x7b"

/-- The line that closes a scope. -/
def closingLine (scope : String) : String := "\x7d // namespace " ++ scope

/-- The lines that open the scopes of a name, the outermost first. -/
def scopeOpenings (name : String) : String := "\n".intercalate ((scopes name).map openingLine)

/-- The lines that close the scopes of a name, the innermost first. -/
def scopeClosings (name : String) : String :=
  "\n".intercalate ((scopes name).reverse.map closingLine)

/-! ## Include guards -/

/-- A character of a guard. -/
def guardChar (c : Char) : Char := if c.isAlphanum then c.toUpper else '_'

/-- The include guard of a file name. -/
def includeGuard (fileName : String) : String := String.ofList (fileName.toList.map guardChar)

theorem includeGuard_append (a b : String) :
    includeGuard (a ++ b) = includeGuard a ++ includeGuard b := by
  simp [includeGuard]

/-! ## Included classes -/

/-- The classes whose module is known. -/
def modules : List (String × String) :=
  [("QObject", "QtCore"), ("QSharedData", "QtCore"), ("QWidget", "QtWidgets"),
    ("QMainWindow", "QtWidgets"), ("QQuickItem", "QtQuick"), ("QQmlEngine", "QtQml")]

/-- The module of a class. -/
def moduleOf? (name : String) : Option String := modules.lookup name

/-- Whether a name looks like a Qt class: a Q before an upper-case letter. -/
def looksLikeClass (name : String) : Bool :=
  match name.toList with
  | 'Q' :: c :: _ => Text.isUppercase c
  | _ => false

/-- A class behind its module, if that is known. -/
def qualified (name : String) : String :=
  match moduleOf? name with
  | some home => home ++ "/" ++ name
  | none => name

/-- Puts a name in its place among sorted names. -/
def insertName (name : String) : List String → List String
  | [] => [name]
  | n :: rest => if n < name then n :: insertName name rest else name :: n :: rest

/-- Some names in the order of their characters. -/
def sorted (names : List String) : List String := names.foldr insertName []

/-- Drops a name that is followed by itself. -/
def dropRepeats : List String → List String
  | a :: b :: rest => if a = b then dropRepeats (b :: rest) else a :: dropRepeats (b :: rest)
  | names => names

/-- Some names in ascending order, each once: they are sorted, then repetitions are dropped. -/
def ascending (names : List String) : List String := dropRepeats (sorted names)

/-- What is to be included for some names. -/
def includes (names : List String) : List String :=
  (ascending (names.filter looksLikeClass)).map qualified

end Scaffold.Header
