import Scaffold.Text.Letter

/-!
# Targets

What can be generated is named by a category and a type; so far only classes have types. Every
target has a manifest in the directory of its family of templates.
-/

namespace Scaffold

/-- The broad kind of what is generated. -/
inductive Category where
  | projects
  | classes
  | files
  deriving Repr, DecidableEq

/-- The name of a category. -/
def Category.name : Category → String
  | .projects => "project"
  | .classes => "class"
  | .files => "file"

/-- The category of a name in small letters. -/
def Category.ofName? (name : String) : Option Category :=
  if name = "project" then some .projects
  else if name = "class" then some .classes
  else if name = "file" then some .files
  else none

/-- Reads a category, in whatever case its ASCII letters are; what is none gives a message. -/
def Category.read (name : String) : Except String Category :=
  match ofName? (Text.toLowercaseAscii name) with
  | some category => .ok category
  | none => .error s!"unknown target category '{Text.toLowercaseAscii name}'"

/-- What is generated. -/
inductive Target where
  | cppClass
  | pythonClass
  deriving Repr, DecidableEq

namespace Target

/-- The name of a target. -/
def name : Target → String
  | .cppClass => "C++ class"
  | .pythonClass => "Python class"

/-- The target of a type name in small letters. -/
def ofTypeName? (typeName : String) : Option Target :=
  if typeName = "cpp" ∨ typeName = "c++" then some .cppClass
  else if typeName = "python" ∨ typeName = "py" then some .pythonClass
  else none

/-- The target of a category and a type name in whatever case. -/
def find? (category : Category) (typeName : String) : Option Target :=
  match category with
  | .classes => ofTypeName? (Text.toLowercase typeName)
  | .projects | .files => none

/-- The directory of the templates of a target. -/
def directory : Target → String
  | .cppClass => "templates/classes/cpp"
  | .pythonClass => "templates/classes/python"

/-- The path of the manifest of a target. -/
def manifestPath (target : Target) : String := target.directory ++ "/config.yml"

end Target

end Scaffold
