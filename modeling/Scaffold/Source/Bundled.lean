import Scaffold.Path

/-!
# The templates that come with the program

Two families of class templates: the manifest and the files of a class in C++, and those of a class
in Python. They are written here line by line; `tag` and `shown` put a line's instructions and
expressions into their delimiters.
-/

namespace Scaffold.Source.Bundled

/-- An instruction of a template, spaces and dashes at its ends included. -/
def tag (body : String) : String := "\x7b%" ++ body ++ "%\x7d"

/-- An expression that a template prints. -/
def shown (body : String) : String := "\x7b\x7b " ++ body ++ " \x7d\x7d"

/-- A text of whole lines. -/
def text (lines : List String) : String := String.join (lines.map (· ++ "\n"))

/-! ## Classes in C++ -/

/-- What a class in C++ consists of: a header and a source file. -/
def cppManifest : String :=
  text [
    "version: \"1\"",
    "",
    "global:",
    "  fields:",
    "    - className: '" ++ shown "cpp(call=\"class_name\", name=qArgName)" ++ "'",
    "    - fileBase: '" ++ shown "className | lower" ++ "'",
    "    - headerName: '" ++ shown "qEnsureExtension(filename=fileBase, ext=\".h\")" ++ "'",
    "    - sourceName: '" ++ shown "fileBase" ++ ".cpp'",
    "    - hasQObjectMacro: '" ++ shown "qContains(haystack=qArgAdd, needle=\"Q_OBJECT\")" ++ "'",
    "    - isQObject: '" ++ tag " if qArgQObject or hasQObjectMacro " ++ "true" ++
      tag " endif " ++ "'",
    "    - baseClass: '" ++ tag " if qArgBase " ++ shown "qArgBase" ++ tag " elif isQObject " ++
      "QObject" ++ tag " endif " ++ "'",
    "    - parentType: '" ++
      tag " if baseClass == \"QWidget\" or baseClass == \"QMainWindow\" or baseClass == \"QDialog\" " ++
      "QWidget" ++ tag " else " ++ "QObject" ++ tag " endif " ++ "'",
    "  header: |",
    "    " ++ tag " if qArgLicenseFile " ++
      shown "cpp(call=\"license\", path=qArgLicenseFile, class_name=className, file_name=fileName)",
    "    " ++ tag " endif ",
    "",
    "files:",
    "  - in: class.h.tera",
    "    out: '" ++ shown "fileName" ++ "'",
    "    fields:",
    "      - fileName: '" ++ shown "headerName" ++ "'",
    "      - headerGuard: '" ++ shown "cpp(call=\"header_guard\", file=fileName)" ++ "'",
    "",
    "  - in: class.cpp.tera",
    "    out: '" ++ shown "fileName" ++ "'",
    "    fields:",
    "      - fileName: '" ++ shown "sourceName" ++ "'"]

/-- The header of a class in C++. -/
def cppHeader : String :=
  text [
    tag " if qArgPragma -",
    "#pragma once",
    tag "- else -",
    "#ifndef " ++ shown "headerGuard",
    "#define " ++ shown "headerGuard",
    tag "- endif ",
    tag " set allIncludes = qArgInclude | concat(with=baseClass) -",
    tag " set qtIncludes = cpp(call=\"includes\", names=allIncludes) -",
    tag " if qtIncludes ",
    tag " for header in qtIncludes -",
    "#include <" ++ shown "header" ++ ">",
    tag " endfor -",
    tag " endif ",
    tag " set namespaceOpen = cpp(call=\"namespace_open\", name=qArgName) -",
    tag " if namespaceOpen " ++ shown "namespaceOpen",
    "",
    tag " endif -",
    "class " ++ shown "className" ++ tag " if baseClass " ++ " : public " ++ shown "baseClass" ++
      tag " endif ",
    "\x7b",
    tag "- if isQObject ",
    "    Q_OBJECT",
    tag "- endif ",
    tag "- for extra in qArgAdd " ++ tag " if extra != \"Q_OBJECT\" ",
    "    " ++ shown "extra",
    tag "- endif " ++ tag " endfor ",
    "",
    "public:",
    "    " ++ tag " if isQObject " ++ "explicit " ++ shown "className" ++ "(" ++
      shown "parentType" ++ " *parent = nullptr);" ++ tag " else " ++ shown "className" ++
      "();" ++ tag " endif ",
    "    ~" ++ shown "className" ++ "()" ++ tag " if baseClass " ++ " override" ++
      tag " endif " ++ ";",
    "\x7d;",
    tag " set namespaceClose = cpp(call=\"namespace_close\", name=qArgName) -",
    tag " if namespaceClose ",
    shown "namespaceClose",
    tag " endif -",
    tag " if not qArgPragma ",
    "#endif // " ++ shown "headerGuard",
    tag " endif -"]

/-- The source file of a class in C++. -/
def cppSource : String :=
  text [
    "#include \"" ++ shown "headerName" ++ "\"",
    tag " set namespaceOpen = cpp(call=\"namespace_open\", name=qArgName) -",
    tag " if namespaceOpen ",
    shown "namespaceOpen",
    tag " endif ",
    tag " if isQObject -",
    shown "className" ++ "::" ++ shown "className" ++ "(" ++ shown "parentType" ++ " *parent)",
    "    : " ++ shown "baseClass" ++ "(parent)",
    tag "- else -",
    shown "className" ++ "::" ++ shown "className" ++ "()",
    tag "- endif ",
    "\x7b",
    "\x7d",
    "",
    shown "className" ++ "::~" ++ shown "className" ++ "() = default;",
    tag " set namespaceClose = cpp(call=\"namespace_close\", name=qArgName) -",
    tag " if namespaceClose ",
    shown "namespaceClose",
    tag " endif -"]

/-! ## Classes in Python -/

/-- What a class in Python consists of: a single module. -/
def pythonManifest : String :=
  text [
    "version: \"1\"",
    "",
    "global:",
    "  fields:",
    "    - className: '" ++ shown "cpp(call=\"class_name\", name=qArgName)" ++ "'",
    "    - fileStem: '" ++ shown "className | snake_case" ++ "'",
    "    - fileName: '" ++ shown "qEnsureExtension(filename=fileStem, ext=\".py\")" ++ "'",
    "    - module: '" ++ tag " if qArgModule " ++ shown "qArgModule" ++ tag " else " ++
      "PySide6" ++ tag " endif " ++ "'",
    "    - baseClass: '" ++ tag " if qArgBase " ++ shown "qArgBase" ++
      tag " elif qArgQObject " ++ "QObject" ++ tag " endif " ++ "'",
    "  header: |",
    "    " ++ tag " if qArgLicenseFile " ++
      shown "cpp(call=\"license\", path=qArgLicenseFile, class_name=className, file_name=fileName)",
    "    " ++ tag " endif ",
    "",
    "files:",
    "  - in: class.py.tera",
    "    out: '" ++ shown "fileName" ++ "'"]

/-- The module of a class in Python. -/
def pythonModule : String :=
  text [
    tag " set allImports = qArgImport | concat(with=baseClass) -",
    tag " set qtImports = cpp(call=\"includes\", names=allImports) -",
    tag " for qualified in qtImports -",
    tag " set parts = qualified | split(pat=\"/\") -",
    tag " if parts | length == 2 -",
    "from " ++ shown "module" ++ "." ++ shown "parts | first" ++ " import " ++
      shown "parts | last",
    tag " else -",
    "from " ++ shown "module" ++ ".QtCore import " ++ shown "qualified",
    tag " endif -",
    tag " endfor ",
    "",
    "class " ++ shown "className" ++ tag " if baseClass " ++ "(" ++ shown "baseClass" ++ ")" ++
      tag " endif " ++ ":",
    "    def __init__(self" ++ tag " if baseClass " ++ ", parent=None" ++ tag " endif " ++ "):",
    "        super().__init__(" ++ tag " if baseClass " ++ "parent" ++ tag " endif " ++ ")"]

/-- The templates with the paths under which they are found. -/
def files : List (String × String) :=
  [("templates/classes/cpp/config.yml", cppManifest),
    ("templates/classes/cpp/class.h.tera", cppHeader),
    ("templates/classes/cpp/class.cpp.tera", cppSource),
    ("templates/classes/python/config.yml", pythonManifest),
    ("templates/classes/python/class.py.tera", pythonModule)]

/-- The text of the template at a path, whatever way the path is spelled. -/
def find? (path : String) : Option String :=
  (files.find? fun file => Path.same file.1 path).map (·.2)

end Scaffold.Source.Bundled
