import Scaffold.Generation.Request
import Scaffold.Generation.Run

/-!
# What a class in C++ looks like

The files that are generated for a class in C++, as texts put together from the parameters of a
request. Nothing here knows of templates: `headerText` and `sourceText` say what a reader of the
files finds. Main fact: `trimLeading_headerText` and `trimLeading_sourceText`, that a line end in
front of the files is dropped and nothing else.
-/

namespace Scaffold.Generation.CppClass

/-! ## Names -/

variable (request : Request)

/-- The name of the class, without the scopes around it. -/
def className : String := Header.className request.name

/-- What the names of the files begin with. -/
def fileBase : String := Text.toLowercase (className request)

/-- The name of the header. -/
def headerName : String := Library.withExtension (fileBase request) ".h"

/-- The name of the source file. -/
def sourceName : String := fileBase request ++ ".cpp"

/-- The guard of the header. -/
def guard : String := Header.includeGuard (headerName request)

/-! ## The class -/

/-- Whether the macro of objects is among the macros. -/
def hasObjectMacro : Bool := request.macros.contains "Q_OBJECT"

/-- Whether the class is one of objects. -/
def isObject : Bool := request.isQObject || hasObjectMacro request

/-- The base class, empty if there is none. -/
def baseClass : String :=
  if request.baseClass ≠ "" then request.baseClass
  else if isObject request then "QObject"
  else ""

/-- The class of parents of an object. -/
def parentType : String :=
  if baseClass request ∈ ["QWidget", "QMainWindow", "QDialog"] then "QWidget" else "QObject"

/-- What the header includes. -/
def includes : List String := Header.includes (request.includes ++ [baseClass request])

/-! ## Files -/

/-- The text of the header. -/
def headerText : String :=
  let name := className request
  let base := baseClass request
  let opening := Header.scopeOpenings request.name
  let closing := Header.scopeClosings request.name
  (if request.usesPragma then "#pragma once"
    else "#ifndef " ++ guard request ++ "\n#define " ++ guard request) ++
  "\n" ++
  (if includes request ≠ [] then
    "\n" ++ String.join ((includes request).map fun i => "#include <" ++ i ++ ">\n")
    else "") ++
  "\n" ++
  (if opening ≠ "" then opening ++ "\n\n" else "") ++
  "class " ++ name ++ (if base ≠ "" then " : public " ++ base else "") ++
  "\n\x7b" ++
  (if isObject request then "\n    Q_OBJECT" else "") ++
  String.join ((request.macros.filter (· != "Q_OBJECT")).map fun m => "\n    " ++ m) ++
  "\n\npublic:\n    " ++
  (if isObject request then
    "explicit " ++ name ++ "(" ++ parentType request ++ " *parent = nullptr);"
    else name ++ "();") ++
  "\n    ~" ++ name ++ "()" ++ (if base ≠ "" then " override" else "") ++ ";\n\x7d;\n" ++
  (if closing ≠ "" then "\n" ++ closing ++ "\n" else "") ++
  (if !request.usesPragma then "\n#endif // " ++ guard request ++ "\n" else "")

/-- The text of the source file. -/
def sourceText : String :=
  let name := className request
  let opening := Header.scopeOpenings request.name
  let closing := Header.scopeClosings request.name
  "#include \"" ++ headerName request ++ "\"\n" ++
  (if opening ≠ "" then "\n" ++ opening ++ "\n" else "") ++
  "\n" ++
  (if isObject request then
    name ++ "::" ++ name ++ "(" ++ parentType request ++ " *parent)\n    : " ++
      baseClass request ++ "(parent)"
    else name ++ "::" ++ name ++ "()") ++
  "\n\x7b\n\x7d\n\n" ++
  name ++ "::~" ++ name ++ "() = default;\n" ++
  (if closing ≠ "" then "\n" ++ closing ++ "\n" else "")

/-- The header and the source file. -/
def files : List Rendered :=
  [⟨headerName request, headerText request⟩, ⟨sourceName request, sourceText request⟩]

/-! ## Beginnings -/

/-- Of spaces in front of a text, the text is left if it does not begin with a space itself. -/
theorem trimLeading_append {gap text : String} {c : Char}
    (hgap : ∀ d ∈ gap.toList, isLeadingSpace d = true) (hhead : text.toList.head? = some c)
    (hc : isLeadingSpace c = false) : trimLeading (gap ++ text) = text := by
  obtain ⟨cs, hcs⟩ : ∃ cs, text.toList = c :: cs := List.head?_eq_some_iff.1 hhead
  rw [trimLeading, String.toList_append, List.dropWhile_append_of_pos hgap, hcs,
    List.dropWhile_cons_of_neg (by rw [hc]; decide), ← hcs, String.ofList_toList]

/-- Of a line end in front of a text, the text is left if it does not begin with a space. -/
theorem trimLeading_of_head {text : String} {c : Char} (hhead : text.toList.head? = some c)
    (hc : isLeadingSpace c = false) : trimLeading ("\n" ++ text) = text :=
  trimLeading_append (by decide) hhead hc

/-- A text that begins with a mark, whatever follows. -/
theorem head?_mark (s t : String) (h : s.toList.head? = some '#') :
    (s ++ t).toList.head? = some '#' := by
  rw [String.toList_append, List.head?_append, h, Option.some_or]

theorem trimLeading_headerText : trimLeading ("\n" ++ headerText request) = headerText request := by
  refine trimLeading_of_head ?_ (by rfl : isLeadingSpace '#' = false)
  unfold headerText
  simp only [String.append_assoc]
  apply head?_mark
  split
  · decide
  · apply head?_mark
    decide

theorem trimLeading_sourceText : trimLeading ("\n" ++ sourceText request) = sourceText request := by
  refine trimLeading_of_head ?_ (by rfl : isLeadingSpace '#' = false)
  unfold sourceText
  simp only [String.append_assoc]
  apply head?_mark
  decide

end Scaffold.Generation.CppClass
