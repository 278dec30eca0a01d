import Scaffold.Proofs.Generation.CppClass.Text

/-!
# What a class in Python looks like

The module that is generated for a class in Python, as a text put together from the parameters of a
request; nothing here knows of templates. What is imported has a line each: `importLine` says where
it is imported from. Main facts:

* `importLine_slash` : a name with a single slash is imported from the place in front of the slash;
* `trimLeading_moduleText` : of the line ends in front of the module nothing is left, and nothing
  else is dropped.
-/

namespace Scaffold.Generation.PythonClass

open CppClass (className trimLeading_append)

/-! ## Names -/

variable (request : Request)

/-- What the name of the module begins with. -/
def fileStem : String := Text.snakeCase (className request)

/-- The name of the module. -/
def fileName : String := Library.withExtension (fileStem request) ".py"

/-- The package that the classes of Qt are imported from. -/
def package : String := if request.moduleName ≠ "" then request.moduleName else "PySide6"

/-- The base class, empty if there is none. -/
def baseClass : String :=
  if request.baseClass ≠ "" then request.baseClass
  else if request.isQObject then "QObject"
  else ""

/-- What the module imports. -/
def imports : List String := Header.includes (request.imports ++ [baseClass request])

/-! ## Lines -/

/-- The line that imports a class: with exactly one slash in its name from the place in front of it,
else from the core. -/
def importLine (package item : String) : String :=
  if item.toList.count '/' = 1 then
    "from " ++ package ++ "." ++ String.ofList (item.toList.takeWhile (· ≠ '/')) ++ " import " ++
      String.ofList (item.toList.dropWhile (· ≠ '/')).tail ++ "\n"
  else "from " ++ package ++ ".QtCore import " ++ item ++ "\n"

/-- The lines of a class and its constructor. -/
def classText : String :=
  let base := baseClass request
  "class " ++ className request ++ (if base ≠ "" then "(" ++ base ++ ")" else "") ++ ":\n" ++
  "    def __init__(self" ++ (if base ≠ "" then ", parent=None" else "") ++ "):\n" ++
  "        super().__init__(" ++ (if base ≠ "" then "parent" else "") ++ ")\n"

/-- The lines of what is imported. -/
def importText : String :=
  String.join ((imports request).map (importLine (package request)))

/-- The text of the module. -/
def moduleText : String :=
  importText request ++ (if imports request ≠ [] then "\n\n" else "") ++ classText request

/-- The module. -/
def files : List Rendered := [⟨fileName request, moduleText request⟩]

/-! ## Imported names -/

/-- **A name with a single slash** is imported from the place in front of the slash. -/
theorem importLine_slash (package : String) {place name : String} (hplace : '/' ∉ place.toList)
    (hname : '/' ∉ name.toList) :
    importLine package (place ++ "/" ++ name) =
      "from " ++ package ++ "." ++ place ++ " import " ++ name ++ "\n" := by
  have hslash : "/".toList = ['/'] := rfl
  have hitem : (place ++ "/" ++ name).toList = place.toList ++ '/' :: name.toList := by
    rw [String.toList_append, String.toList_append, hslash, List.append_assoc,
      List.singleton_append]
  have hcount : (place.toList ++ '/' :: name.toList).count '/' = 1 := by
    rw [List.count_append, List.count_cons_self, List.count_eq_zero.2 hplace,
      List.count_eq_zero.2 hname]
  have hbefore : ∀ c ∈ place.toList, decide (c ≠ '/') = true := by
    intro c hc
    rw [decide_eq_true_iff]
    rintro rfl
    exact hplace hc
  rw [importLine, hitem, if_pos hcount, List.takeWhile_append_of_pos hbefore,
    List.dropWhile_append_of_pos hbefore]
  simp

/-- **Every other name** is imported from the core. -/
theorem importLine_core (package : String) {item : String} (h : item.toList.count '/' ≠ 1) :
    importLine package item = "from " ++ package ++ ".QtCore import " ++ item ++ "\n" := by
  rw [importLine, if_neg h]

/-! ## Beginnings -/

theorem importText_of_nil (himports : imports request = []) : importText request = "" := by
  rw [importText, himports, List.map_nil, String.join_nil]

theorem moduleText_of_nil (himports : imports request = []) :
    moduleText request = classText request := by
  rw [moduleText, importText_of_nil request himports, if_neg (Decidable.not_not.2 himports),
    String.append_empty, String.empty_append]

/-- What stands between the lines of the imports and the class is dropped if nothing is imported. -/
def gap : String := if imports request ≠ [] then "\n" else "\n\n\n"

/-- The lines before the class, the class and all line ends are those of the module, behind the line
ends that it does not begin with. -/
theorem gap_append_moduleText :
    "\n" ++ (importText request ++ ("\n\n" ++ classText request)) =
      gap request ++ moduleText request := by
  by_cases himports : imports request = []
  · have hfront : gap request = "\n" ++ "\n\n" := by
      rw [gap, if_neg (Decidable.not_not.2 himports)]
      decide
    rw [moduleText_of_nil request himports, importText_of_nil request himports, hfront]
    simp only [String.append_assoc, String.empty_append]
  · rw [moduleText, gap, if_pos himports, if_pos himports, String.append_assoc]

theorem exists_classText_eq : ∃ rest, classText request = "class " ++ rest := by
  unfold classText
  simp only [String.append_assoc]
  exact ⟨_, rfl⟩

theorem head?_moduleText :
    ∃ c, (moduleText request).toList.head? = some c ∧ isLeadingSpace c = false := by
  cases himports : imports request with
  | nil =>
    refine ⟨'c', ?_, rfl⟩
    obtain ⟨rest, hclass⟩ := exists_classText_eq request
    rw [moduleText_of_nil request himports, hclass, String.toList_append]
    rfl
  | cons item rest =>
    refine ⟨'f', ?_, rfl⟩
    rw [moduleText, importText, himports, List.map_cons, String.join_cons, importLine]
    split <;>
      simp only [String.append_assoc, String.toList_append] <;>
      rfl

theorem isLeadingSpace_of_mem_gap : ∀ c ∈ (gap request).toList, isLeadingSpace c = true := by
  rw [gap]
  split
  · decide
  · decide

/-- **Of the line ends in front of the module** nothing is left. -/
theorem trimLeading_moduleText :
    trimLeading (gap request ++ moduleText request) = moduleText request := by
  obtain ⟨c, hhead, hc⟩ := head?_moduleText request
  exact trimLeading_append (isLeadingSpace_of_mem_gap request) hhead hc

end Scaffold.Generation.PythonClass
