import Scaffold.Proofs.Generation.CppClass.Syntax

/-!
# The syntax of the templates for a class in Python

What the manifest for a class in Python holds, and what its template is read as. The template in
front of every file and the name of the class are those of a class in C++. Main facts:

* `ofText_pythonManifest` : the bundled manifest is read as `manifest`;
* `reads_module` : the template, behind what stands in front of every file, is read as
  `moduleNodes`.
-/

namespace Scaffold.Generation.PythonClass

open Template
open Source.Bundled (tag shown)
open CppClass (preamble defined holdsManifest ofText_of_spells loose beforeText tight name quoted
  printed part whenever licenseNode)

/-! ## The manifest -/

/-- The fields of the module. -/
def sharedFields : List Definition :=
  [defined "className" (shown "cpp(call=\"class_name\", name=qArgName)"),
    defined "fileStem" (shown "className | snake_case"),
    defined "fileName" (shown "qEnsureExtension(filename=fileStem, ext=\".py\")"),
    defined "module" (tag " if qArgModule " ++ shown "qArgModule" ++ tag " else " ++ "PySide6" ++
      tag " endif "),
    defined "baseClass" (tag " if qArgBase " ++ shown "qArgBase" ++ tag " elif qArgQObject " ++
      "QObject" ++ tag " endif ")]

/-- The module as an entry of the manifest. -/
def moduleFile : Manifest.File := ⟨"class.py.tera", shown "fileName", [], ""⟩

/-- What the manifest of a class in Python holds. -/
def manifest : Manifest := ⟨"1", preamble, sharedFields, [moduleFile]⟩

/-- **What the bundled manifest holds.** -/
theorem ofText_pythonManifest :
    Manifest.ofText Source.Bundled.pythonManifest = .ok manifest := by
  apply ofText_of_spells
  · unfold Source.Bundled.pythonManifest
    repeat'
      first
      | with_reducible apply Spells.text_nil
      | with_reducible apply Spells.text_cons
      | with_reducible apply Spells.append
      | with_reducible apply Spells.tag
      | with_reducible apply Spells.shown
      | exact Spells.literal _
  · decide +kernel

/-! ## Nodes -/

/-- A name behind a filter without arguments. -/
def through (x filter : String) : Expr := .mk (.name x) false [.mk filter []]

def fileStemNodes : List Node := [.print loose (through "className" "snake_case")]

def fileNameNodes : List Node :=
  [.print loose (.plain (.call (.mk "qEnsureExtension"
    [("filename", name "fileStem"), ("ext", quoted ".py")])))]

def packageNodes : List Node :=
  [.cond [.mk loose (name "qArgModule") [printed "qArgModule"]]
    (some (.mk loose [.text "PySide6"])) loose]

def baseClassNodes : List Node :=
  [.cond [.mk loose (name "qArgBase") [printed "qArgBase"],
    .mk loose (name "qArgQObject") [.text "QObject"]] none loose]

/-- Whether a name has two parts. -/
def hasTwoParts : Expr := .plain (.compare .eq (through "parts" "length") (.plain (.int 2)))

/-- The line of an import, with the parts of the name assigned before it. -/
def importNodes : List Node :=
  [.assign beforeText false "parts"
      (.mk (.name "qualified") false [.mk "split" [("pat", quoted "/")]]),
    .cond [.mk beforeText hasTwoParts [.text "from ", printed "module", .text ".",
        .print loose (through "parts" "first"), .text " import ",
        .print loose (through "parts" "last"), .text "\n"]]
      (some (.mk beforeText [.text "from ", printed "module", .text ".QtCore import ",
        printed "qualified", .text "\n"])) beforeText]

/-- The module, behind what stands in front of every file. -/
def moduleNodes : List Node :=
  [licenseNode, .text "\n",
    .assign beforeText false "allImports"
      (.mk (.name "qArgImport") false [.mk "concat" [("with", name "baseClass")]]),
    .assign beforeText false "qtImports" (part "includes" [("names", name "allImports")]),
    .forLoop beforeText none "qualified" (name "qtImports") importNodes none loose,
    .text "\n\nclass ", printed "className",
    whenever (name "baseClass") [.text "(", printed "baseClass", .text ")"] loose loose,
    .text ":\n    def __init__(self",
    whenever (name "baseClass") [.text ", parent=None"] loose loose,
    .text "):\n        super().__init__(",
    whenever (name "baseClass") [.text "parent"] loose loose,
    .text ")\n"]

/-! ## Reading the templates -/

theorem reads_fileStem : Reads (shown "className | snake_case") fileStemNodes :=
  .of_spells (.shown (.literal _)) (by decide)

theorem reads_fileName :
    Reads (shown "qEnsureExtension(filename=fileStem, ext=\".py\")") fileNameNodes :=
  .of_spells (.shown (.literal _)) (by decide)

theorem reads_package :
    Reads (tag " if qArgModule " ++ shown "qArgModule" ++ tag " else " ++ "PySide6" ++
      tag " endif ") packageNodes :=
  .of_spells (.append (.append (.append (.append (.tag (.literal _)) (.shown (.literal _)))
    (.tag (.literal _))) (.literal _)) (.tag (.literal _))) (by decide +kernel)

theorem reads_baseClass :
    Reads (tag " if qArgBase " ++ shown "qArgBase" ++ tag " elif qArgQObject " ++ "QObject" ++
      tag " endif ") baseClassNodes :=
  .of_spells (.append (.append (.append (.append (.tag (.literal _)) (.shown (.literal _)))
    (.tag (.literal _))) (.literal _)) (.tag (.literal _))) (by decide +kernel)

/-- **The module** behind what stands in front of every file. -/
theorem reads_module : Reads (preamble ++ Source.Bundled.pythonModule) moduleNodes := by
  apply Reads.of_spells
  · unfold preamble Source.Bundled.pythonModule
    repeat'
      first
      | with_reducible apply Spells.text_nil
      | with_reducible apply Spells.text_cons
      | with_reducible apply Spells.append
      | with_reducible apply Spells.tag
      | with_reducible apply Spells.shown
      | exact Spells.literal _
  · decide +kernel

end Scaffold.Generation.PythonClass
