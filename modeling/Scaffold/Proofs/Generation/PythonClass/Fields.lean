import Scaffold.Proofs.Decimal.Whole
import Scaffold.Proofs.Generation.CppClass.Writing
import Scaffold.Proofs.Generation.PythonClass.Syntax
import Scaffold.Proofs.Generation.PythonClass.Text
import Scaffold.Proofs.Path.Parts

/-!
# The fields and the module of a class in Python

The fields that are made of the parameters of a request, and what the template of the module writes
with them, whatever the texts in these fields are. Main facts:

* `resolves_shared` : on top of the parameters the manifest adds what a class in Python looks like;
* `adds_importLine` : a round of the loop over the imports prints a line of `importLine`;
* `writes_module` : the template writes the module, behind what stands in front of every file.
-/

namespace Scaffold.Generation.PythonClass

open Template
open Expansion (Supplies Resolves functionFor viewOf)
open CppClass (className requestEntries CallsLibrary gives_part writes_className name quoted
  part printed loose beforeText licenseNode gives_withBase gives_includes shows_whenever)

/-! ## Entries -/

section Entries

variable (license : String) (request : Request)

/-- What there is for the module. -/
def moduleEntries : List (String × Field) :=
  [("baseClass", .text (baseClass request)), ("module", .text (package request)),
    ("fileName", .text (fileName request)), ("fileStem", .text (fileStem request)),
    ("className", .text (className request))] ++
  requestEntries license request

end Entries

variable {license front : String} {request : Request} {around : Surroundings} {env : Env}
  {chance : Chance} {view : View}

/-! ## Templates of fields -/

theorem writes_fileStem
    (hclass : lookupEntry "className" view = some (.string (className request))) :
    Writes env chance view fileStemNodes (fileStem request) :=
  .only (.print (.filtered hclass (by decide) (by decide) rfl .nil rfl))

theorem writes_fileName (h : CallsLibrary around env)
    (hstem : lookupEntry "fileStem" view = some (.string (fileStem request))) :
    Writes env chance view fileNameNodes (fileName request) := by
  have hfunction : env.function? "qEnsureExtension" = some Library.ensureExtension := by
    rw [h]
    rfl
  exact .only (.print (.call hfunction (.cons _ (.name hstem) (.cons _ (.text _) .nil)) rfl))

theorem writes_package
    (hmodule : lookupEntry "qArgModule" view = some (.string request.moduleName)) :
    Writes env chance view packageNodes (package request) := by
  apply Writes.of_eq
  · apply Writes.only
    apply Shows.cond
    apply Chooses.cons (.text hmodule) (.only (.print (.name hmodule)))
    exact .otherwise (.only (.text _))
  · simp only [package, bne_iff_ne]

theorem writes_baseClass
    (hbase : lookupEntry "qArgBase" view = some (.string request.baseClass))
    (hobject : lookupEntry "qArgQObject" view = some (.bool request.isQObject)) :
    Writes env chance view baseClassNodes (baseClass request) := by
  apply Writes.of_eq
  · apply Writes.only
    apply Shows.cond
    apply Chooses.cons (.text hbase) (.only (.print (.name hbase)))
    apply Chooses.cons (.flag hobject) (.only (.text _))
    exact .nothing
  · simp only [baseClass, bne_iff_ne]

/-- **The fields of the module** say what the class looks like. -/
theorem resolves_shared :
    Resolves (Library.standard around) around (requestEntries license request) sharedFields
      (moduleEntries license request) := by
  refine .cons (by decide) CppClass.reads_className (fun _ h => writes_className h rfl) ?_
  refine .cons (by decide) reads_fileStem (fun _ _ => writes_fileStem rfl) ?_
  refine .cons (by decide) reads_fileName (fun _ h => writes_fileName h rfl) ?_
  refine .cons (by decide) reads_package (fun _ _ => writes_package rfl) ?_
  refine .cons (by decide) reads_baseClass (fun _ _ => writes_baseClass rfl rfl) ?_
  exact .nil

/-! ## Imports -/

/-- The parts of a name between slashes. -/
theorem gives_parts {item : String}
    (hitem : lookupEntry "qualified" view = some (.string item)) :
    Gives env chance view (.mk (.name "qualified") false [.mk "split" [("pat", quoted "/")]])
      (.array ((Text.split "/" item).map .string)) := by
  refine .filtered hitem (by decide) (by decide) rfl (.cons _ (.text "/") .nil) ?_
  have hslash : Filter.unescaped "/" = "/" := by decide
  show Except.ok (Value.array ((Text.split (Filter.unescaped "/") item).map .string)) = _
  rw [hslash]

/-- Whether there are two parts. -/
theorem decides_hasTwoParts {parts : List String}
    (hparts : lookupEntry "parts" view = some (.array (parts.map .string))) :
    Decides env chance view hasTwoParts (parts.length == 2) := by
  have hlength : Gives env chance view (through "parts" "length")
      (.number (.int (parts.map Value.string).length)) :=
    .filtered hparts (by decide) (by decide) rfl .nil rfl
  rw [List.length_map] at hlength
  have hdecides : Decides env chance view hasTwoParts
      ((Number.int parts.length).toFloat == (Number.int 2).toFloat) :=
    .eq_number hlength (.int 2)
  rwa [Number.toFloat, Number.toFloat, Decimal.ofNat_beq_two] at hdecides

/-- The first part. -/
theorem gives_first {place other : String}
    (hparts : lookupEntry "parts" view = some (.array ([place, other].map .string))) :
    Gives env chance view (through "parts" "first") (.string place) :=
  .filtered hparts (by decide) (by decide) rfl .nil rfl

/-- The last part. -/
theorem gives_last {place other : String}
    (hparts : lookupEntry "parts" view = some (.array ([place, other].map .string))) :
    Gives env chance view (through "parts" "last") (.string other) :=
  .filtered hparts (by decide) (by decide) rfl .nil rfl

/-- An import from a place of its own. -/
theorem prints_fromPlace {package place other : String}
    (hpackage : lookupEntry "module" view = some (.string package))
    (hparts : lookupEntry "parts" view = some (.array ([place, other].map .string))) :
    Prints env chance view [.text "from ", printed "module", .text ".",
        .print loose (through "parts" "first"), .text " import ",
        .print loose (through "parts" "last"), .text "\n"]
      ("from " ++ (package ++ ("." ++ (place ++ (" import " ++ (other ++ "\n")))))) :=
  .cons (.text _) (.cons (.print (.name hpackage)) (.cons (.text _)
    (.cons (.print (gives_first hparts)) (.cons (.text _)
      (.cons (.print (gives_last hparts)) (.only (.text _)))))))

/-- An import from the core. -/
theorem prints_fromCore {package item : String}
    (hpackage : lookupEntry "module" view = some (.string package))
    (hitem : lookupEntry "qualified" view = some (.string item)) :
    Prints env chance view [.text "from ", printed "module", .text ".QtCore import ",
        printed "qualified", .text "\n"]
      ("from " ++ (package ++ (".QtCore import " ++ (item ++ "\n")))) :=
  .cons (.text _) (.cons (.print (.name hpackage)) (.cons (.text _)
    (.cons (.print (.name hitem)) (.only (.text _)))))

/-- **A round of the loop over the imports** prints the line of an import. -/
theorem adds_importLine {package item : String}
    (hpackage : lookupEntry "module" view = some (.string package)) :
    Adds env chance (("qualified", .string item) :: view) importNodes
      (importLine package item) := by
  -- a name has two parts if it has one slash
  have hlength : (Text.split "/" item).length = item.toList.count '/' + 1 := by
    rw [Text.split, List.length_map]
    exact Path.length_pieces '/' item.toList
  apply Adds.assign (by decide) (gives_parts rfl) (by simp)
  apply Adds.of_prints
  apply Prints.only
  apply Shows.cond
  have hdecides : ∀ {chance : Chance}, Decides env chance
      (("parts", .array ((Text.split "/" item).map .string)) ::
        ("qualified", .string item) :: view) hasTwoParts ((Text.split "/" item).length == 2) :=
    decides_hasTwoParts rfl
  by_cases hcount : item.toList.count '/' = 1
  · have hparts : Text.split "/" item =
        [String.ofList (item.toList.takeWhile (· ≠ '/')),
          String.ofList (item.toList.dropWhile (· ≠ '/')).tail] :=
      congrArg (List.map String.ofList) (Path.pieces_of_count_eq_one '/' hcount)
    rw [hparts] at hdecides ⊢
    rw [importLine, if_pos hcount]
    simp only [String.append_assoc]
    apply Chooses.take hdecides
    exact prints_fromPlace hpackage rfl
  · have hother : ((Text.split "/" item).length == 2) = false := by
      rw [hlength]
      simpa using hcount
    rw [hother] at hdecides
    rw [importLine, if_neg hcount]
    simp only [String.append_assoc]
    apply Chooses.skip hdecides
    exact .otherwise (prints_fromCore hpackage rfl)

/-! ## The module -/

/-- **The module**, behind what stands in front of it and some line ends. -/
theorem writes_module (h : CallsLibrary around env)
    (hfront : Shows env (chance.branch 0) (viewOf (moduleEntries license request)) licenseNode
      front) :
    Writes env chance (viewOf (moduleEntries license request)) moduleNodes
      (front ++ (gap request ++ moduleText request)) := by
  have himports : ∀ {chance : Chance}, Shows env chance
      (("qtImports", .array ((imports request).map .string)) ::
        ("allImports", .array ((request.imports ++ [baseClass request]).map .string)) ::
        viewOf (moduleEntries license request))
      (.forLoop beforeText none "qualified" (name "qtImports") importNodes none loose)
      (importText request) :=
    .loop_adding (by decide) rfl fun item => adds_importLine rfl
  have hlines : "\n\nclass " = "\n\n" ++ "class " := by decide
  have hconstructor : ":\n    def __init__(self" = ":\n" ++ "    def __init__(self" := by decide
  have hsuper : "):\n        super().__init__(" = "):\n" ++ "        super().__init__(" := by decide
  rw [← gap_append_moduleText]
  apply Writes.of_eq
  · apply Writes.cons hfront
    apply Writes.cons (.text _)
    -- The imports.
    apply Writes.assign (by decide) (gives_withBase rfl rfl) (by simp)
    apply Writes.assign (by decide) (gives_includes h rfl) (by simp)
    apply Writes.cons himports
    -- The class and its constructor.
    apply Writes.cons (.text _)
    apply Writes.cons (.print (.name rfl))
    apply Writes.cons (shows_whenever (.text rfl)
      (.cons (.text _) (.cons (.print (.name rfl)) (.only (.text _)))))
    apply Writes.cons (.text _)
    apply Writes.cons (shows_whenever (.text rfl) (.only (.text _)))
    apply Writes.cons (.text _)
    apply Writes.cons (shows_whenever (.text rfl) (.only (.text _)))
    apply Writes.only (.text _)
  · unfold classText
    rw [hlines, hconstructor, hsuper]
    simp only [String.append_assoc, bne_iff_ne]

end Scaffold.Generation.PythonClass
