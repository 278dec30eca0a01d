import Scaffold.Proofs.Expansion.Printing
import Scaffold.Proofs.Generation.CppClass.Syntax
import Scaffold.Proofs.Generation.CppClass.Text

/-!
# The fields for a class in C++

The parameters of a request as the templates for a class in C++ find them, and the fields that are
made of them. For each template of a field there is a lemma that names what it reads and what it
writes, whatever else is known. Main facts:

* `supplies_fields` : a request supplies its parameters;
* `resolves_shared` : on top of them the manifest adds what a class in C++ looks like;
* `resolves_header`, `resolves_source` : so do the two files.
-/

namespace Scaffold.Generation.CppClass

open Template
open Expansion (Supplies Resolves functionFor viewOf)
open Grammar (IsVariable)

/-! ## Entries -/

section Entries

/-- A flag as a text: `true` or nothing. -/
def flagText (b : Bool) : String := if b then "true" else ""

variable (license : String) (request : Request)

/-- The parameters of a request with a license at a path, the latest first. -/
def requestEntries : List (String × Field) :=
  [("qArgImport", .list request.imports), ("qArgModule", .text request.moduleName),
    ("qArgPragma", .flag request.usesPragma), ("qArgQObject", .flag request.isQObject),
    ("qArgInclude", .list request.includes), ("qArgAdd", .list request.macros),
    ("qArgBase", .text request.baseClass),
    ("qArgTemplateDir", .text ((Request.given request.templateDirectory).getD "")),
    ("qArgLicenseFile", .text license),
    ("qArgOutputDir", .text ((Request.given request.outputDirectory).getD "")),
    ("qArgType", .text request.typeName), ("qArgName", .text request.name)]

/-- What there is for both files. -/
def sharedEntries : List (String × Field) :=
  [("parentType", .text (parentType request)), ("baseClass", .text (baseClass request)),
    ("isQObject", .text (flagText (isObject request))),
    ("hasQObjectMacro", .text (flagText (hasObjectMacro request))),
    ("sourceName", .text (sourceName request)), ("headerName", .text (headerName request)),
    ("fileBase", .text (fileBase request)), ("className", .text (className request))] ++
  requestEntries license request

/-- What there is for the header. -/
def headerEntries : List (String × Field) :=
  [("headerGuard", .text (guard request)), ("fileName", .text (headerName request))] ++
  sharedEntries license request

/-- What there is for the source file. -/
def sourceEntries : List (String × Field) :=
  ("fileName", .text (sourceName request)) :: sharedEntries license request

end Entries

variable {license : String} {request : Request} {around : Surroundings} {env : Env}
  {chance : Chance} {view : View}

/-- **A request** supplies its parameters. -/
theorem supplies_fields (h : (Request.given request.licenseFile).getD "" = license) :
    Supplies request.fields (requestEntries license request) := by
  have hnames : ∀ x ∈ ["qArgName", "qArgType", "qArgOutputDir", "qArgLicenseFile",
      "qArgTemplateDir", "qArgBase", "qArgAdd", "qArgInclude", "qArgQObject", "qArgPragma",
      "qArgModule", "qArgImport"], IsVariable x := by
    decide
  have hfields : Supplies request.fields _ := Supplies.insertAll Supplies.empty hnames
  dsimp only at hfields
  rw [h] at hfields
  exact hfields

/-! ## Functions -/

/-- The templates call the functions of the library. -/
abbrev CallsLibrary (around : Surroundings) (env : Env) : Prop :=
  env.function? = functionFor (Library.standard around) around

theorem callsLibrary_drawing :
    CallsLibrary (around.drawing chance) env ↔ CallsLibrary around env := by
  rw [CallsLibrary, Library.standard_drawing, Expansion.functionFor_drawing]

/-- A part of a header, in a template. -/
theorem gives_part (h : CallsLibrary around env) {which : String} {args : List (String × Expr)}
    {given : Args} {v : Value} (hargs : GivesAll env view (chance.ofArguments.branch 1) args given)
    (hrun : Library.headerPart around chance.ofCall (("call", .string which) :: given) = .ok v) :
    Gives env chance view (part which args) v := by
  have hfunction : env.function? "cpp" = some (Library.headerPart around) := by
    rw [h]
    rfl
  exact .call hfunction (.cons _ (.text which) hargs) hrun

/-- The name of a class. -/
theorem gives_className (h : CallsLibrary around env)
    (hname : lookupEntry "qArgName" view = some (.string request.name)) :
    Gives env chance view (part "class_name" [("name", name "qArgName")])
      (.string (className request)) :=
  gives_part h (.cons _ (.name hname) .nil) rfl

/-- The lines that open the scopes around a class. -/
theorem gives_openings (h : CallsLibrary around env)
    (hname : lookupEntry "qArgName" view = some (.string request.name)) :
    Gives env chance view (part "namespace_open" [("name", name "qArgName")])
      (.string (Header.scopeOpenings request.name)) :=
  gives_part h (.cons _ (.name hname) .nil) rfl

/-- The lines that close the scopes around a class. -/
theorem gives_closings (h : CallsLibrary around env)
    (hname : lookupEntry "qArgName" view = some (.string request.name)) :
    Gives env chance view (part "namespace_close" [("name", name "qArgName")])
      (.string (Header.scopeClosings request.name)) :=
  gives_part h (.cons _ (.name hname) .nil) rfl

/-- The guard of a header. -/
theorem gives_guard (h : CallsLibrary around env)
    (hname : lookupEntry "fileName" view = some (.string (headerName request))) :
    Gives env chance view (part "header_guard" [("file", name "fileName")])
      (.string (guard request)) :=
  gives_part h (.cons _ (.name hname) .nil) rfl

/-- The fields of the license of a file. -/
def licenseFieldsFor (request : Request) (fileName : String) : Fields :=
  .ofList [("ClassName", .text (className request)), ("FileName", .text fileName)]

theorem headerPart_license (chance : Chance) (given : Args) :
    Library.headerPart around chance (("call", .string "license") :: given) =
      Library.licenseText around chance (("call", .string "license") :: given) :=
  rfl

/-- A license that can be made, as a part of a header. -/
theorem licenseText_of_ok {fileName text : String}
    (htext : Library.license (around.drawing chance) license
      (licenseFieldsFor request fileName) = .ok text) :
    Library.licenseText around chance [("call", .string "license"), ("path", .string license),
      ("class_name", .string (className request)), ("file_name", .string fileName)] =
        .ok (.string text) := by
  let given : Args := [("call", .string "license"), ("path", .string license),
    ("class_name", .string (className request)), ("file_name", .string fileName)]
  have hpath : Library.textOrEmpty "cpp.license" given "path" = .ok license := rfl
  have hclass : Library.textOrEmpty "cpp.license" given "class_name" = .ok (className request) :=
    rfl
  have hfile : Library.textOrEmpty "cpp.license" given "file_name" = .ok fileName := rfl
  rw [licenseFieldsFor] at htext
  rw [Library.licenseText, hpath, hclass, hfile]
  simp only [bind, Except.bind, htext]

/-- The text of the license of a file. -/
theorem gives_license {fileName text : String} (h : CallsLibrary around env)
    (hlicense : lookupEntry "qArgLicenseFile" view = some (.string license))
    (hclass : lookupEntry "className" view = some (.string (className request)))
    (hfile : lookupEntry "fileName" view = some (.string fileName))
    (htext : Library.license (around.drawing chance.ofCall) license
      (licenseFieldsFor request fileName) = .ok text) :
    Gives env chance view (part "license" [("path", name "qArgLicenseFile"),
      ("class_name", name "className"), ("file_name", name "fileName")]) (.string text) :=
  gives_part h (.cons _ (.name hlicense) (.cons _ (.name hclass) (.cons _ (.name hfile) .nil)))
    ((headerPart_license _ _).trans (licenseText_of_ok htext))

/-- The base class is put behind some names. -/
theorem gives_withBase {x base : String} {names : List String}
    (hnames : lookupEntry x view = some (.array (names.map .string)))
    (hbase : lookupEntry "baseClass" view = some (.string base)) :
    Gives env chance view (.mk (.name x) false [.mk "concat" [("with", name "baseClass")]])
      (.array ((names ++ [base]).map .string)) := by
  refine .filtered hnames (by decide) (by decide) rfl (.cons _ (.name hbase) .nil) ?_
  rw [List.map_append]
  rfl

/-- What is included of some names. -/
theorem gives_includes (h : CallsLibrary around env) {x : String} {names : List String}
    (hnames : lookupEntry x view = some (.array (names.map .string))) :
    Gives env chance view (part "includes" [("names", name x)])
      (.array ((Header.includes names).map .string)) := by
  have hlist : Library.textList "cpp.includes" (.array (names.map .string)) = .ok names := by
    rw [Library.textList, Library.textsOf?_map]
  refine gives_part h (.cons _ (.name hnames) .nil) ?_
  show (do
    let names ← Library.textList "cpp.includes" (.array (names.map .string))
    Except.ok (Value.array ((Header.includes names).map .string))) = _
  rw [hlist]
  rfl

/-! ## Templates of fields -/

theorem writes_className (h : CallsLibrary around env)
    (hname : lookupEntry "qArgName" view = some (.string request.name)) :
    Writes env chance view classNameNodes (className request) :=
  .only (.print (gives_className h hname))

theorem writes_fileBase
    (hclass : lookupEntry "className" view = some (.string (className request))) :
    Writes env chance view fileBaseNodes (fileBase request) :=
  .only (.print (.filtered hclass (by decide) (by decide) rfl .nil rfl))

theorem writes_headerName (h : CallsLibrary around env)
    (hbase : lookupEntry "fileBase" view = some (.string (fileBase request))) :
    Writes env chance view headerNameNodes (headerName request) := by
  have hfunction : env.function? "qEnsureExtension" = some Library.ensureExtension := by
    rw [h]
    rfl
  exact .only (.print (.call hfunction (.cons _ (.name hbase) (.cons _ (.text _) .nil)) rfl))

theorem writes_sourceName
    (hbase : lookupEntry "fileBase" view = some (.string (fileBase request))) :
    Writes env chance view sourceNameNodes (sourceName request) :=
  .cons (.print (.name hbase)) (.only (.text _))

theorem writes_hasMacro (h : CallsLibrary around env)
    (hmacros : lookupEntry "qArgAdd" view = some (.array (request.macros.map .string))) :
    Writes env chance view hasMacroNodes (flagText (hasObjectMacro request)) := by
  have hfunction : env.function? "qContains" = some Library.containsText := by
    rw [h]
    rfl
  have hany : (request.macros.map Value.string).any (Library.isText "Q_OBJECT") =
      hasObjectMacro request := by
    rw [List.any_map, hasObjectMacro, List.contains_eq_any_beq]
    rfl
  have hrun : Library.containsText chance.ofCall [("haystack", .array (request.macros.map .string)),
      ("needle", .string "Q_OBJECT")] = .ok (.string (flagText (hasObjectMacro request))) := by
    show Except.ok (Library.truthText ((request.macros.map Value.string).any
      (Library.isText "Q_OBJECT"))) = _
    rw [hany]
    rfl
  exact .only (.print (.call hfunction (.cons _ (.name hmacros) (.cons _ (.text _) .nil)) hrun))

/-- A flag that is kept as a text still decides. -/
theorem decides_flagText {x : String} {b : Bool}
    (hx : lookupEntry x view = some (.string (flagText b))) :
    Decides env chance view (name x) b := by
  have htruthy : (Value.string (flagText b)).truthy = b := by
    cases b with
    | true => decide
    | false => decide
  have hdecides : Decides env chance view (name x) (Value.string (flagText b)).truthy :=
    Decides.name hx
  rwa [htruthy] at hdecides

theorem writes_isQObject
    (hflag : lookupEntry "qArgQObject" view = some (.bool request.isQObject))
    (hcontained : lookupEntry "hasQObjectMacro" view =
      some (.string (flagText (hasObjectMacro request)))) :
    Writes env chance view isQObjectNodes (flagText (isObject request)) :=
  .only (.cond (.cons (.or (.flag hflag) (decides_flagText hcontained)) (.only (.text _)) .nothing))

theorem writes_baseClass
    (hbase : lookupEntry "qArgBase" view = some (.string request.baseClass))
    (hobject : lookupEntry "isQObject" view = some (.string (flagText (isObject request)))) :
    Writes env chance view baseClassNodes (baseClass request) := by
  apply Writes.of_eq
  · apply Writes.only
    apply Shows.cond
    apply Chooses.cons (.text hbase) (.only (.print (.name hbase)))
    apply Chooses.cons (decides_flagText hobject) (.only (.text _))
    exact .nothing
  · simp only [baseClass, bne_iff_ne]

theorem writes_parentType
    (hbase : lookupEntry "baseClass" view = some (.string (baseClass request))) :
    Writes env chance view parentTypeNodes (parentType request) := by
  apply Writes.of_eq
  · apply Writes.only
    apply Shows.cond
    apply Chooses.cons (.or (.or (.eq (.name hbase) (.text _)) (.eq (.name hbase) (.text _)))
      (.eq (.name hbase) (.text _))) (.only (.text _))
    exact .otherwise (.only (.text _))
  · simp only [parentType, Bool.or_eq_true, beq_iff_eq, List.mem_cons, List.not_mem_nil, or_false,
      or_assoc]

theorem writes_headerGuard (h : CallsLibrary around env)
    (hname : lookupEntry "fileName" view = some (.string (headerName request))) :
    Writes env chance view headerGuardNodes (guard request) :=
  .only (.print (gives_guard h hname))

/-! ## Resolving fields -/

/-- **The fields for both files** say what the class looks like. -/
theorem resolves_shared :
    Resolves (Library.standard around) around (requestEntries license request) sharedFields
      (sharedEntries license request) := by
  refine .cons (by decide) reads_className (fun _ h => writes_className h rfl) ?_
  refine .cons (by decide) reads_fileBase (fun _ _ => writes_fileBase rfl) ?_
  refine .cons (by decide) reads_headerName (fun _ h => writes_headerName h rfl) ?_
  refine .cons (by decide) reads_sourceName (fun _ _ => writes_sourceName rfl) ?_
  refine .cons (by decide) reads_hasMacro (fun _ h => writes_hasMacro h rfl) ?_
  refine .cons (by decide) reads_isQObject (fun _ _ => writes_isQObject rfl rfl) ?_
  refine .cons (by decide) reads_baseClass (fun _ _ => writes_baseClass rfl rfl) ?_
  refine .cons (by decide) reads_parentType (fun _ _ => writes_parentType rfl) ?_
  exact .nil

theorem resolves_header :
    Resolves (Library.standard around) around (sharedEntries license request) headerFields
      (headerEntries license request) := by
  refine .cons (by decide) reads_nameOfHeader (fun _ _ => .only (.print (.name rfl))) ?_
  refine .cons (by decide) reads_headerGuard (fun _ h => writes_headerGuard h rfl) ?_
  exact .nil

theorem resolves_source :
    Resolves (Library.standard around) around (sharedEntries license request) sourceFields
      (sourceEntries license request) := by
  refine .cons (by decide) reads_nameOfSource (fun _ _ => .only (.print (.name rfl))) ?_
  exact .nil

end Scaffold.Generation.CppClass
