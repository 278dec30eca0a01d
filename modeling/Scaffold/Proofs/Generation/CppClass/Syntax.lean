import Scaffold.Manifest.Basic
import Scaffold.Proofs.Template.Alike

/-!
# The syntax of the templates for a class in C++

What the manifest for a class in C++ holds, and what its templates are read as. Main facts:

* `ofText_cppManifest` : the bundled manifest is read as `manifest`;
* `reads_header`, `reads_source` : the templates, behind what stands in front of every file, are
  read as `headerNodes` and `sourceNodes`.
-/

namespace Scaffold.Generation.CppClass

open Template
open Source.Bundled (tag shown)

/-! ## The manifest -/

/-- The template in front of every file: the license, if there is one. -/
def preamble : String :=
  tag " if qArgLicenseFile " ++
    shown "cpp(call=\"license\", path=qArgLicenseFile, class_name=className, file_name=fileName)" ++
    "\n" ++ tag " endif " ++ "\n"

/-- The definition of a field by a template. -/
def defined (name template : String) : Definition := ⟨name, .expression template⟩

/-- The fields for all files. -/
def sharedFields : List Definition :=
  [defined "className" (shown "cpp(call=\"class_name\", name=qArgName)"),
    defined "fileBase" (shown "className | lower"),
    defined "headerName" (shown "qEnsureExtension(filename=fileBase, ext=\".h\")"),
    defined "sourceName" (shown "fileBase" ++ ".cpp"),
    defined "hasQObjectMacro" (shown "qContains(haystack=qArgAdd, needle=\"Q_OBJECT\")"),
    defined "isQObject" (tag " if qArgQObject or hasQObjectMacro " ++ "true" ++ tag " endif "),
    defined "baseClass" (tag " if qArgBase " ++ shown "qArgBase" ++ tag " elif isQObject " ++
      "QObject" ++ tag " endif "),
    defined "parentType"
      (tag (" if baseClass == \"QWidget\" or baseClass == \"QMainWindow\" or " ++
          "baseClass == \"QDialog\" ") ++
        "QWidget" ++ tag " else " ++ "QObject" ++ tag " endif ")]

/-- The fields of the header. -/
def headerFields : List Definition :=
  [defined "fileName" (shown "headerName"),
    defined "headerGuard" (shown "cpp(call=\"header_guard\", file=fileName)")]

/-- The fields of the source file. -/
def sourceFields : List Definition := [defined "fileName" (shown "sourceName")]

/-- The header as an entry of the manifest. -/
def headerFile : Manifest.File := ⟨"class.h.tera", shown "fileName", headerFields, ""⟩

/-- The source file as an entry of the manifest. -/
def sourceFile : Manifest.File := ⟨"class.cpp.tera", shown "fileName", sourceFields, ""⟩

/-- What the manifest of a class in C++ holds. -/
def manifest : Manifest := ⟨"1", preamble, sharedFields, [headerFile, sourceFile]⟩

/-! ## Comparing manifests -/

/-- Whether definitions by templates are the same, one by one. -/
def sameDefinitions : List Definition → List Definition → Bool
  | [], [] => true
  | ⟨name, .expression template⟩ :: ds, ⟨name', .expression template'⟩ :: ds' =>
    name == name' && template == template' && sameDefinitions ds ds'
  | _, _ => false

theorem eq_of_sameDefinitions {ds ds' : List Definition} (h : sameDefinitions ds ds' = true) :
    ds = ds' := by
  fun_induction sameDefinitions ds ds' with
  | case1 => rfl
  | case2 name template ds name' template' ds' ih =>
    simp only [Bool.and_eq_true, beq_iff_eq] at h
    obtain ⟨⟨rfl, rfl⟩, hds⟩ := h
    rw [ih hds]
  | case3 => cases h

/-- Whether files are the same, one by one. -/
def sameFiles : List Manifest.File → List Manifest.File → Bool
  | [], [] => true
  | ⟨input, output, fields, condition⟩ :: fs, ⟨input', output', fields', condition'⟩ :: fs' =>
    input == input' && output == output' && sameDefinitions fields fields' &&
      condition == condition' && sameFiles fs fs'
  | _, _ => false

theorem eq_of_sameFiles {fs fs' : List Manifest.File} (h : sameFiles fs fs' = true) :
    fs = fs' := by
  fun_induction sameFiles fs fs' with
  | case1 => rfl
  | case2 input output fields condition fs input' output' fields' condition' fs' ih =>
    simp only [Bool.and_eq_true, beq_iff_eq] at h
    obtain ⟨⟨⟨⟨rfl, rfl⟩, hfields⟩, rfl⟩, hfs⟩ := h
    rw [eq_of_sameDefinitions hfields, ih hfs]
  | case3 => cases h

/-- Whether characters are seen to hold a manifest. -/
def holdsManifest (cs : List Char) (m : Manifest) : Bool :=
  match (Yaml.documentOf (Yaml.tokensOf cs)).decode
    (Manifest.decode (Yaml.documentOf (Yaml.tokensOf cs))) with
  | .error _ => false
  | .ok ⟨version, header, fields, files⟩ =>
    !cs.all Text.isBlank && version == m.version && header == m.header &&
      sameDefinitions fields m.fields && sameFiles files m.files

/-- What a text holds can be computed from its characters. -/
theorem ofText_of_spells {text : String} {cs : List Char} {m : Manifest} (hspells : Spells text cs)
    (h : holdsManifest cs m = true) : Manifest.ofText text = .ok m := by
  unfold Manifest.ofText Text.allBlank Yaml.Document.ofText
  rw [hspells]
  unfold holdsManifest at h
  split at h
  · cases h
  · rename_i version header fields files hdecode
    simp only [Bool.and_eq_true, beq_iff_eq, Bool.not_eq_true'] at h
    obtain ⟨⟨⟨⟨hblank, rfl⟩, rfl⟩, hfields⟩, hfiles⟩ := h
    dsimp only
    rw [hblank, hdecode, eq_of_sameDefinitions hfields, eq_of_sameFiles hfiles]
    rfl

/-- **What the bundled manifest holds.** -/
theorem ofText_cppManifest : Manifest.ofText Source.Bundled.cppManifest = .ok manifest := by
  apply ofText_of_spells
  · unfold Source.Bundled.cppManifest
    repeat'
      first
      | with_reducible apply Spells.text_nil
      | with_reducible apply Spells.text_cons
      | with_reducible apply Spells.append
      | with_reducible apply Spells.tag
      | with_reducible apply Spells.shown
      | exact Spells.literal _
  · decide +kernel

/-! ## Nodes -/

/-- The edges of a tag that leaves the white space on both sides. -/
def loose : Edges := ⟨false, false⟩

/-- The edges of a tag that removes the white space before it. -/
def afterText : Edges := ⟨true, false⟩

/-- The edges of a tag that removes the white space behind it. -/
def beforeText : Edges := ⟨false, true⟩

/-- The edges of a tag that removes the white space on both sides. -/
def tight : Edges := ⟨true, true⟩

def name (x : String) : Expr := .plain (.name x)

def quoted (s : String) : Expr := .plain (.text s)

/-- A name that is printed. -/
def printed (x : String) : Node := .print loose (name x)

/-- A call for a part of a header. -/
def part (which : String) (args : List (String × Expr)) : Expr :=
  .plain (.call (.mk "cpp" (("call", quoted which) :: args)))

/-- A comparison of the base class. -/
def baseIs (class_ : String) : Expr := .plain (.compare .eq (name "baseClass") (quoted class_))

def eitherOf (l r : Expr) : Expr := .plain (.logic .or l r)

/-- A body that is there if a condition holds. -/
def whenever (c : Expr) (body : List Node) (opening closing : Edges) : Node :=
  .cond [.mk opening c body] none closing

def classNameNodes : List Node := [.print loose (part "class_name" [("name", name "qArgName")])]

def fileBaseNodes : List Node :=
  [.print loose (.mk (.name "className") false [.mk "lower" []])]

def headerNameNodes : List Node :=
  [.print loose (.plain (.call (.mk "qEnsureExtension"
    [("filename", name "fileBase"), ("ext", quoted ".h")])))]

def sourceNameNodes : List Node := [printed "fileBase", .text ".cpp"]

def hasMacroNodes : List Node :=
  [.print loose (.plain (.call (.mk "qContains"
    [("haystack", name "qArgAdd"), ("needle", quoted "Q_OBJECT")])))]

def isQObjectNodes : List Node :=
  [whenever (eitherOf (name "qArgQObject") (name "hasQObjectMacro")) [.text "true"] loose loose]

def baseClassNodes : List Node :=
  [.cond [.mk loose (name "qArgBase") [printed "qArgBase"],
    .mk loose (name "isQObject") [.text "QObject"]] none loose]

def parentTypeNodes : List Node :=
  [.cond [.mk loose (eitherOf (eitherOf (baseIs "QWidget") (baseIs "QMainWindow"))
      (baseIs "QDialog")) [.text "QWidget"]] (some (.mk loose [.text "QObject"])) loose]

def headerGuardNodes : List Node :=
  [.print loose (part "header_guard" [("file", name "fileName")])]

/-- The license, if there is one. -/
def licenseNode : Node :=
  whenever (name "qArgLicenseFile")
    [.print loose (part "license" [("path", name "qArgLicenseFile"),
      ("class_name", name "className"), ("file_name", name "fileName")]), .text "\n"] loose loose

/-- The header, behind what stands in front of every file. -/
def headerNodes : List Node :=
  [licenseNode, .text "\n",
    .cond [.mk beforeText (name "qArgPragma") [.text "#pragma once"]]
      (some (.mk tight [.text "#ifndef ", printed "headerGuard", .text "\n#define ",
        printed "headerGuard"])) afterText,
    .text "\n",
    .assign beforeText false "allIncludes"
      (.mk (.name "qArgInclude") false [.mk "concat" [("with", name "baseClass")]]),
    .assign beforeText false "qtIncludes" (part "includes" [("names", name "allIncludes")]),
    whenever (name "qtIncludes") [.text "\n",
      .forLoop beforeText none "header" (name "qtIncludes")
        [.text "#include <", printed "header", .text ">\n"] none beforeText] loose loose,
    .text "\n",
    .assign beforeText false "namespaceOpen" (part "namespace_open" [("name", name "qArgName")]),
    whenever (name "namespaceOpen") [printed "namespaceOpen", .text "\n\n"] loose beforeText,
    .text "class ", printed "className",
    whenever (name "baseClass") [.text " : public ", printed "baseClass"] loose loose,
    .text "\n\x7b",
    whenever (name "isQObject") [.text "\n    Q_OBJECT"] afterText afterText,
    .forLoop afterText none "extra" (name "qArgAdd")
      [whenever (.plain (.compare .ne (name "extra") (quoted "Q_OBJECT")))
        [.text "\n    ", printed "extra"] loose afterText] none loose,
    .text "\n\npublic:\n    ",
    .cond [.mk loose (name "isQObject") [.text "explicit ", printed "className", .text "(",
      printed "parentType", .text " *parent = nullptr);"]]
      (some (.mk loose [printed "className", .text "();"])) loose,
    .text "\n    ~", printed "className", .text "()",
    whenever (name "baseClass") [.text " override"] loose loose,
    .text ";\n\x7d;\n",
    .assign beforeText false "namespaceClose" (part "namespace_close" [("name", name "qArgName")]),
    whenever (name "namespaceClose") [.text "\n", printed "namespaceClose", .text "\n"] loose
      beforeText,
    whenever (.mk (.name "qArgPragma") true [])
      [.text "\n#endif // ", printed "headerGuard", .text "\n"] loose beforeText]

/-- The source file, behind what stands in front of every file. -/
def sourceNodes : List Node :=
  [licenseNode, .text "\n#include \"", printed "headerName", .text "\"\n",
    .assign beforeText false "namespaceOpen" (part "namespace_open" [("name", name "qArgName")]),
    whenever (name "namespaceOpen") [.text "\n", printed "namespaceOpen", .text "\n"] loose loose,
    .text "\n",
    .cond [.mk beforeText (name "isQObject") [printed "className", .text "::",
      printed "className", .text "(", printed "parentType", .text " *parent)\n    : ",
      printed "baseClass", .text "(parent)"]]
      (some (.mk tight [printed "className", .text "::", printed "className", .text "()"]))
      afterText,
    .text "\n\x7b\n\x7d\n\n", printed "className", .text "::~", printed "className",
    .text "() = default;\n",
    .assign beforeText false "namespaceClose" (part "namespace_close" [("name", name "qArgName")]),
    whenever (name "namespaceClose") [.text "\n", printed "namespaceClose", .text "\n"] loose
      beforeText]

/-! ## Reading the templates -/

theorem reads_className :
    Reads (shown "cpp(call=\"class_name\", name=qArgName)") classNameNodes :=
  .of_spells (.shown (.literal _)) (by decide)

theorem reads_fileBase : Reads (shown "className | lower") fileBaseNodes :=
  .of_spells (.shown (.literal _)) (by decide)

theorem reads_headerName :
    Reads (shown "qEnsureExtension(filename=fileBase, ext=\".h\")") headerNameNodes :=
  .of_spells (.shown (.literal _)) (by decide)

theorem reads_sourceName : Reads (shown "fileBase" ++ ".cpp") sourceNameNodes :=
  .of_spells (.append (.shown (.literal _)) (.literal _)) (by decide)

theorem reads_hasMacro :
    Reads (shown "qContains(haystack=qArgAdd, needle=\"Q_OBJECT\")") hasMacroNodes :=
  .of_spells (.shown (.literal _)) (by decide)

theorem reads_isQObject :
    Reads (tag " if qArgQObject or hasQObjectMacro " ++ "true" ++ tag " endif ") isQObjectNodes :=
  .of_spells (.append (.append (.tag (.literal _)) (.literal _)) (.tag (.literal _)))
    (by decide +kernel)

theorem reads_baseClass :
    Reads (tag " if qArgBase " ++ shown "qArgBase" ++ tag " elif isQObject " ++ "QObject" ++
      tag " endif ") baseClassNodes :=
  .of_spells (.append (.append (.append (.append (.tag (.literal _)) (.shown (.literal _)))
    (.tag (.literal _))) (.literal _)) (.tag (.literal _))) (by decide +kernel)

theorem reads_parentType :
    Reads (tag (" if baseClass == \"QWidget\" or baseClass == \"QMainWindow\" or " ++
        "baseClass == \"QDialog\" ") ++
      "QWidget" ++ tag " else " ++ "QObject" ++ tag " endif ") parentTypeNodes :=
  .of_spells (.append (.append (.append (.append (.tag (.append (.literal _) (.literal _)))
    (.literal _)) (.tag (.literal _))) (.literal _)) (.tag (.literal _))) (by decide +kernel)

theorem reads_headerGuard :
    Reads (shown "cpp(call=\"header_guard\", file=fileName)") headerGuardNodes :=
  .of_spells (.shown (.literal _)) (by decide)

/-- The names of the files, among their own fields. -/
theorem reads_nameOfHeader : Reads (shown "headerName") [printed "headerName"] :=
  .of_spells (.shown (.literal _)) (by decide)

theorem reads_nameOfSource : Reads (shown "sourceName") [printed "sourceName"] :=
  .of_spells (.shown (.literal _)) (by decide)

theorem reads_fileName : Reads (shown "fileName") [printed "fileName"] :=
  .of_spells (.shown (.literal _)) (by decide)

/-- **The header** behind what stands in front of every file. -/
theorem reads_header : Reads (preamble ++ Source.Bundled.cppHeader) headerNodes := by
  apply Reads.of_spells
  · unfold preamble Source.Bundled.cppHeader
    repeat'
      first
      | with_reducible apply Spells.text_nil
      | with_reducible apply Spells.text_cons
      | with_reducible apply Spells.append
      | with_reducible apply Spells.tag
      | with_reducible apply Spells.shown
      | exact Spells.literal _
  · decide +kernel

theorem reads_source : Reads (preamble ++ Source.Bundled.cppSource) sourceNodes := by
  apply Reads.of_spells
  · unfold preamble Source.Bundled.cppSource
    repeat'
      first
      | with_reducible apply Spells.text_nil
      | with_reducible apply Spells.text_cons
      | with_reducible apply Spells.append
      | with_reducible apply Spells.tag
      | with_reducible apply Spells.shown
      | exact Spells.literal _
  · decide +kernel

end Scaffold.Generation.CppClass
