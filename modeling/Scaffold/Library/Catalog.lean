import Scaffold.Header
import Scaffold.Library.License

/-!
# The library

The functions that manifests and templates may call: some for texts and lists, and one that makes
the parts of a header, told by its argument `call` which of them.
-/

namespace Scaffold.Library

open Template

/-! ## Texts and lists -/

/-- Joins the texts of a list. -/
def joinTexts : Function := fun _ args =>
  match lookupEntry "items" args with
  | none => Function.fail "qJoin requires an `items` argument"
  | some v => do
    let texts ← textList "qJoin" v
    let separator ← textOrEmpty "qJoin" args "sep"
    .ok (.string (separator.intercalate texts))

/-- A truth value as a text: `true` or nothing. -/
def truthText (b : Bool) : Value := .string (if b then "true" else "")

/-- Whether a value is the given text. -/
def isText (s : String) : Value → Bool
  | .string t => s == t
  | _ => false

/-- Tells whether a text occurs in a text or in a list. -/
def containsText : Function := fun _ args => do
  let needle ← requiredText "qContains" args "needle"
  match lookupEntry "haystack" args with
  | some (.string s) => .ok (truthText (Text.contains s needle))
  | some (.array values) => .ok (truthText (values.any (isText needle)))
  | some .null | none => .ok (truthText false)
  | some _ =>
    Function.fail "qContains expects `haystack` to be a string or a list of strings"

/-- Reads a list token. -/
def unpackToken : Function := fun _ args => do
  let token ← requiredText "qUnpack" args "input"
  .ok (.array ((unpack token).map .string))

/-- Gives a file name an extension. -/
def ensureExtension : Function := fun _ args => do
  let fileName ← requiredText "qEnsureExtension" args "filename"
  let extension ← requiredText "qEnsureExtension" args "ext"
  .ok (.string (withExtension fileName extension))

/-! ## Parts of headers -/

/-- The license for a class and its file. It draws what the call draws. -/
def licenseText (around : Surroundings) : Function := fun chance args => do
  let path ← textOrEmpty "cpp.license" args "path"
  let className ← textOrEmpty "cpp.license" args "class_name"
  let fileName ← textOrEmpty "cpp.license" args "file_name"
  match license (around.drawing chance) path
    (.ofList [("ClassName", .text className), ("FileName", .text fileName)]) with
  | .ok text => .ok (.string text)
  | .error failure => .error ("cpp.license failed" :: failure.trace)

/-- The part of a header that the argument `call` names. -/
def headerPart (around : Surroundings) : Function := fun chance args => do
  let part ← requiredText "cpp" args "call"
  if part = "class_name" then
    let name ← requiredText "cpp.class_name" args "name"
    .ok (.string (Header.className name))
  else if part = "namespace_open" then
    let name ← requiredText "cpp.namespace_open" args "name"
    .ok (.string (Header.scopeOpenings name))
  else if part = "namespace_close" then
    let name ← requiredText "cpp.namespace_close" args "name"
    .ok (.string (Header.scopeClosings name))
  else if part = "header_guard" then
    let fileName ← requiredText "cpp.header_guard" args "file"
    .ok (.string (Header.includeGuard fileName))
  else if part = "includes" then
    let names ← textList "cpp.includes" ((lookupEntry "names" args).getD .null)
    .ok (.array ((Header.includes names).map .string))
  else if part = "license" then licenseText around chance args
  else Function.fail s!"unknown cpp call `{part}`"

/-! ## The registry -/

/-- The functions of the library. -/
def standard (around : Surroundings) : Registry :=
  .ofList [("qEnv", environmentText around), ("qJoin", joinTexts), ("qContains", containsText),
    ("qUnpack", unpackToken), ("qEnsureExtension", ensureExtension), ("cpp", headerPart around)]

@[simp] theorem standard_drawing (around : Surroundings) (chance : Chance) :
    standard (around.drawing chance) = standard around := rfl

@[simp] theorem standard_part (around : Surroundings) (n : Nat) :
    standard (around.part n) = standard around := rfl

end Scaffold.Library
