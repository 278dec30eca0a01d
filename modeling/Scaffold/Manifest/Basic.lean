import Scaffold.Manifest.Definition
import Scaffold.Source.Basic

/-!
# Manifests

A manifest says what a family of templates generates: a version, a header that is put before every
file, fields for all files, and the files with their templates, names, fields and conditions. What
is missing is empty, what is not known is ignored. A blank text is an empty manifest.
-/

namespace Scaffold

/-- A file of a manifest. -/
structure Manifest.File where
  input : String
  output : String
  fields : List Definition
  condition : String

/-- What a family of templates generates. -/
structure Manifest where
  version : String
  header : String
  fields : List Definition
  files : List Manifest.File

namespace Manifest

open Yaml (Node Document Decode)

/-- A manifest without content. -/
def empty : Manifest := ⟨"", "", [], []⟩

/-- A file without content. -/
def File.empty : File := ⟨"", "", [], ""⟩

/-! ## Reading manifests -/

/-- Reads the text of a scalar as it is written. -/
def decodeText (document : Document) (n : Node) : Decode String := do
  match ← Yaml.follow document n with
  | .scalar _ _ text => pure text
  | _ => Decode.fail .malformed

/-- Reads entries with fixed names into a record, `seen` being the names read before. A name that is
not known is ignored, one that is repeated is a fault. -/
def decodeRecord {α : Type} (document : Document) (known : List String)
    (set : α → String → Node → Decode α) (seen : List String) (record : α) :
    List (Node × Node) → Decode α
  | [] => pure record
  | (k, v) :: rest => do
    let name ← decodeText document k
    if ¬ known.contains name then decodeRecord document known set seen record rest
    else if seen.contains name then Decode.fail .malformed
    else
      let record ← set record name v
      decodeRecord document known set (name :: seen) record rest

/-- Reads what is below a node that has to be a mapping; nothing at all is an empty one. The
continuation is given the depth that is left. -/
def decodeEntriesOf {α : Type} (document : Document) (depth : Nat) (n : Node)
    (read : Nat → List (Node × Node) → Decode α) : Decode α := do
  match ← Yaml.follow document n with
  | .mapping _ entries => if depth = 0 then Decode.fail .malformed else read (depth - 1) entries
  | .scalar _ true "" => read depth []
  | _ => Decode.fail .malformed

/-- Reads what is below a node that has to be a sequence; nothing at all is an empty one. -/
def decodeItemsOf {α : Type} (document : Document) (depth : Nat) (n : Node)
    (read : Nat → Node → Decode α) : Decode (List α) := do
  match ← Yaml.follow document n with
  | .sequence _ items =>
    if depth = 0 then Decode.fail .malformed else Yaml.decodeItems (read (depth - 1)) items
  | .scalar _ true "" => pure []
  | _ => Decode.fail .malformed

/-- Sets one of the entries of a file. -/
def File.set (document : Document) (depth : Nat) (file : File) (name : String) (n : Node) :
    Decode File :=
  match name with
  | "in" => do
    let input ← decodeText document n
    pure { file with input := input }
  | "out" => do
    let output ← decodeText document n
    pure { file with output := output }
  | "fields" => do
    let fields ← Definition.decode document depth n
    pure { file with fields := fields }
  | _ => do
    let condition ← decodeText document n
    pure { file with condition := condition }

/-- Reads a file. -/
def File.decode (document : Document) (depth : Nat) (n : Node) : Decode File :=
  decodeEntriesOf document depth n fun depth entries =>
    decodeRecord document ["in", "out", "fields", "when"] (File.set document depth) []
      File.empty entries

/-- Sets one of the entries that count for all files. -/
def setGlobal (document : Document) (depth : Nat) (manifest : Manifest) (name : String)
    (n : Node) : Decode Manifest :=
  match name with
  | "fields" => do
    let fields ← Definition.decode document depth n
    pure { manifest with fields := fields }
  | _ => do
    let header ← decodeText document n
    pure { manifest with header := header }

/-- Sets one of the entries of a manifest. -/
def set (document : Document) (depth : Nat) (manifest : Manifest) (name : String) (n : Node) :
    Decode Manifest :=
  match name with
  | "version" => do
    let version ← decodeText document n
    pure { manifest with version := version }
  | "global" =>
    decodeEntriesOf document depth n fun depth entries =>
      decodeRecord document ["fields", "header"] (setGlobal document depth) [] manifest entries
  | _ => do
    let files ← decodeItemsOf document depth n (File.decode document)
    pure { manifest with files := files }

/-- Reads the manifest that a node holds. -/
def decode (document : Document) (n : Node) : Decode Manifest :=
  decodeEntriesOf document Yaml.depthLimit n fun depth entries =>
    decodeRecord document ["version", "global", "files"] (set document depth) [] empty entries

/-- The manifest that a text holds. -/
def ofText (text : String) : Except Yaml.Fault Manifest :=
  if Text.allBlank text then .ok empty
  else
    let document := Document.ofText text
    document.decode (decode document)

/-! ## Loading manifests -/

/-- Why a manifest could not be loaded. -/
inductive Failure where
  | unread (path : String) (cause : Source.Fault)
  | malformed (path : String) (fault : Yaml.Fault)
  deriving Repr, DecidableEq

/-- The reason why a text holds no manifest. -/
def faultText : Yaml.Fault → String
  | .malformed => "the text is no manifest"
  | .form reason => reason

/-- The text of a failure. -/
def Failure.message : Failure → String
  | .unread path cause => s!"failed to read manifest {path}: {cause.message}"
  | .malformed path fault => s!"failed to parse manifest {path}: {faultText fault}"

/-- Loads the manifest at a path of a source. -/
def load (source : Source) (disk : Disk) (path : String) : Except Failure Manifest :=
  match source.readText disk path with
  | .error cause => .error (.unread path cause)
  | .ok text =>
    match ofText text with
    | .ok manifest => .ok manifest
    | .error fault => .error (.malformed path fault)

end Manifest

end Scaffold
