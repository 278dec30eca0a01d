import Scaffold.Text.Search

/-!
# Paths

A path is a text whose parts are separated by slashes. Repeated slashes and inner points add nothing
to the parts, so that paths of different texts can have the same parts. Only the named parts of a
path stay below the place that it is followed from; `names_append_slash` says that they add up when
one path continues another.
-/

namespace Scaffold.Path

/-- A part of a path: the root, the place itself, the directory above, or something by name. -/
inductive Part where
  | root
  | here
  | up
  | name (s : String)
  deriving Repr, DecidableEq

/-- The pieces of a path between slashes. -/
def segments (path : String) : List String := Text.split "/" path

/-- Whether a path starts at the root. -/
def isAbsolute (path : String) : Bool := path.toList.head? == some '/'

/-- The part that a piece of a path stands for, if it adds one. -/
def partOf (segment : String) : Option Part :=
  if segment = "" ∨ segment = "." then none
  else if segment = ".." then some .up
  else some (.name segment)

/-- The part that a path begins with before those of its pieces. -/
def opening (path : String) : List Part :=
  if isAbsolute path then [.root]
  else if (segments path).head? = some "." then [.here]
  else []

/-- The parts of a path. -/
def parts (path : String) : List Part := opening path ++ (segments path).filterMap partOf

/-- Whether two paths have the same parts. -/
def same (a b : String) : Bool := parts a == parts b

/-- The named parts of a path. -/
def names (path : String) : List String :=
  (parts path).filterMap fun
    | .name s => some s
    | _ => none

/-- The last part of a path if it is a name. -/
def fileName? (path : String) : Option String :=
  match (parts path).getLast? with
  | some (.name s) => some s
  | _ => none

/-- The text of a path with the given parts. -/
def ofParts : List Part → String
  | .root :: rest => "/" ++ ofParts rest
  | [.here] => "."
  | [.up] => ".."
  | [.name s] => s
  | .here :: rest => "./" ++ ofParts rest
  | .up :: rest => "../" ++ ofParts rest
  | .name s :: rest => s ++ "/" ++ ofParts rest
  | [] => ""

/-- A path continued by another; an absolute one replaces it. -/
def join (base path : String) : String :=
  if isAbsolute path then path
  else if base = "" then path
  else if base.toList.getLast? = some '/' then base ++ path
  else base ++ "/" ++ path

/-- A path continued by the named parts of another, so that it stays below. -/
def below (base path : String) : String := (names path).foldl join base

/-! ## Names of joined paths -/

theorem segments_append_slash (x y : String) :
    segments (x ++ "/" ++ y) = segments x ++ segments y := by
  have h : ("/" : String).toList = ['/'] := rfl
  simp [segments, Text.split, h, Text.pieces_append_cons]

/-- The name that a piece of a path stands for, if it stands for one. -/
def nameOf (segment : String) : Option String :=
  match partOf segment with
  | some (.name s) => some s
  | _ => none

theorem names_eq_filterMap (path : String) : names path = (segments path).filterMap nameOf := by
  have h : (opening path).filterMap (fun
      | .name s => some s
      | _ => none) = ([] : List String) := by
    unfold opening
    split
    · rfl
    · split <;> rfl
  simp only [names, parts, List.filterMap_append, h, List.nil_append, List.filterMap_filterMap]
  congr 1
  funext segment
  simp only [nameOf]
  cases partOf segment with
  | none => rfl
  | some part => cases part <;> rfl

/-- The names of a path continued by another are those of both. -/
theorem names_append_slash (x y : String) : names (x ++ "/" ++ y) = names x ++ names y := by
  simp [names_eq_filterMap, segments_append_slash]

theorem below_append_slash (base x y : String) :
    below base (x ++ "/" ++ y) = below (below base x) y := by
  simp [below, names_append_slash]

end Scaffold.Path
