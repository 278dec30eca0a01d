import Scaffold.Path

/-!
# The tree of files

A disk holds files and directories, each at a location: the names that lead to it from the root. One
location is the working directory, from which relative paths start. Writing an entry changes its own
location and no other (`Disk.get?_put`).
-/

namespace Scaffold

/-- The names that lead from the root to a place. -/
abbrev Location := List String

/-- What can be at a location. -/
inductive Disk.Entry where
  | file (content : ByteArray)
  | directory
  deriving BEq

/-- Files and directories with the working directory. -/
structure Disk where
  entries : List (Location × Disk.Entry)
  working : Location

namespace Disk

/-- The entry at a location in a list of entries. -/
def findEntry (place : Location) : List (Location × Entry) → Option Entry
  | [] => none
  | (p, e) :: rest => if p = place then some e else findEntry place rest

/-- Puts an entry at its location, in place of one that is there. -/
def putEntry (place : Location) (entry : Entry) :
    List (Location × Entry) → List (Location × Entry)
  | [] => [(place, entry)]
  | (p, e) :: rest => if p = place then (p, entry) :: rest else (p, e) :: putEntry place entry rest

/-- What is at a location. The root is always a directory. -/
def get? (disk : Disk) (place : Location) : Option Entry :=
  if place = [] then some .directory else findEntry place disk.entries

/-- Puts an entry at a location. -/
def put (disk : Disk) (place : Location) (entry : Entry) : Disk :=
  { disk with entries := putEntry place entry disk.entries }

/-- Whether there is a directory at a location. -/
def isDirectory (disk : Disk) (place : Location) : Bool :=
  match disk.get? place with
  | some .directory => true
  | _ => false

theorem findEntry_putEntry (place other : Location) (entry : Entry)
    (entries : List (Location × Entry)) :
    findEntry other (putEntry place entry entries) =
      if place = other then some entry else findEntry other entries := by
  induction entries with
  | nil => rfl
  | cons e rest ih =>
    obtain ⟨p, e⟩ := e
    by_cases hp : p = place
    · subst hp
      by_cases ho : p = other <;> simp [putEntry, findEntry, ho]
    · by_cases ho : p = other
      · subst ho
        simp [putEntry, findEntry, hp, Ne.symm hp]
      · simp [putEntry, findEntry, hp, ho, ih]

theorem get?_put (disk : Disk) (place other : Location) (entry : Entry) (h : place ≠ []) :
    (disk.put place entry).get? other = if place = other then some entry else disk.get? other := by
  by_cases ho : other = []
  · subst ho
    simp [get?, h]
  · simp [get?, put, ho, findEntry_putEntry]

@[simp] theorem working_put (disk : Disk) (place : Location) (entry : Entry) :
    (disk.put place entry).working = disk.working := rfl

/-! ## Following paths -/

/-- Why something on the disk could not be reached or made. -/
inductive Fault where
  | missing
  | occupied
  | notDirectory
  | isDirectory
  | nameTooLong
  | zeroInPath
  deriving Repr, DecidableEq

/-- The text of a fault. -/
def Fault.message : Fault → String
  | .missing => "No such file or directory (os error 2)"
  | .occupied => "File exists (os error 17)"
  | .notDirectory => "Not a directory (os error 20)"
  | .isDirectory => "Is a directory (os error 21)"
  | .nameTooLong => "File name too long (os error 36)"
  | .zeroInPath => "file name contained an unexpected NUL byte"

/-- The most bytes that a name may have. -/
def nameLimit : Nat := 255

/-- The most bytes that a path may have. -/
def pathLimit : Nat := 4095

/-- Takes one step from a location, which has to be a directory. -/
def step (disk : Disk) (place : Location) (segment : String) : Except Fault Location :=
  if disk.isDirectory place then
    if segment = "" ∨ segment = "." then .ok place
    else if segment = ".." then .ok place.dropLast
    else if nameLimit < segment.utf8ByteSize then .error .nameTooLong
    else if (disk.get? (place ++ [segment])).isSome then .ok (place ++ [segment])
    else .error .missing
  else .error .notDirectory

/-- Takes several steps. -/
def walk (disk : Disk) : Location → List String → Except Fault Location
  | place, [] => .ok place
  | place, segment :: rest =>
    match disk.step place segment with
    | .ok next => disk.walk next rest
    | .error fault => .error fault

/-- Where a path starts. -/
def start (disk : Disk) (path : String) : Location :=
  if Path.isAbsolute path then [] else disk.working

/-- Refuses a path that no disk can hold. -/
def checkPath (path : String) : Except Fault Unit :=
  if path.toList.contains (Char.ofNat 0) then .error .zeroInPath
  else if pathLimit < path.utf8ByteSize then .error .nameTooLong
  else .ok ()

/-- The location that a path leads to. -/
def locate (disk : Disk) (path : String) : Except Fault Location := do
  checkPath path
  if path = "" then .error .missing
  else disk.walk (disk.start path) (Path.segments path)

/-- What a path leads to. -/
def entryAt? (disk : Disk) (path : String) : Option Entry :=
  match disk.locate path with
  | .ok place => disk.get? place
  | .error _ => none

/-- Whether a path leads to a directory. -/
def hasDirectory (disk : Disk) (path : String) : Bool :=
  match disk.entryAt? path with
  | some .directory => true
  | _ => false

/-! ## Making directories and files -/

/-- Drops the pieces of a path behind trailing slashes. -/
def withoutTrailing (segments : List String) : List String :=
  (segments.reverse.dropWhile (· == "")).reverse

/-- The directory of what a path names and its name there. The second is missing if the path does
not end in a name. -/
def slot (disk : Disk) (path : String) : Except Fault (Location × Option String) := do
  checkPath path
  let segments := withoutTrailing (Path.segments path)
  match segments.getLast? with
  | none => if path = "" then .error .missing else .ok ([], none)
  | some last =>
    let place ← disk.walk (disk.start path) segments.dropLast
    if disk.isDirectory place then
      if last = "." ∨ last = ".." then .ok (place, none)
      else if nameLimit < last.utf8ByteSize then .error .nameTooLong
      else .ok (place, some last)
    else .error .notDirectory

/-- Makes one directory. -/
def makeDirectory (disk : Disk) (path : String) : Except Fault Disk := do
  let (place, name?) ← disk.slot path
  match name? with
  | none => .error .occupied
  | some name =>
    if (disk.get? (place ++ [name])).isSome then .error .occupied
    else .ok (disk.put (place ++ [name]) .directory)

/-- Makes a directory unless there is one. -/
def ensureDirectory (disk : Disk) (path : String) : Except Fault Disk :=
  match disk.makeDirectory path with
  | .ok made => .ok made
  | .error fault => if disk.hasDirectory path then .ok disk else .error fault

/-- Makes a directory whose parts are given, with those above it; `parts` has the last part first.
The directories made stay when a later one cannot be made. -/
def ensureDirectories (disk : Disk) : List Path.Part → Disk × Option Fault
  | [] => (disk, none)
  | part :: above =>
    let path := Path.ofParts (part :: above).reverse
    match disk.ensureDirectory path with
    | .ok made => (made, none)
    | .error .missing =>
      match disk.ensureDirectories above with
      | (made, some fault) => (made, some fault)
      | (made, none) =>
        match made.ensureDirectory path with
        | .ok final => (final, none)
        | .error fault => (made, some fault)
    | .error fault => (disk, some fault)

/-- Writes a file, in place of one that is there. -/
def writeFile (disk : Disk) (path : String) (content : ByteArray) : Except Fault Disk := do
  let (place, name?) ← disk.slot path
  match name? with
  | none => .error .isDirectory
  | some name =>
    if path.toList.getLast? = some '/' ∨ disk.isDirectory (place ++ [name]) then
      .error .isDirectory
    else .ok (disk.put (place ++ [name]) (.file content))

/-- Writes a file after making the directories that it lies in. -/
def writeUnder (disk : Disk) (path : String) (content : ByteArray) : Disk × Option Fault :=
  match disk.ensureDirectories (Path.parts path).dropLast.reverse with
  | (made, some fault) => (made, some fault)
  | (made, none) =>
    match made.writeFile path content with
    | .ok final => (final, none)
    | .error fault => (made, some fault)

end Disk

end Scaffold
