import Scaffold.Disk.Basic

/-!
# Changes of a disk

What is new or different below the working directory after something was done, in the order of the
paths.
-/

namespace Scaffold.Disk

/-- The path from a directory to a location below it. -/
def pathBelow? (directory place : Location) : Option String :=
  if directory.length < place.length ∧ place.take directory.length = directory then
    some ("/".intercalate (place.drop directory.length))
  else none

/-- Whether a place holds a file, and whether it holds the same one on another disk. -/
def sameEntry : Option Entry → Option Entry → Bool
  | some (.file a), some (.file b) => a == b
  | some .directory, some .directory => true
  | none, none => true
  | _, _ => false

/-- Puts something in its place among what is sorted by path. -/
def insertByPath (path : String) (entry : Entry) :
    List (String × Entry) → List (String × Entry)
  | [] => [(path, entry)]
  | (p, e) :: rest =>
    if path < p then (path, entry) :: (p, e) :: rest else (p, e) :: insertByPath path entry rest

/-- What is below the working directory and was not there before, or not the same. -/
def changes (before after : Disk) : List (String × Entry) :=
  after.entries.foldl (fun found (place, entry) =>
    match pathBelow? after.working place with
    | some path =>
      if sameEntry (before.get? place) (some entry) then found
      else insertByPath path entry found
    | none => found) []

end Scaffold.Disk
