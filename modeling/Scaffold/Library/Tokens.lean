import Scaffold.Text.Blank
import Scaffold.Text.Search

/-!
# List tokens and file names

A list can be given as one token: its items in brackets, with white space or commas between them.
`unpack` reads such a token, which is also how lists print in templates.
-/

namespace Scaffold.Library

/-- Whether a character separates the items of a list token. -/
def isSeparator (c : Char) : Bool := Text.isBlank c || c == ','

/-- The runs of characters between separators; `current` is the run read so far, the last character
first. -/
def runsFrom (current : List Char) : List Char → List (List Char)
  | [] => if current.isEmpty then [] else [current.reverse]
  | c :: cs =>
    if isSeparator c then
      if current.isEmpty then runsFrom [] cs else current.reverse :: runsFrom [] cs
    else runsFrom (c :: current) cs

/-- The items between separators. -/
def items (cs : List Char) : List String := (runsFrom [] cs).map String.ofList

/-- What stands between a pair of brackets. -/
def insideBrackets? : List Char → Option (List Char)
  | '[' :: cs => Text.stripEnd? [']'] cs
  | _ => none

/-- The items of a list token; a token without brackets is its own only item. -/
def unpack (token : String) : List String :=
  match Text.trim token.toList with
  | [] => []
  | c :: cs =>
    match insideBrackets? (c :: cs) with
    | some inner => items inner
    | none => [String.ofList (c :: cs)]

/-- What follows the last slash of a file name. -/
def lastSegment (fileName : String) : List Char := Text.lastPiece ['/'] fileName.toList

/-- A file name with an extension; one that has a point in its last segment is left alone. -/
def withExtension (fileName extension : String) : String :=
  if (lastSegment fileName).contains '.' then fileName else fileName ++ extension

end Scaffold.Library
