import Scaffold.Text.Blank
import Scaffold.Text.Letter
import Scaffold.Text.Property.Extending

/-!
# Patterns

A pattern describes texts: single characters that satisfy a test, edges between characters, and
sequences, choices and repetitions of patterns. Matching computes all places where a match that
starts at a place can end.
-/

namespace Scaffold.Text

/-- A description of texts. -/
inductive Pattern where
  | empty
  | char (test : Char → Bool)
  | edge (test : (before after : Option Char) → Bool)
  | seq (first second : Pattern)
  | either (first second : Pattern)
  | star (repeated : Pattern)

namespace Pattern

/-- A place in a text: the character before it and all characters behind. -/
abbrev Place := Option Char × List Char

/-- Adds the places that are not among those found. As places of one text differ in what is behind
them, its length tells them apart. -/
def addNew (found : List Place) : List Place → List Place
  | [] => found
  | p :: rest =>
    if found.any fun q => q.2.length == p.2.length then addNew found rest
    else addNew (found ++ [p]) rest

/-- The places reached from some by any number of steps, of which at most `rounds` are new. -/
def reach (step : Place → List Place) : (rounds : Nat) → List Place → List Place
  | 0, found => found
  | rounds + 1, found => reach step rounds (addNew found (found.flatMap step))

/-- The places where a match that starts at a place can end. -/
def ends : Pattern → Place → List Place
  | .empty, p => [p]
  | .char test, (_, c :: cs) => if test c then [(some c, cs)] else []
  | .char _, (_, []) => []
  | .edge test, (before, cs) => if test before cs.head? then [(before, cs)] else []
  | .seq first second, p => addNew [] ((ends first p).flatMap (ends second))
  | .either first second, p => addNew (ends first p) (ends second p)
  | .star repeated, p => reach (ends repeated) (p.2.length + 1) [p]

/-- Whether a match starts anywhere from a place on. -/
def matchesFrom (pattern : Pattern) : Option Char → List Char → Bool
  | before, [] => !(pattern.ends (before, [])).isEmpty
  | before, c :: cs =>
    !(pattern.ends (before, c :: cs)).isEmpty || pattern.matchesFrom (some c) cs

/-- Whether a text has a part that matches. -/
def matchesIn (pattern : Pattern) (s : String) : Bool := pattern.matchesFrom none s.toList

/-! ## Derived patterns -/

/-- Patterns one after the other. -/
def sequence : List Pattern → Pattern
  | [] => .empty
  | [p] => p
  | p :: ps => .seq p (sequence ps)

/-- So many matches, or fewer. -/
def atMost (p : Pattern) : Nat → Pattern
  | 0 => .empty
  | n + 1 => .either (.seq p (atMost p n)) .empty

/-- Between so many matches, or from so many on. -/
def times (p : Pattern) (least : Nat) (most : Option Nat) : Pattern :=
  let rest := match most with
    | some m => atMost p (m - least)
    | none => .star p
  sequence (List.replicate least p ++ [rest])

/-! ## Characters and edges -/

/-- Letters, digits and what joins them to words. -/
def isWordChar (c : Char) : Bool :=
  isAlphanumeric c || c == '_' || inSpans extendingSpans c.toNat

/-- Whether a word starts or ends between two places. -/
def isWordEdge (before after : Option Char) : Bool :=
  (before.map isWordChar).getD false != (after.map isWordChar).getD false

/-- Whether a text starts here. -/
def isStart (before _after : Option Char) : Bool := before.isNone

/-- Whether a text ends here. -/
def isEnd (_before after : Option Char) : Bool := after.isNone

/-- Whether a line starts here. -/
def isLineStart (before _after : Option Char) : Bool := before.isNone || before == some '\n'

/-- Whether a line ends here. -/
def isLineEnd (_before after : Option Char) : Bool := after.isNone || after == some '\n'

end Pattern

end Scaffold.Text
