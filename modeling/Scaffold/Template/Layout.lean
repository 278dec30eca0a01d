import Scaffold.Template.Syntax
import Scaffold.Text.Blank

/-!
# White space around tags

A tag can ask for the white space next to it to be removed: at the end of the text before it, at the
start of the text after it, and likewise inside its body. Only text that touches the tag directly is
shortened, and text of which nothing is left goes away.
-/

namespace Scaffold.Template

/-- Whether the white space before a node is to be removed. -/
def Node.trimsBefore : Node → Bool
  | .text _ | .parentBlock => false
  | .print edges _ | .comment edges | .assign edges _ _ _ | .insert edges _ _
  | .breakLoop edges | .continueLoop edges => edges.left
  | .raw opening _ _ | .forLoop opening _ _ _ _ _ _ | .filtered opening _ _ _
  | .block opening _ _ _ | .define opening _ _ _ _ => opening.left
  | .cond branches _ _ => match branches with
    | .mk edges _ _ :: _ => edges.left
    | [] => false

/-- Whether the white space after a node is to be removed; `already` says so for the place before
the node, and a node without edges of its own hands it on. -/
def Node.trimsAfter (already : Bool) : Node → Bool
  | .text _ => false
  | .parentBlock => already
  | .print edges _ | .comment edges | .assign edges _ _ _ | .insert edges _ _
  | .breakLoop edges | .continueLoop edges => edges.right
  | .raw _ _ closing | .forLoop _ _ _ _ _ _ closing | .filtered _ _ _ closing
  | .block _ _ _ closing | .define _ _ _ _ closing | .cond _ _ closing => closing.right

/-- A text without the white space at the ends that are to be trimmed. -/
def trimSides (left right : Bool) (s : String) : String :=
  let cs := if left then Text.trimStart s.toList else s.toList
  String.ofList (if right then Text.trimEnd cs else cs)

/-- A text node, or nothing if no text is left. -/
def textNodes (s : String) : List Node := if s.isEmpty then [] else [.text s]

mutual

/-- Removes white space from a list of nodes, at its start and end too if asked to. -/
def tidyNodes (atStart atEnd : Bool) : List Node → List Node
  | [] => []
  | [n] => tidyNode atStart atEnd n
  | n :: next :: rest =>
    tidyNode atStart next.trimsBefore n ++ tidyNodes (n.trimsAfter atStart) atEnd (next :: rest)

/-- Removes white space from one node; the flags tell whether to do so at the ends of a text. -/
def tidyNode (before after : Bool) : Node → List Node
  | .text s => if before || after then textNodes (trimSides before after s) else [.text s]
  | .raw opening s closing => [.raw opening (trimSides opening.right closing.left s) closing]
  | .forLoop opening key item container body otherwise closing =>
    [.forLoop opening key item container (tidyNodes opening.right closing.left body) otherwise
      closing]
  | .filtered opening filter body closing =>
    [.filtered opening filter (tidyNodes opening.right closing.left body) closing]
  | .block opening name body closing =>
    [.block opening name (tidyNodes opening.right closing.left body) closing]
  | .define opening name params body closing =>
    [.define opening name params (tidyNodes opening.right closing.left body) closing]
  | .cond branches none closing => [.cond (tidyBranches closing.left branches) none closing]
  | .cond branches (some (.mk edges body)) closing =>
    [.cond (tidyBranches edges.left branches)
      (some (.mk edges (tidyNodes edges.right closing.left body))) closing]
  | .print edges value => [.print edges value]
  | .comment edges => [.comment edges]
  | .assign edges global name value => [.assign edges global name value]
  | .insert edges names skippable => [.insert edges names skippable]
  | .breakLoop edges => [.breakLoop edges]
  | .continueLoop edges => [.continueLoop edges]
  | .parentBlock => [.parentBlock]

/-- Removes white space from the bodies of conditions; `atEnd` is the wish of the tag after the last
one. -/
def tidyBranches (atEnd : Bool) : List Branch → List Branch
  | [] => []
  | [.mk edges e body] => [.mk edges e (tidyNodes edges.right atEnd body)]
  | .mk edges e body :: .mk edges' e' body' :: rest =>
    .mk edges e (tidyNodes edges.right edges'.left body) ::
      tidyBranches atEnd (.mk edges' e' body' :: rest)

end

end Scaffold.Template
