import Scaffold.Template.Tags
import Scaffold.Template.Layout

/-!
# Pages

A page is a template that has been read: its name, which only labels errors and lets the page insert
itself, and its nodes without the white space that tags remove. Blocks and macros are looked up by
name, and no name may be taken twice.
-/

namespace Scaffold.Template

/-- A template that has been read. -/
structure Page where
  name : String
  nodes : List Node

mutual

/-- The blocks in some nodes, with those right inside other blocks. -/
def blocksOf : List Node → List (String × List Node)
  | [] => []
  | n :: rest => blocksIn n ++ blocksOf rest

/-- The block that a node is, with those right inside it. -/
def blocksIn : Node → List (String × List Node)
  | .block _ name body _ => (name, body) :: blocksOf body
  | _ => []

end

/-- The macros that a page defines. -/
def Page.definitions (page : Page) : List Definition :=
  page.nodes.filterMap fun
    | .define _ name params body _ => some ⟨name, params, body⟩
    | _ => none

/-- The macro of a name. -/
def Page.definition? (page : Page) (name : String) : Option Definition :=
  page.definitions.find? (·.name == name)

/-- The body of the block of a name. -/
def Page.block? (page : Page) (name : String) : Option (List Node) :=
  ((blocksOf page.nodes).find? (·.1 == name)).map (·.2)

/-- Whether a list of names has a repetition. -/
def hasRepetition : List String → Bool
  | [] => false
  | n :: rest => rest.contains n || hasRepetition rest

/-- Reads a template, unless it is malformed or takes the name of a block or macro twice. -/
def Page.read? (name text : String) : Option Page :=
  match Tags.page text.toList with
  | none => none
  | some (nodes, _) =>
    let page : Page := ⟨name, tidyNodes false false nodes⟩
    if hasRepetition ((blocksOf page.nodes).map (·.1)) then none
    else if hasRepetition (page.definitions.map (·.name)) then none
    else some page

end Scaffold.Template
