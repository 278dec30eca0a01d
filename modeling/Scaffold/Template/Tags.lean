import Scaffold.Template.Grammar

/-!
# The grammar of tags

A page is read node by node: text up to the next opening delimiter, a printed value, a comment, or a
tag with its body. Which tags may stand in a body depends on the body's place. A node is recognised
by how it starts, and a node that starts well and ends badly leaves the page unread.
-/

namespace Scaffold.Template

open Reader

namespace Tags

/-! ## Delimiters -/

/-- Reads a delimiter with an optional trimming hyphen before or after it, and tells whether the
hyphen is there. -/
def delimiter (trimming plain : String) : Reader Bool :=
  (do literal trimming.toList; pure true) <|> (do literal plain.toList; pure false)

/-- Opens a printed value. -/
def printStart : Reader Bool := delimiter "\x7b\x7b-" "\x7b\x7b"

/-- Closes a printed value. -/
def printEnd : Reader Bool := do
  spaces
  delimiter "-\x7d\x7d" "\x7d\x7d"

/-- Opens a tag with a keyword. -/
def tagStart (keyword : String) : Reader Bool := do
  let left ← delimiter "\x7b%-" "\x7b%"
  token keyword.toList
  pure left

/-- Closes a tag. -/
def tagEnd : Reader Bool := do
  spaces
  delimiter "-%\x7d" "%\x7d"

/-- Closes a comment. -/
def commentEnd : Reader Bool := delimiter "-#\x7d" "#\x7d"

/-- A tag that is only a keyword. -/
def bareTag (keyword : String) : Reader Edges := do
  let left ← tagStart keyword
  let right ← tagEnd
  pure ⟨left, right⟩

/-- Whether an opening delimiter starts here. -/
def opensTag : List Char → Bool
  | '{' :: c :: _ => c == '{' || c == '%' || c == '#'
  | _ => false

/-- The text before the first place where a reader succeeds, and what the reader gives there. -/
def upTo {α : Type} (closing : Reader α) : Reader (List Char × α)
  | [] => (closing []).map fun (a, rest) => (([], a), rest)
  | c :: cs =>
    match closing (c :: cs) with
    | some (a, rest) => some (([], a), rest)
    | none => (upTo closing cs).map fun ((before, a), rest) => ((c :: before, a), rest)

/-- Splits a text before the first opening delimiter. -/
def plainText : List Char → List Char × List Char
  | [] => ([], [])
  | c :: cs =>
    if opensTag (c :: cs) then ([], c :: cs)
    else ((c :: (plainText cs).1), (plainText cs).2)

theorem plainText_append (cs : List Char) : (plainText cs).1 ++ (plainText cs).2 = cs := by
  fun_induction plainText cs <;> simp_all

/-! ## Nodes without a body -/

/-- Text. -/
def textNode : Reader Node := fun cs =>
  match plainText cs with
  | ([], _) => none
  | (t :: ts, rest) => some (.text (String.ofList (t :: ts)), rest)

/-- A printed value. -/
def printNode : Reader Node := do
  let left ← printStart
  spaces
  let e ← Grammar.expression
  let right ← printEnd
  pure (.print ⟨left, right⟩ e)

/-- The place of the extended template's block. -/
def parentNode : Reader Node := do
  let _ ← printStart
  token "super()".toList
  let _ ← printEnd
  pure .parentBlock

/-- A comment, which holds at least one character. -/
def commentNode : Reader Node := do
  let left ← delimiter "\x7b#-" "\x7b#"
  let (body, right) ← upTo commentEnd
  if body.isEmpty then failure else pure (.comment ⟨left, right⟩)

/-- The names of templates to insert. -/
def insertedNames : Reader (List String) :=
  (do let s ← Grammar.quoted; pure [s]) <|> (do
    literal ['[']
    let names ← many do
      spaces
      let s ← Grammar.quoted
      token [',']
      pure s
    spaces
    let last ← maybe Grammar.quoted
    token [']']
    pure (names ++ last.toList))

/-- Inserts another template. -/
def insertNode : Reader Node := do
  let left ← tagStart "include"
  spaces1
  let names ← insertedNames
  spaces
  let skippable ← maybe do
    literal "ignore".toList
    token "missing".toList
  let right ← tagEnd
  pure (.insert ⟨left, right⟩ names skippable.isSome)

/-- Assigns a value to a name. -/
def assignNode (keyword : String) (global : Bool) : Reader Node := do
  let left ← tagStart keyword
  spaces1
  let n ← Grammar.name
  token ['=']
  spaces
  let e ← Grammar.expression
  let right ← tagEnd
  pure (.assign ⟨left, right⟩ global n e)

/-- Text between tags that is not read as template. -/
def rawNode : Reader Node := do
  let opening ← bareTag "raw"
  let (body, closing) ← upTo (bareTag "endraw")
  pure (.raw opening (String.ofList body) closing)

/-! ## Nodes with a body -/

/-- Where a body stands, which decides what may stand in it. -/
inductive Place where
  /-- At the top of a page or under a condition there. -/
  | page
  | block
  | loop
  /-- In a filtered body. -/
  | filtered
  /-- In a macro. -/
  | definition
  deriving Repr, DecidableEq

/-- Whether blocks may stand here. -/
def Place.hasBlocks : Place → Bool
  | .page | .block | .filtered => true
  | .loop | .definition => false

/-- The readers of bodies by their place. -/
abbrev Bodies := Place → Reader (List Node)

/-- A condition and what it guards. -/
def branch (bodies : Bodies) (place : Place) (keyword : String) : Reader Branch := do
  let left ← tagStart keyword
  spaces1
  let e ← Grammar.condition
  let right ← tagEnd
  let body ← bodies place
  pure (.mk ⟨left, right⟩ e body)

/-- What is left if no condition holds. -/
def elseBranch (bodies : Bodies) (place : Place) : Reader ElseBranch := do
  let edges ← bareTag "else"
  let body ← bodies place
  pure (.mk edges body)

/-- Conditions in turn. -/
def condNode (bodies : Bodies) (place : Place) : Reader Node := do
  let first ← branch bodies place "if"
  let others ← many (branch bodies place "elif")
  let otherwise ← maybe (elseBranch bodies place)
  let closing ← bareTag "endif"
  pure (.cond (first :: others) otherwise closing)

/-- A loop. Only the last of several bodies for an empty container counts. -/
def loopNode (bodies : Bodies) : Reader Node := do
  let left ← tagStart "for"
  spaces1
  let first ← Grammar.name
  let second ← maybe do
    literal [',']
    spaces
    Grammar.name
  spaces1
  literal ['i', 'n']
  spaces1
  let container ← Grammar.loopContainer
  let right ← tagEnd
  let body ← bodies .loop
  let empties ← many do
    let _ ← bareTag "else"
    bodies .loop
  let closing ← bareTag "endfor"
  let (key, item) := match second with
    | some item => (some first, item)
    | none => (none, first)
  pure (.forLoop ⟨left, right⟩ key item container body empties.getLast? closing)

/-- A body whose output goes through a filter. -/
def filteredNode (bodies : Bodies) : Reader Node := do
  let left ← tagStart "filter"
  spaces1
  let filter ← Grammar.bodyFilter
  let right ← tagEnd
  let body ← bodies .filtered
  let closing ← bareTag "endfilter"
  pure (.filtered ⟨left, right⟩ filter body closing)

/-- A closing tag that may repeat the name of what it closes. -/
def namedEnd (keyword : String) : Reader Edges := do
  let left ← tagStart keyword
  spaces
  let _ ← maybe Grammar.name
  let right ← tagEnd
  pure ⟨left, right⟩

/-- A named block. -/
def blockNode (bodies : Bodies) : Reader Node := do
  let left ← tagStart "block"
  spaces1
  let n ← Grammar.name
  let right ← tagEnd
  let body ← bodies .block
  let closing ← namedEnd "endblock"
  pure (.block ⟨left, right⟩ n body closing)

/-- The definition of a macro. -/
def defineNode (bodies : Bodies) : Reader Node := do
  let left ← tagStart "macro"
  spaces1
  let (n, params) ← Grammar.signature
  let right ← tagEnd
  let body ← bodies .definition
  let closing ← namedEnd "endmacro"
  pure (.define ⟨left, right⟩ n params body closing)

/-- Reads with `p` if a condition holds, else fails. -/
def onlyIf {α : Type} (condition : Bool) (p : Reader α) : Reader α :=
  if condition then p else failure

/-- A node in a body at a place. -/
def node (bodies : Bodies) (place : Place) : Reader Node :=
  insertNode <|>
  onlyIf (place = .block) parentNode <|>
  printNode <|>
  commentNode <|>
  assignNode "set" false <|>
  assignNode "set_global" true <|>
  onlyIf place.hasBlocks (blockNode bodies) <|>
  condNode bodies place <|>
  loopNode bodies <|>
  onlyIf (place = .loop) (do let edges ← bareTag "break"; pure (.breakLoop edges)) <|>
  onlyIf (place = .loop) (do let edges ← bareTag "continue"; pure (.continueLoop edges)) <|>
  filteredNode bodies <|>
  rawNode <|>
  textNode

/-- The readers of bodies nested `depth` times at most. -/
def bodies : (depth : Nat) → Bodies
  | 0 => fun _ => pure []
  | depth + 1 => fun place => many (node (bodies depth) place)

/-- A whole page. Comments at its very start leave no trace, and macros are only defined at its
top. -/
def page : Reader (List Node) := fun cs =>
  let inner := bodies cs.length
  (do
    let _ ← many commentNode
    let nodes ← many (node inner .page <|> defineNode inner)
    done
    pure nodes : Reader (List Node)) cs

end Tags

end Scaffold.Template
