import Scaffold.Toml.Table

/-!
# Documents of TOML

A document is read line by line into statements, which build up its table. Values nest up to a
limit; a statement that takes back or repeats what an earlier one stated refuses the document.
`build_append` says that a document can be built in two portions.
-/

namespace Scaffold.Toml

open Reader

/-! ## Names -/

/-- Whether a character may stand in a name without quotes. -/
def isBare (c : Char) : Bool := c.isAlphanum || c == '_' || c == '-'

/-- Takes a simple name. -/
def simpleName : Reader String :=
  (do let cs ← run1 isBare; pure (String.ofList cs)) <|> quoted <|> unescaped

/-- Takes a dotted name. -/
def dottedName : Reader (List String) := do
  let first ← simpleName
  let more ← many (do blanks; literal ['.']; blanks; simpleName)
  pure (first :: more)

/-! ## Values -/

/-- Takes values with commas between them, and perhaps one behind the last. -/
def commaSeparated {α : Type} (item : Reader α) : Reader (List α) := do
  match ← maybe item with
  | none => pure []
  | some first => do
    gap
    let more ← many (do literal [',']; gap; let a ← item; gap; pure a)
    let _ ← maybe (do literal [',']; gap)
    pure (first :: more)

/-- Takes a list of values. -/
def list (value : Reader Value) : Reader Value := do
  literal ['[']
  gap
  let items ← commaSeparated value
  literal [']']
  pure (.list items)

/-- Takes a value with the name that it is given. -/
def entry (value : Reader Value) : Reader (List String × Value) := do
  let name ← dottedName
  blanks
  literal ['=']
  blanks
  let v ← value
  pure (name, v)

/-- Takes a table that is written out as a value. -/
def closedTable (value : Reader Value) : Reader Value := do
  literal ['\x7b']
  gap
  let entries ← commaSeparated (entry value)
  literal ['\x7d']
  match entries.foldlM (fun table (path, v) => Table.addDotted path v table) [] with
  | some table => pure (.table .closed table)
  | none => failure

/-- Takes a value that has no parts. -/
def scalar : Reader Value :=
  Value.text <$> text <|> Value.boolean <$> boolean <|> Value.moment <$> moment <|>
    Value.float <$> float <|> Value.integer <$> integer

/-- Takes a value with so many levels of lists and tables in it at most. -/
def value : (levels : Nat) → Reader Value
  | 0 => scalar
  | levels + 1 => scalar <|> list (value levels) <|> closedTable (value levels)

/-- The most levels of lists and tables in a value. -/
def levelLimit : Nat := 80

/-! ## Statements -/

/-- What a line says. -/
inductive Statement where
  | entry (path : List String) (value : Value)
  | table (path : List String)
  | nextTable (path : List String)

/-- Takes a name between brackets. -/
def heading (left right : String) : Reader (List String) := do
  literal left.toList
  blanks
  let path ← dottedName
  blanks
  literal right.toList
  pure path

/-- Takes a statement. -/
def statement : Reader Statement :=
  Statement.nextTable <$> heading "[[" "]]" <|> Statement.table <$> heading "[" "]" <|>
    (fun (path, v) => Statement.entry path v) <$> entry (value levelLimit)

/-- Takes a line with or without a statement, up to its end. -/
def line : Reader (Option Statement) := do
  blanks
  let s? ← maybe statement
  blanks
  let _ ← maybe comment
  pure s?

/-- Takes all lines of a document. -/
def lines : Reader (List Statement) := do
  let first ← line
  let more ← many (do lineEnd; line)
  done
  pure ((first :: more).filterMap id)

/-! ## Building -/

/-- A document that is being built: its table, and the path of the last heading. -/
structure Draft where
  root : Table
  place : List String

namespace Draft

/-- A document without statements. -/
def empty : Draft := ⟨[], []⟩

/-- Adds what a statement says, unless it contradicts what has been said. -/
def add (draft : Draft) : Statement → Option Draft
  | .entry path value =>
    (draft.root.within draft.place (Table.addDotted path value)).map fun root =>
      { draft with root := root }
  | .table path => do
    let name ← path.getLast?
    let root ← draft.root.within path.dropLast (Table.state name)
    pure ⟨root, path⟩
  | .nextTable path => do
    let name ← path.getLast?
    let root ← draft.root.within path.dropLast (Table.stateNext name)
    pure ⟨root, path⟩

/-- Adds what statements say in order. -/
def build (draft : Draft) (statements : List Statement) : Option Draft :=
  statements.foldlM add draft

theorem build_append (draft : Draft) (first second : List Statement) :
    draft.build (first ++ second) = (draft.build first).bind (·.build second) := by
  simp [build]

end Draft

/-- The text behind a mark of the byte order. -/
def withoutOrderMark : List Char → List Char
  | c :: cs => if c.toNat = 0xFEFF then cs else c :: cs
  | [] => []

/-- The table of a document, unless it is malformed. -/
def Table.ofText? (text : String) : Option Table := do
  let (statements, _) ← lines (withoutOrderMark text.toList)
  let draft ← Draft.empty.build statements
  pure draft.root

end Scaffold.Toml
