import Scaffold.Toml.Scalar

/-!
# Tables of TOML

A document is a table of named values, built up statement by statement: a heading opens a table, a
dotted name reaches into tables within it. A table is stated once; how it came to be decides what
may still be added to it. `lookup_append_self` says that a name that was free has the value it is
given.
-/

namespace Scaffold.Toml

/-- How a table came to be: a heading states it, or it lies on the way to what a heading states, or
dotted names made it, or it is written out as a value, which closes it. -/
inductive Standing where
  | stated
  | implied
  | dotted
  | closed
  deriving Repr, DecidableEq

/-- The values of a document. A list of tables that headings state always has a last one. -/
inductive Value where
  | text (s : String)
  | integer (n : Int)
  | float (x : Float)
  | boolean (b : Bool)
  | moment (written : String)
  | list (items : List Value)
  | table (standing : Standing) (entries : List (String × Value))
  | tables (earlier : List (List (String × Value))) (last : List (String × Value))

/-- The entries of a table in the order of their names' first mention. -/
abbrev Table := List (String × Value)

namespace Table

/-- Gives a name that is in the table another value. -/
def replace (name : String) (value : Value) : Table → Table
  | [] => []
  | (n, v) :: rest =>
    if n = name then (n, value) :: rest else (n, v) :: replace name value rest

/-- Adds a value under a name that must be free. -/
def addNew (name : String) (value : Value) (table : Table) : Option Table :=
  if (table.lookup name).isSome then none else some (table ++ [(name, value)])

/-- Adds a value under a dotted name. The tables on the way must not be stated or closed, and the
last of them is one that dotted names made. -/
def addDotted : (path : List String) → Value → Table → Option Table
  | [], _, _ => none
  | [name], value, table => table.addNew name value
  | name :: next :: rest, value, table =>
    match table.lookup name with
    | none =>
      (addDotted (next :: rest) value []).map fun inner => table ++ [(name, .table .dotted inner)]
    | some (.table .dotted inner) =>
      (addDotted (next :: rest) value inner).map fun inner =>
        table.replace name (.table .dotted inner)
    | some (.table .implied inner) =>
      if rest.isEmpty then none
      else (addDotted (next :: rest) value inner).map fun inner =>
        table.replace name (.table .implied inner)
    | some (.tables earlier last) =>
      if rest.isEmpty then none
      else (addDotted (next :: rest) value last).map fun last =>
        table.replace name (.tables earlier last)
    | some _ => none

/-- Changes the table that a path of headings leads to; of a list of tables it is the last. Tables
that are missing on the way are implied. -/
def within : (path : List String) → (Table → Option Table) → Table → Option Table
  | [], change, table => change table
  | name :: rest, change, table =>
    match table.lookup name with
    | none => (within rest change []).map fun inner => table ++ [(name, .table .implied inner)]
    | some (.table .closed _) => none
    | some (.table standing inner) =>
      (within rest change inner).map fun inner => table.replace name (.table standing inner)
    | some (.tables earlier last) =>
      (within rest change last).map fun last => table.replace name (.tables earlier last)
    | some _ => none

/-- States a table, which may be implied so far. -/
def state (name : String) (table : Table) : Option Table :=
  match table.lookup name with
  | none => some (table ++ [(name, .table .stated [])])
  | some (.table .implied inner) => some (table.replace name (.table .stated inner))
  | some _ => none

/-- States another table of a list. -/
def stateNext (name : String) (table : Table) : Option Table :=
  match table.lookup name with
  | none => some (table ++ [(name, .tables [] [])])
  | some (.tables earlier last) => some (table.replace name (.tables (earlier ++ [last]) []))
  | some _ => none

/-- The value of a name that was free and has been added. -/
theorem lookup_append_self (table : Table) (name : String) (value : Value)
    (h : table.lookup name = none) : (table ++ [(name, value)]).lookup name = some value := by
  induction table with
  | nil => simp
  | cons e rest ih =>
    obtain ⟨n, v⟩ := e
    by_cases hn : name = n
    · subst hn
      simp at h
    · have hb : (name == n) = false := by simpa using hn
      simp only [List.lookup_cons, hb] at h
      simpa [List.lookup_cons, hb] using ih h

theorem addNew_eq_some_iff {name : String} {value : Value} {table added : Table} :
    table.addNew name value = some added ↔
      table.lookup name = none ∧ added = table ++ [(name, value)] := by
  cases h : table.lookup name with
  | none => simp [addNew, h, eq_comm]
  | some v => simp [addNew, h]

end Table

end Scaffold.Toml
