import Scaffold.Value.Basic

/-!
# The syntax of templates

A template is a list of nodes: text that is copied, tags that print a value or assign one, and tags
with a body. Expressions consist of an operand, the filters applied to it and perhaps a negation.
Every tag remembers on which of its sides it removes white space from the text next to it; the
module `Layout` carries that out.
-/

namespace Scaffold.Template

/-! ## Expressions -/

/-- Arithmetic operators. -/
inductive MathOp where
  | add | sub | mul | div | mod
  deriving Repr, DecidableEq

/-- Whether an operator binds more tightly than addition. -/
def MathOp.isProduct : MathOp → Bool
  | .add | .sub => false
  | .mul | .div | .mod => true

/-- Comparison operators. -/
inductive CompareOp where
  | lt | le | gt | ge | eq | ne
  deriving Repr, DecidableEq

/-- Operators between truth values. -/
inductive LogicOp where
  | and | or
  deriving Repr, DecidableEq

mutual

/-- An operand, the filters applied to it from left to right, and perhaps a negation. -/
inductive Expr where
  | mk (operand : Operand) (negated : Bool) (filters : List Call)

/-- What an expression is made of. -/
inductive Operand where
  | text (s : String)
  | int (n : Int)
  | float (x : Float)
  | bool (b : Bool)
  /-- A variable, perhaps with attributes and indices. -/
  | name (path : String)
  | math (op : MathOp) (lhs rhs : Expr)
  | compare (op : CompareOp) (lhs rhs : Expr)
  | logic (op : LogicOp) (lhs rhs : Expr)
  /-- Membership in a list, a map or a text. -/
  | member (negated : Bool) (item container : Expr)
  | test (negated : Bool) (path : String) (tester : String) (args : List Expr)
  | call (function : Call)
  | macroCall (space : String) (name : String) (args : List (String × Expr))
  | array (items : List Expr)
  | concat (parts : List Operand)

/-- A function or filter with named arguments, each name once. -/
inductive Call where
  | mk (name : String) (args : List (String × Expr))

end

instance : Inhabited Operand := ⟨.bool false⟩
instance : Inhabited Expr := ⟨.mk default false []⟩

/-- An operand on its own. -/
def Expr.plain (operand : Operand) : Expr := .mk operand false []

/-- The operand of an expression. -/
def Expr.operand : Expr → Operand
  | .mk operand _ _ => operand

/-- Whether the expression is negated. -/
def Expr.negated : Expr → Bool
  | .mk _ negated _ => negated

/-- The filters of an expression. -/
def Expr.filters : Expr → List Call
  | .mk _ _ filters => filters

/-- The expression with its negation set as told. -/
def Expr.withNegation (e : Expr) (negated : Bool) : Expr := .mk e.operand negated e.filters

/-- The name of a function or filter. -/
def Call.name : Call → String
  | .mk name _ => name

/-- The arguments of a function or filter. -/
def Call.args : Call → List (String × Expr)
  | .mk _ args => args

/-- Puts an argument at the end; an earlier one of the same name is dropped. -/
def addArg (args : List (String × Expr)) (name : String) (e : Expr) : List (String × Expr) :=
  args.filter (·.1 != name) ++ [(name, e)]

/-! ## Nodes -/

/-- On which sides a tag removes the white space next to it. -/
structure Edges where
  left : Bool
  right : Bool
  deriving Repr, DecidableEq, Inhabited

mutual

/-- A piece of a template. -/
inductive Node where
  | text (s : String)
  | print (edges : Edges) (value : Expr)
  | comment (edges : Edges)
  /-- Text between tags that is not read as template. -/
  | raw (opening : Edges) (s : String) (closing : Edges)
  | assign (edges : Edges) (global : Bool) (name : String) (value : Expr)
  /-- The first existing one of some templates. -/
  | insert (edges : Edges) (names : List String) (optional : Bool)
  | forLoop (opening : Edges) (key : Option String) (item : String) (container : Expr)
      (body : List Node) (otherwise : Option (List Node)) (closing : Edges)
  | cond (branches : List Branch) (otherwise : Option ElseBranch) (closing : Edges)
  /-- A body whose output goes through a filter. -/
  | filtered (opening : Edges) (filter : Call) (body : List Node) (closing : Edges)
  | block (opening : Edges) (name : String) (body : List Node) (closing : Edges)
  | define (opening : Edges) (name : String) (params : List (String × Option Value))
      (body : List Node) (closing : Edges)
  | breakLoop (edges : Edges)
  | continueLoop (edges : Edges)
  /-- The same block of the template that this one extends. -/
  | parentBlock

/-- A condition and what it guards. -/
inductive Branch where
  | mk (edges : Edges) (condition : Expr) (body : List Node)

/-- What is left if no condition holds. -/
inductive ElseBranch where
  | mk (edges : Edges) (body : List Node)

end

instance : Inhabited Node := ⟨.text ""⟩

/-- A named piece of template with parameters, some of which have default values. -/
structure Definition where
  name : String
  params : List (String × Option Value)
  body : List Node

end Scaffold.Template
