import Scaffold.Chance
import Scaffold.Template.Operators

/-!
# How expressions look in messages

Two failures show the expression that they are about in full, as the tree that was read. The named
arguments of a call have no order of their own and are shown in one that is left to chance.
-/

namespace Scaffold.Template

/-! ## Leaves -/

/-- A character inside quotes, control characters as their code points. -/
def describeChar (c : Char) : List Char :=
  if c = '"' then ['\\', '"']
  else if c = '\\' then ['\\', '\\']
  else if c = '\n' then ['\\', 'n']
  else if c = '\r' then ['\\', 'r']
  else if c = '\t' then ['\\', 't']
  else if c.toNat = 0 then ['\\', '0']
  else if c.toNat < 32 || c.toNat = 127 then
    "\\u\x7b".toList ++ Nat.toDigits 16 c.toNat ++ ['}']
  else [c]

/-- A text in quotes. -/
def describeText (s : String) : String :=
  String.ofList ('"' :: s.toList.flatMap describeChar ++ ['"'])

/-- The name of a tree with its fields in braces. -/
def describeNode (name : String) (fields : List (String × String)) : String :=
  name ++ " \x7b " ++ ", ".intercalate (fields.map fun (k, v) => k ++ ": " ++ v) ++ " \x7d"

/-- Several trees in brackets. -/
def describeList (shown : List String) : String := "[" ++ ", ".intercalate shown ++ "]"

/-- Several entries of a map in braces, in an order that is left to chance. -/
def describeMap (chance : Chance) (shown : List String) : String :=
  "\x7b" ++ ", ".intercalate (chance.shuffle shown) ++ "\x7d"

/-- A truth value. -/
def describeBool (b : Bool) : String := if b then "true" else "false"

/-- The name of an arithmetic operator. -/
def MathOp.describe : MathOp → String
  | .add => "Add"
  | .sub => "Sub"
  | .mul => "Mul"
  | .div => "Div"
  | .mod => "Modulo"

/-- The name of a comparison operator. -/
def CompareOp.describe : CompareOp → String
  | .lt => "Lt"
  | .le => "Lte"
  | .gt => "Gt"
  | .ge => "Gte"
  | .eq => "Eq"
  | .ne => "NotEq"

/-- The name of an operator between truth values. -/
def LogicOp.describe : LogicOp → String
  | .and => "And"
  | .or => "Or"

/-- An operator between two expressions that are shown already. -/
def describeLogic (op lhs rhs : String) : String :=
  "Logic(" ++ describeNode "LogicExpr" [("lhs", lhs), ("rhs", rhs), ("operator", op)] ++ ")"

/-! ## Trees -/

mutual

/-- An expression with its negation and filters. -/
def Expr.describe (chance : Chance) : Expr → String
  | .mk operand negated filters =>
    describeNode "Expr" [("val", operand.describe (chance.branch 0)),
      ("negated", describeBool negated),
      ("filters", describeList (describeCalls (chance.branch 1) filters))]

/-- An operand. -/
def Operand.describe (chance : Chance) : Operand → String
  | .text s => "String(" ++ describeText s ++ ")"
  | .int n => "Int(" ++ Decimal.integerText n ++ ")"
  | .float x => "Float(" ++ Decimal.floatText .json x ++ ")"
  | .bool b => "Bool(" ++ describeBool b ++ ")"
  | .name path => "Ident(" ++ describeText path ++ ")"
  | .math op lhs rhs =>
    "Math(" ++ describeNode "MathExpr"
      [("lhs", lhs.describe (chance.branch 0)), ("rhs", rhs.describe (chance.branch 1)),
        ("operator", op.describe)] ++ ")"
  | .compare op lhs rhs =>
    describeLogic op.describe (lhs.describe (chance.branch 0)) (rhs.describe (chance.branch 1))
  | .logic op lhs rhs =>
    describeLogic op.describe (lhs.describe (chance.branch 0)) (rhs.describe (chance.branch 1))
  | .member negated item container =>
    "In(" ++ describeNode "In" [("lhs", item.describe (chance.branch 0)),
      ("rhs", container.describe (chance.branch 1)), ("negated", describeBool negated)] ++ ")"
  | .test negated path tester args =>
    "Test(" ++ describeNode "Test" [("ident", describeText path),
      ("negated", describeBool negated), ("name", describeText tester),
      ("args", describeList (describeExprs chance args))] ++ ")"
  | .call function => "FunctionCall(" ++ function.describe chance ++ ")"
  | .macroCall space name args =>
    "MacroCall(" ++ describeNode "MacroCall" [("namespace", describeText space),
      ("name", describeText name), ("args", describeMap (chance.branch 0)
        (describeArgs (chance.branch 1) args))] ++ ")"
  | .array items => "Array(" ++ describeList (describeExprs chance items) ++ ")"
  | .concat parts =>
    "StringConcat(" ++ describeNode "StringConcat"
      [("values", describeList (describeOperands chance parts))] ++ ")"

/-- A function or filter with its arguments. -/
def Call.describe (chance : Chance) : Call → String
  | .mk name args =>
    describeNode "FunctionCall" [("name", describeText name),
      ("args", describeMap (chance.branch 0) (describeArgs (chance.branch 1) args))]

/-- Several functions or filters. -/
def describeCalls (chance : Chance) : List Call → List String
  | [] => []
  | c :: rest => c.describe (chance.branch 0) :: describeCalls (chance.branch 1) rest

/-- Several expressions. -/
def describeExprs (chance : Chance) : List Expr → List String
  | [] => []
  | e :: rest => e.describe (chance.branch 0) :: describeExprs (chance.branch 1) rest

/-- Several operands. -/
def describeOperands (chance : Chance) : List Operand → List String
  | [] => []
  | o :: rest => o.describe (chance.branch 0) :: describeOperands (chance.branch 1) rest

/-- Several named arguments. -/
def describeArgs (chance : Chance) : List (String × Expr) → List String
  | [] => []
  | (n, e) :: rest =>
    (describeText n ++ ": " ++ e.describe (chance.branch 0)) :: describeArgs (chance.branch 1) rest

end

/-- The parts of a concatenation as they are written. -/
def describeConcat (parts : List Operand) : String :=
  " ~ ".intercalate (parts.map fun
    | .text s => "'" ++ s ++ "'"
    | .name path => path
    | _ => "unknown")

end Scaffold.Template
