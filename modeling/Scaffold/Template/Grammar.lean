import Scaffold.Template.Syntax
import Scaffold.Text.Reader
import Scaffold.Decimal.Read

/-!
# The grammar of expressions

One reader per kind of expression, from the loosest to the tightest binding: disjunctions and
conjunctions, membership and comparisons, sums and products, operands with their filters. White
space may stand between the parts. The readers that call back into a looser kind take it as part of
`Sub`; `sub` ties the knot and goes down one level of nesting at a time, of which there are no more
than characters.
-/

namespace Scaffold.Template

open Reader

/-! ## White space -/

/-- The white space that may stand between the parts of a tag. -/
def isSpace (c : Char) : Bool := c == ' ' || c == '\t' || c == '\r' || c == '\n'

/-- Takes white space, if there is any. -/
def spaces : Reader Unit := fun cs => some ((), cs.dropWhile isSpace)

/-- Takes white space, of which there must be some. -/
def spaces1 : Reader Unit := do
  let _ ← run1 isSpace
  pure ()

/-- Takes white space and then a given text. -/
def token (s : List Char) : Reader Unit := do
  spaces
  literal s

namespace Grammar

/-! ## Names and literals -/

/-- Characters that a name starts with. -/
def isNameStart (c : Char) : Bool := c.isAlpha || c == '_'

/-- Characters of a name. -/
def isNameChar (c : Char) : Bool := c.isAlphanum || c == '_'

/-- The characters of a name. -/
def nameChars : Reader (List Char) := do
  let c ← satisfying isNameStart
  let cs ← run isNameChar
  pure (c :: cs)

/-- A name. -/
def name : Reader String := do
  let cs ← nameChars
  pure (String.ofList cs)

/-- The digits of a whole number, with a minus sign perhaps; zero has no further digits. -/
def intChars : Reader (List Char) := taken do
  let _ ← maybe (literal ['-'])
  let d ← satisfying Char.isDigit
  if d == '0' then pure [] else run Char.isDigit

/-- A whole number that fits 64 bits. -/
def int : Reader Int := do
  let cs ← intChars
  match Decimal.integer? 10 cs with
  | some n => if -(Nat.pow 2 63) ≤ n ∧ n < Nat.pow 2 63 then pure n else failure
  | none => failure

/-- A number with a fraction. -/
def float : Reader Float := do
  let cs ← taken do
    let _ ← intChars
    literal ['.']
    run1 Char.isDigit
  match Decimal.float? cs with
  | some x => pure x
  | none => failure

/-- The backquote, one of the three quotes. -/
def backquote : Char := Char.ofNat 96

/-- A text between two quotes of a kind. -/
def between (quote : Char) : Reader (List Char) := do
  literal [quote]
  let cs ← run (· != quote)
  literal [quote]
  pure cs

/-- A quoted text; its quotes are dropped. -/
def quoted : Reader String := do
  let cs ← between '"' <|> between '\'' <|> between backquote
  pure (String.ofList cs)

/-- True or false. -/
def bool : Reader Bool :=
  (do literal "true".toList; pure true) <|> (do literal "false".toList; pure false) <|>
  (do literal "True".toList; pure true) <|> (do literal "False".toList; pure false)

/-- A point and an attribute or a number. -/
def attributePart : Reader Unit := do
  literal ['.']
  let _ ← run1 isNameChar
  pure ()

/-- The characters of a variable with its attributes and indices; an index in brackets is a whole
number, a quoted text or again a variable. -/
def pathChars : (depth : Nat) → Reader Unit
  | 0 => failure
  | depth + 1 => do
    let _ ← nameChars
    let index : Reader Unit := do
      literal ['[']
      (do let _ ← intChars; pure ()) <|> (do let _ ← quoted; pure ()) <|> pathChars depth
      literal [']']
    let _ ← many (attributePart <|> index)
    pure ()

/-- A variable with its attributes and indices, as it is written. -/
def path : Reader String := do
  let cs ← taken fun cs => pathChars cs.length cs
  pure (String.ofList cs)

/-! ## Operators -/

/-- Combines operands left to right, operators that bind tightly first. The operand read last is
`current`, and `pending` holds what stands left of it with a loosely binding operator. -/
def climbFrom {α ω : Type} (tight : ω → Bool) (combine : ω → α → α → α)
    (pending : Option (α × ω)) (current : α) : List (ω × α) → α
  | [] => match pending with
    | none => current
    | some (lhs, op) => combine op lhs current
  | (op, operand) :: rest =>
    if tight op then climbFrom tight combine pending (combine op current operand) rest
    else
      let lhs := match pending with
        | none => current
        | some (lhs, before) => combine before lhs current
      climbFrom tight combine (some (lhs, op)) operand rest

/-- A first operand, and further ones with the operators in front of them. -/
def chain {α ω : Type} (operand : Reader α) (operator : Reader ω) (tight : ω → Bool)
    (combine : ω → α → α → α) : Reader α := do
  let first ← operand
  let rest ← many do
    spaces
    let op ← operator
    spaces
    let next ← operand
    pure (op, next)
  pure (climbFrom tight combine none first rest)

/-- An arithmetic operator. -/
def mathOp : Reader MathOp :=
  (do literal ['+']; pure .add) <|> (do literal ['-']; pure .sub) <|>
  (do literal ['*']; pure .mul) <|> (do literal ['/']; pure .div) <|>
  (do literal ['%']; pure .mod)

/-- A comparison operator. -/
def compareOp : Reader CompareOp :=
  (do literal "<=".toList; pure .le) <|> (do literal ">=".toList; pure .ge) <|>
  (do literal ['>']; pure .gt) <|> (do literal ['<']; pure .lt) <|>
  (do literal "==".toList; pure .eq) <|> (do literal "!=".toList; pure .ne)

/-- A word with white space after it. -/
def word (s : String) : Reader Unit := do
  literal s.toList
  let _ ← satisfying isSpace
  pure ()

/-- An operator between truth values. -/
def logicOp : Reader LogicOp := (do word "or"; pure .or) <|> (do word "and"; pure .and)

/-- Whether a negation stands here. -/
def negation : Reader Bool := do
  let found ← maybe (word "not")
  pure found.isSome

/-! ## Calls -/

/-- The readers of the kinds of expression that may be nested in tighter ones. -/
structure Sub where
  /-- Disjunctions and conjunctions. -/
  logic : Reader Expr
  /-- One operand of those. -/
  value : Reader Expr
  /-- Sums and products. -/
  basic : Reader Operand

/-- A list in brackets. -/
def array (g : Sub) : Reader (List Expr) := do
  literal ['[']
  let items ← many do
    spaces
    let e ← g.value
    token [',']
    pure e
  spaces
  let last ← maybe g.value
  token [']']
  pure (items ++ last.toList)

/-- A named argument; `list` reads the lists with filters. -/
def argument (g : Sub) (list : Reader Expr) : Reader (String × Expr) := do
  let n ← name
  token ['=']
  spaces
  let e ← g.logic <|> list
  pure (n, e)

/-- Named arguments with commas between them. The last one of a name counts. -/
def arguments (g : Sub) (list : Reader Expr) : Reader (List (String × Expr)) := do
  let first ← argument g list
  let rest ← many do
    token [',']
    spaces
    argument g list
  let _ ← maybe (token [','])
  pure ((first :: rest).foldl (fun args (n, e) => addArg args n e) [])

/-- Arguments in parentheses. -/
def argumentList (g : Sub) (list : Reader Expr) : Reader (List (String × Expr)) := do
  token ['(']
  spaces
  let args ← maybe (arguments g list)
  token [')']
  pure (args.getD [])

/-- A function or filter with its arguments. -/
def callWith (g : Sub) (list : Reader Expr) : Reader Call := do
  let n ← name
  let args ← argumentList g list
  pure (.mk n args)

/-- A filter after its bar; the arguments may be missing. -/
def filterWith (g : Sub) (list : Reader Expr) : Reader Call := do
  token ['|']
  spaces
  callWith g list <|> (do let n ← name; pure (.mk n []))

/-- A list with filters, nested `depth` times at most. -/
def listWith (g : Sub) : (depth : Nat) → Reader Expr
  | 0 => failure
  | depth + 1 => do
    let items ← array g
    let filters ← many (filterWith g (listWith g depth))
    pure (.mk (.array items) false filters)

/-- A list with filters. -/
def list (g : Sub) : Reader Expr := fun cs => listWith g cs.length cs

/-- A function call. -/
def call (g : Sub) : Reader Call := callWith g (list g)

/-- Filters, as many as there are. -/
def filters (g : Sub) : Reader (List Call) := many (filterWith g (list g))

/-- The call of a defined macro. -/
def macroCall (g : Sub) : Reader Operand := do
  let space ← name
  token "::".toList
  spaces
  let n ← name
  let args ← argumentList g (list g)
  pure (.macroCall space n args)

/-! ## Tests -/

/-- The name of a tester and its arguments. -/
def tester (g : Sub) : Reader (String × List Expr) := do
  let n ← name
  let args ← maybe do
    token ['(']
    spaces
    let first ← g.logic <|> list g
    let rest ← many do
      token [',']
      spaces
      g.logic <|> list g
    token [')']
    pure (first :: rest)
  pure (n, args.getD [])

/-- A variable and a test it is to fail. -/
def failingTest (g : Sub) : Reader Operand := do
  let p ← path
  token "is".toList
  token "not".toList
  spaces
  let (n, args) ← tester g
  pure (.test true p n args)

/-- A variable and a test it is to pass. -/
def passingTest (g : Sub) : Reader Operand := do
  let p ← path
  token "is".toList
  spaces
  let (n, args) ← tester g
  pure (.test false p n args)

/-! ## Sums, comparisons, conditions -/

/-- An operand of arithmetic. -/
def basicValue (g : Sub) : Reader Operand :=
  (do let b ← bool; pure (.bool b)) <|> failingTest g <|> passingTest g <|> macroCall g <|>
  (do let c ← call g; pure (.call c)) <|> (do let p ← path; pure (.name p)) <|>
  (do let x ← float; pure (.float x)) <|> (do let n ← int; pure (.int n))

/-- An operand of arithmetic, or arithmetic in parentheses. -/
def basicTerm (g : Sub) : Reader Operand :=
  (do
    literal ['(']
    spaces
    let e ← g.basic
    token [')']
    pure e) <|> basicValue g

/-- Sums and products. -/
def basic (g : Sub) : Reader Operand :=
  chain (basicTerm g) mathOp MathOp.isProduct
    (fun op lhs rhs => .math op (.plain lhs) (.plain rhs))

/-- Sums and products with filters. -/
def filteredBasic (g : Sub) : Reader Expr := do
  let operand ← basic g
  let fs ← filters g
  pure (.mk operand false fs)

/-- A part of a concatenation. -/
def concatPart (g : Sub) : Reader Operand :=
  (do let c ← call g; pure (.call c)) <|> (do let x ← float; pure (.float x)) <|>
  (do let n ← int; pure (.int n)) <|> (do let s ← quoted; pure (.text s)) <|>
  (do let p ← path; pure (.name p))

/-- Joins neighbouring texts among the parts of a concatenation; a text that is left empty is
dropped. -/
def joinTexts (pending : String) : List Operand → List Operand
  | [] => if pending = "" then [] else [.text pending]
  | .text s :: rest => joinTexts (pending ++ s) rest
  | part :: rest =>
    (if pending = "" then [part] else [.text pending, part]) ++ joinTexts "" rest

/-- A concatenation, which is a text if all its parts are. -/
def concatOf (parts : List Operand) : Operand :=
  match joinTexts "" parts with
  | [] => .text ""
  | [.text s] => .text s
  | joined => .concat joined

/-- Two or more parts put together. -/
def concatenation (g : Sub) : Reader Operand := do
  let first ← concatPart g
  let rest ← many1 do
    token ['~']
    spaces
    concatPart g
  pure (concatOf (first :: rest))

/-- A text or a concatenation with filters. -/
def filteredText (g : Sub) : Reader Expr := do
  let operand ← concatenation g <|> (do let s ← quoted; pure (.text s))
  let fs ← filters g
  pure (.mk operand false fs)

/-- One side of a comparison. -/
def compared (g : Sub) : Reader Expr :=
  filteredText g <|>
  chain (filteredBasic g) mathOp MathOp.isProduct (fun op lhs rhs => .plain (.math op lhs rhs))

/-- A comparison, or just one side of it. -/
def comparison (g : Sub) : Reader Expr := do
  let lhs ← compared g
  let rest ← maybe do
    spaces
    let op ← compareOp
    spaces
    let rhs ← compared g
    pure (op, rhs)
  match rest with
  | some (op, rhs) => pure (.plain (.compare op lhs rhs))
  | none => pure lhs

/-- What something can be a member of. -/
def memberContainer (g : Sub) : Reader Expr :=
  filteredText g <|> list g <|> (do let p ← path; pure (.plain (.name p)))

/-- A membership condition. -/
def membership (g : Sub) : Reader Expr := do
  let item ← filteredText g <|> filteredBasic g
  spaces
  let negated ← negation
  token ['i', 'n']
  spaces
  let container ← memberContainer g
  pure (.plain (.member negated item container))

/-- One operand of a disjunction or conjunction. A negation in front of it counts, one inside its
parentheses does not. -/
def value (g : Sub) : Reader Expr :=
  (do
    let negated ← negation
    spaces
    let e ← membership g <|> comparison g
    pure (e.withNegation negated)) <|>
  (do
    literal ['(']
    spaces
    let e ← g.logic
    token [')']
    pure (e.withNegation false))

/-- Disjunctions and conjunctions; conjunctions bind more tightly. -/
def logic (g : Sub) : Reader Expr :=
  chain (value g) logicOp (· == .and) (fun op lhs rhs => .plain (.logic op lhs rhs))

/-- The readers for expressions nested `depth` times at most. -/
def sub : (depth : Nat) → Sub
  | 0 => ⟨failure, failure, failure⟩
  | depth + 1 => ⟨fun cs => logic (sub depth) cs, fun cs => value (sub depth) cs,
      fun cs => basic (sub depth) cs⟩

/-! ## Whole expressions -/

/-- Runs a reader that is given the readers for nested expressions. -/
def nested {α : Type} (p : Sub → Reader α) : Reader α := fun cs => p (sub cs.length) cs

/-- A condition. -/
def condition : Reader Expr := nested logic

/-- An expression whose value is printed, assigned or passed. -/
def expression : Reader Expr := nested fun g => logic g <|> list g

/-- What a loop runs over. -/
def loopContainer : Reader Expr := nested fun g => filteredBasic g <|> list g

/-- The filter of a filtered body. -/
def bodyFilter : Reader Call := nested fun g => call g <|> (do let n ← name; pure (.mk n []))

/-- The default value of a parameter. -/
def defaultValue : Reader Value :=
  (do let b ← bool; pure (.bool b)) <|> (do let s ← quoted; pure (.string s)) <|>
  (do let x ← float; pure (.ofFloat x)) <|> (do let n ← int; pure (.number (.int n)))

/-- A parameter, with its default value right behind it if it has one. -/
def parameter : Reader (String × Option Value) := do
  let n ← name
  let value ← maybe do
    literal ['=']
    defaultValue
  pure (n, value)

/-- The name of a macro and its parameters. -/
def signature : Reader (String × List (String × Option Value)) := do
  let n ← name
  token ['(']
  spaces
  let params ← maybe do
    let first ← parameter
    let rest ← many do
      token [',']
      spaces
      parameter
    pure (first :: rest)
  token [')']
  pure (n, params.getD [])

end Grammar

end Scaffold.Template
