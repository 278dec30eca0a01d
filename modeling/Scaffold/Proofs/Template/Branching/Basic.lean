import Scaffold.Proofs.Template.Plain
import Scaffold.Proofs.Template.Simple.Basic
import Scaffold.Template.Operators

/-!
# Branching templates

A branching template is made of text, printed names, perhaps with a default text, and conditions
that combine names and comparisons. `source` is how it is written, `nodes` what it is to be read as.
What it comes to is said in two steps. `pieces` is what a single pass from left to right meets, in
which a missing name is false in a condition and an empty text in a comparison; the pass gets stuck
at a comparison by size, for there a missing name is of no use. `evaluation` is the text of these
pieces and the names that were missed on the way, given the names that are filled in.
-/

namespace Scaffold.Template

open Grammar (IsVariable)

/-! ## Conditions -/

/-- How a comparison is written. -/
def CompareOp.sign : CompareOp → String
  | .lt => "<"
  | .le => "<="
  | .gt => ">"
  | .ge => ">="
  | .eq => "=="
  | .ne => "!="

/-- Whether a comparison is one by size. -/
def CompareOp.isOrder : CompareOp → Bool
  | .lt | .le | .gt | .ge => true
  | .eq | .ne => false

/-- How an operator between conditions is written. -/
def LogicOp.word : LogicOp → String
  | .and => "and"
  | .or => "or"

/-- One side of a comparison: a name, a text in quotes or a whole number. -/
inductive Side where
  | name (x : String)
  | text (quote : Char) (s : String)
  | int (digits : String)
  deriving Repr, DecidableEq

/-- A condition: names and comparisons, perhaps negated, in parentheses and with operators between
them. -/
inductive Condition where
  | name (negated : Bool) (x : String)
  | compare (negated : Bool) (op : CompareOp) (lhs rhs : Side)
  | group (inner : Condition)
  | logic (op : LogicOp) (lhs rhs : Condition)
  deriving Repr, DecidableEq

namespace Side

/-- How a side is written. -/
def source : Side → String
  | .name x => x
  | .text quote s => String.ofList (quote :: s.toList ++ [quote])
  | .int digits => digits

/-- The whole number that digits stand for. -/
def number (digits : String) : Int := (Decimal.integer? 10 digits.toList).getD 0

/-- What a side is to be read as. -/
def expr : Side → Expr
  | .name x => .plain (.name x)
  | .text _ s => .plain (.text s)
  | .int digits => .plain (.int (number digits))

/-- Whether a side is a name. -/
def isName : Side → Bool
  | .name _ => true
  | .text _ _ | .int _ => false

/-- Digits of a number without a sign: zero has no further digits. -/
def isNatural : List Char → Bool
  | [] => false
  | d :: ds => if d = '0' then ds.isEmpty else d.isDigit && ds.all Char.isDigit

/-- Digits with a minus sign perhaps, of a number that fits 64 bits. -/
def IsInteger (digits : String) : Prop :=
  (∃ ds, isNatural ds = true ∧ (digits.toList = ds ∨ digits.toList = '-' :: ds)) ∧
    ∃ n, Decimal.integer? 10 digits.toList = some n ∧ -(Nat.pow 2 63) ≤ n ∧ n < Nat.pow 2 63

instance (digits : String) : Decidable (IsInteger digits) :=
  decidable_of_iff
    ((isNatural digits.toList = true ∨
        digits.toList.head? = some '-' ∧ isNatural digits.toList.tail = true) ∧
      ∃ n ∈ Decimal.integer? 10 digits.toList, -(Nat.pow 2 63) ≤ n ∧ n < Nat.pow 2 63) (by
    have hsign : (isNatural digits.toList = true ∨
        digits.toList.head? = some '-' ∧ isNatural digits.toList.tail = true) ↔
        ∃ ds, isNatural ds = true ∧ (digits.toList = ds ∨ digits.toList = '-' :: ds) := by
      constructor
      · rintro (h | ⟨hhead, htail⟩)
        · exact ⟨_, h, .inl rfl⟩
        · obtain ⟨ds, hds⟩ := List.head?_eq_some_iff.1 hhead
          rw [hds] at htail ⊢
          exact ⟨ds, htail, .inr rfl⟩
      · rintro ⟨ds, h, heq | heq⟩
        · exact .inl (heq ▸ h)
        · rw [heq]
          exact .inr ⟨rfl, h⟩
    rw [hsign]
    rfl)

/-- A side can be read: its name is a name, its text does not hold its quote, its number is one. -/
def Readable : Side → Prop
  | .name x => IsVariable x
  | .text quote s => quote ∈ ['"', '\'', Grammar.backquote] ∧ quote ∉ s.toList
  | .int digits => IsInteger digits

instance : (side : Side) → Decidable side.Readable
  | .name x => inferInstanceAs (Decidable (IsVariable x))
  | .text _ _ => inferInstanceAs (Decidable (_ ∧ _))
  | .int digits => inferInstanceAs (Decidable (IsInteger digits))

/-- The names in a side. -/
def names : Side → List String
  | .name x => [x]
  | .text _ _ | .int _ => []

/-- The value of a side; a missing name is an empty text. -/
def value (data : Fields) : Side → Value
  | .name x => ((data.get? x).map Field.toValue).getD (.string "")
  | .text _ s => .string s
  | .int digits => .number (.int (number digits))

/-- The names that are missed for the value of a side. -/
def missing (data : Fields) (side : Side) : List String :=
  side.names.filter fun x => (data.get? x).isNone

end Side

/-- What a condition comes to: whether it holds, and the names that are missed on the way. -/
structure Verdict where
  holds : Bool
  missing : List String
  deriving Repr, DecidableEq

namespace Condition

/-- The word for negations, if there is one. -/
def negation (negated : Bool) : String := if negated then "not " else ""

/-- How a condition is written. -/
def source : Condition → String
  | .name negated x => negation negated ++ x
  | .compare negated op lhs rhs =>
    negation negated ++ lhs.source ++ " " ++ op.sign ++ " " ++ rhs.source
  | .group inner => "(" ++ source inner ++ ")"
  | .logic op lhs rhs => source lhs ++ " " ++ op.word ++ " " ++ source rhs

/-- What a condition is to be read as. -/
def expr : Condition → Expr
  | .name negated x => .mk (.name x) negated []
  | .compare negated op lhs rhs => .mk (.compare op lhs.expr rhs.expr) negated []
  | .group inner => expr inner
  | .logic op lhs rhs => .plain (.logic op (expr lhs) (expr rhs))

/-- The operator that a condition consists of. -/
def operator? : Condition → Option LogicOp
  | .logic op _ _ => some op
  | .name _ _ | .compare _ _ _ _ | .group _ => none

/-- The condition that a condition begins with. -/
def first : Condition → Condition
  | .logic _ lhs _ => first lhs
  | c => c

/-- Whether a condition can stand first in parentheses. Behind a negation that stands there a word
that begins a test would begin one, and a minus sign would be the sign of a difference. -/
def opensGroup : Condition → Bool
  | .name negated x => !negated || (x != "is" && x != "isnot")
  | .compare negated _ (.int digits) _ => !negated || digits.toList.head? != some '-'
  | .compare _ _ (.name _) _ | .compare _ _ (.text _ _) _ | .group _ | .logic _ _ _ => true

/-- The operands behind the first one, each with the operator in front of it. -/
def others : Condition → List (LogicOp × Condition)
  | .logic op lhs rhs => others lhs ++ (op, rhs.first) :: others rhs
  | .name _ _ | .compare _ _ _ _ | .group _ => []

/-- Whether two conditions keep together on the sides of an operator without parentheses:
conjunctions bind more tightly than disjunctions, and equal operators go from left to right. -/
def Binds : LogicOp → Condition → Condition → Prop
  | .and, lhs, rhs => lhs.operator? ≠ some .or ∧ rhs.operator? = none
  | .or, _, rhs => rhs.operator? ≠ some .or

instance : (op : LogicOp) → (lhs rhs : Condition) → Decidable (Binds op lhs rhs)
  | .and, _, _ => inferInstanceAs (Decidable (_ ∧ _))
  | .or, _, _ => inferInstanceAs (Decidable (_ ≠ _))

/-- A condition can be read. Each comparison has a name on one of its sides, and parentheses stand
around conditions with an operator. -/
def Readable : Condition → Prop
  | .name _ x => IsVariable x
  | .compare _ _ lhs rhs =>
    lhs.Readable ∧ rhs.Readable ∧ (lhs.isName = true ∨ rhs.isName = true)
  | .group inner =>
    inner.operator? ≠ none ∧ inner.first.opensGroup = true ∧ inner.Readable
  | .logic op lhs rhs => Binds op lhs rhs ∧ lhs.Readable ∧ rhs.Readable

/-- Whether a condition can be read is decided along its parts. -/
def decideReadable : (c : Condition) → Decidable c.Readable
  | .name _ x => inferInstanceAs (Decidable (IsVariable x))
  | .compare _ _ _ _ => inferInstanceAs (Decidable (_ ∧ _ ∧ _))
  | .group inner =>
    have : Decidable inner.Readable := decideReadable inner
    inferInstanceAs (Decidable (_ ∧ _ ∧ _))
  | .logic _ lhs rhs =>
    have : Decidable lhs.Readable := decideReadable lhs
    have : Decidable rhs.Readable := decideReadable rhs
    inferInstanceAs (Decidable (_ ∧ _ ∧ _))

instance (c : Condition) : Decidable c.Readable := decideReadable c

/-- No comparison in a condition is one by size. -/
def OrderFree : Condition → Prop
  | .name _ _ => True
  | .compare _ op _ _ => op.isOrder = false
  | .group inner => inner.OrderFree
  | .logic _ lhs rhs => lhs.OrderFree ∧ rhs.OrderFree

/-- The names in a condition. -/
def names : Condition → List String
  | .name _ x => [x]
  | .compare _ _ lhs rhs => lhs.names ++ rhs.names
  | .group inner => names inner
  | .logic _ lhs rhs => names lhs ++ names rhs

/-- Whether a comparison of two values holds. A number and anything else are neither equal nor
different, which a negation does not change. -/
def comparisonHolds (negated : Bool) (op : CompareOp) (l r : Value) : Bool :=
  match compareValues (op == .ne) l r with
  | some b => b != negated
  | none => false

/-- Judges a condition, from left to right and no further than needed. A missing name is false by
itself and an empty text in a comparison, where it is missed. There is no verdict if a comparison by
size is reached. -/
def judge (data : Fields) : Condition → Option Verdict
  | .name negated x =>
    some ⟨(data.get? x).any (·.toValue.truthy) != negated, []⟩
  | .compare negated op lhs rhs =>
    if op.isOrder then none
    else
      some ⟨comparisonHolds negated op (lhs.value data) (rhs.value data),
        lhs.missing data ++ rhs.missing data⟩
  | .group inner => judge data inner
  | .logic op lhs rhs => do
    let l ← judge data lhs
    match op, l.holds with
    | .or, true => some l
    | .and, false => some l
    | _, _ => (judge data rhs).map fun r => ⟨r.holds, l.missing ++ r.missing⟩

end Condition

/-! ## Templates -/

/-- A branching template: a text, a tag with its bodies, and the rest of the template behind it. -/
inductive Branching where
  | done (last : String)
  | print (before x : String) (fallback : Option String) (rest : Branching)
  /-- A condition with something for when it does not hold. -/
  | cond (before : String) (c : Condition) (yes no rest : Branching)
  | when (before : String) (c : Condition) (body rest : Branching)
  deriving Repr, DecidableEq

/-- What a pass over a template meets: a text, a name that is missed, or a name that is missing and
has a default text. -/
inductive Piece where
  | shown (s : String)
  | missed (x : String)
  | supplied (x value : String)
  deriving Repr, DecidableEq

namespace Branching

/-- How a printed name is written. -/
def printed (x : String) : Option String → String
  | none => x
  | some value => x ++ " | default(value=\"" ++ value ++ "\")"

/-- How a template is written. -/
def source : Branching → String
  | .done last => last
  | .print before x fallback rest =>
    before ++ "\x7b\x7b " ++ printed x fallback ++ " \x7d\x7d" ++ source rest
  | .cond before c yes no rest =>
    before ++ Simple.tag ("if " ++ c.source) ++ source yes ++ Simple.tag "else" ++ source no ++
      Simple.tag "endif" ++ source rest
  | .when before c body rest =>
    before ++ Simple.tag ("if " ++ c.source) ++ source body ++ Simple.tag "endif" ++ source rest

/-- A text can be read in front of what stands `after` it: no tag starts in it, be it with what
stands behind. -/
def IsText (s : String) (after : List Char) : Prop := Tags.holdsTag (s.toList ++ after) = false

instance (s : String) (after : List Char) : Decidable (IsText s after) :=
  inferInstanceAs (Decidable (_ = _))

/-- A template can be read in front of what stands `after` it, a tag or nothing. -/
def Readable (after : List Char) : Branching → Prop
  | .done last => IsText last after
  | .print before x fallback rest =>
    IsText before ['{'] ∧ IsVariable x ∧ (∀ value ∈ fallback, '"' ∉ value.toList) ∧
      rest.Readable after
  | .cond before c yes no rest =>
    IsText before ['{'] ∧ c.Readable ∧ yes.Readable ['{'] ∧ no.Readable ['{'] ∧
      rest.Readable after
  | .when before c body rest =>
    IsText before ['{'] ∧ c.Readable ∧ body.Readable ['{'] ∧ rest.Readable after

/-- Whether a template can be read is decided along its parts. -/
def decideReadable (after : List Char) : (t : Branching) → Decidable (t.Readable after)
  | .done last => inferInstanceAs (Decidable (IsText last after))
  | .print _ _ _ rest =>
    have : Decidable (rest.Readable after) := decideReadable after rest
    inferInstanceAs (Decidable (_ ∧ _ ∧ _ ∧ _))
  | .cond _ _ yes no rest =>
    have : Decidable (yes.Readable ['{']) := decideReadable ['{'] yes
    have : Decidable (no.Readable ['{']) := decideReadable ['{'] no
    have : Decidable (rest.Readable after) := decideReadable after rest
    inferInstanceAs (Decidable (_ ∧ _ ∧ _ ∧ _ ∧ _))
  | .when _ _ body rest =>
    have : Decidable (body.Readable ['{']) := decideReadable ['{'] body
    have : Decidable (rest.Readable after) := decideReadable after rest
    inferInstanceAs (Decidable (_ ∧ _ ∧ _ ∧ _))

instance (after : List Char) (t : Branching) : Decidable (t.Readable after) :=
  decideReadable after t

/-- No comparison in a template is one by size. -/
def OrderFree : Branching → Prop
  | .done _ => True
  | .print _ _ _ rest => rest.OrderFree
  | .cond _ c yes no rest => c.OrderFree ∧ yes.OrderFree ∧ no.OrderFree ∧ rest.OrderFree
  | .when _ c body rest => c.OrderFree ∧ body.OrderFree ∧ rest.OrderFree

/-- The names in a template. -/
def names : Branching → List String
  | .done _ => []
  | .print _ x _ rest => x :: names rest
  | .cond _ c yes no rest => c.names ++ names yes ++ names no ++ names rest
  | .when _ c body rest => c.names ++ names body ++ names rest

/-- The filters of a printed name. -/
def filters : Option String → List Call
  | none => []
  | some value => [.mk "default" [("value", .plain (.text value))]]

/-- The nodes of a template. -/
def nodes : Branching → List Node
  | .done last => textNodes last
  | .print before x fallback rest =>
    textNodes before ++ .print Simple.edges (.mk (.name x) false (filters fallback)) :: nodes rest
  | .cond before c yes no rest =>
    textNodes before ++ .cond [.mk Simple.edges c.expr (nodes yes)]
      (some (.mk Simple.edges (nodes no))) Simple.edges :: nodes rest
  | .when before c body rest =>
    textNodes before ++ .cond [.mk Simple.edges c.expr (nodes body)] none Simple.edges ::
      nodes rest

/-- What a pass meets where a name is printed. -/
def printedPiece (data : Fields) (x : String) (fallback : Option String) : Piece :=
  match data.get? x, fallback with
  | some field, _ => .shown field.toValue.text
  | none, none => .missed x
  | none, some value => .supplied x value

/-- What a pass meets in a condition, and then in the body that it decides for. -/
def chosenPieces (verdict : Option Verdict) (body : Bool → Option (List Piece)) :
    Option (List Piece) := do
  let v ← verdict
  let inner ← body v.holds
  some (v.missing.map .missed ++ inner)

/-- What a single pass from left to right meets, unless it gets stuck. -/
def pieces (data : Fields) : Branching → Option (List Piece)
  | .done last => some [.shown last]
  | .print before x fallback rest => do
    let others ← pieces data rest
    some (.shown before :: printedPiece data x fallback :: others)
  | .cond before c yes no rest => do
    let chosen ← chosenPieces (c.judge data) fun holds =>
      if holds then pieces data yes else pieces data no
    let others ← pieces data rest
    some (.shown before :: (chosen ++ others))
  | .when before c body rest => do
    let chosen ← chosenPieces (c.judge data) fun holds =>
      if holds then pieces data body else some []
    let others ← pieces data rest
    some (.shown before :: (chosen ++ others))

end Branching

/-! ## Evaluation -/

/-- What a piece comes to. A default text steps in unless the missing name is filled in. -/
def Piece.evaluation (filled : List String) : Piece → Evaluation
  | .shown s => ⟨s, []⟩
  | .missed x => ⟨"", [x]⟩
  | .supplied x value => ⟨if x ∈ filled then "" else value, []⟩

namespace Evaluation

/-- What pieces come to in a row. -/
def ofPieces (filled : List String) (ps : List Piece) : Evaluation :=
  inTurn (ps.map (Piece.evaluation filled))

theorem andThen_assoc (a b c : Evaluation) :
    (a.andThen b).andThen c = a.andThen (b.andThen c) := by
  simp [andThen, String.append_assoc]

theorem ofPieces_cons (filled : List String) (p : Piece) (ps : List Piece) :
    ofPieces filled (p :: ps) = (p.evaluation filled).andThen (ofPieces filled ps) := rfl

theorem ofPieces_append (filled : List String) (ps qs : List Piece) :
    ofPieces filled (ps ++ qs) = (ofPieces filled ps).andThen (ofPieces filled qs) := by
  induction ps with
  | nil => exact (nothing_andThen _).symm
  | cons p ps ih => rw [List.cons_append, ofPieces_cons, ofPieces_cons, ih, andThen_assoc]

theorem ofPieces_singleton (filled : List String) (p : Piece) :
    ofPieces filled [p] = p.evaluation filled := by
  show (p.evaluation filled).andThen nothing = _
  simp [andThen, nothing]

/-- Names that are missed have no text. -/
theorem ofPieces_map_missed (filled xs : List String) :
    ofPieces filled (xs.map .missed) = ⟨"", xs⟩ := by
  induction xs with
  | nil => rfl
  | cons x xs ih =>
    rw [List.map_cons, ofPieces_cons, ih]
    rfl

/-- What pieces come to depends on which names are filled in, not on their order. -/
theorem ofPieces_congr {filled others : List String} (h : ∀ x, x ∈ filled ↔ x ∈ others)
    (ps : List Piece) : ofPieces filled ps = ofPieces others ps := by
  induction ps with
  | nil => rfl
  | cons p ps ih =>
    rw [ofPieces_cons, ofPieces_cons, ih]
    cases p with
    | shown s => rfl
    | missed x => rfl
    | supplied x value =>
      dsimp only [Piece.evaluation]
      simp only [h x]

end Evaluation

/-- The name that a piece misses. -/
def Piece.missing : Piece → List String
  | .missed x => [x]
  | .shown _ | .supplied _ _ => []

/-- The names that pieces miss, in order. -/
def missingOf (ps : List Piece) : List String := ps.flatMap Piece.missing

/-- Which names are missed does not depend on those that are filled in. -/
theorem missing_ofPieces (filled : List String) (ps : List Piece) :
    (Evaluation.ofPieces filled ps).missing = missingOf ps := by
  induction ps with
  | nil => rfl
  | cons p ps ih =>
    rw [Evaluation.ofPieces_cons, Evaluation.andThen, missingOf, List.flatMap_cons]
    dsimp only
    rw [ih]
    cases p with
    | shown s => rfl
    | missed x => rfl
    | supplied x value => rfl

theorem missingOf_append (ps qs : List Piece) :
    missingOf (ps ++ qs) = missingOf ps ++ missingOf qs := by
  rw [missingOf, List.flatMap_append]
  rfl

/-- Pieces of names that a condition misses. -/
theorem missingOf_map_missed (xs : List String) : missingOf (xs.map .missed) = xs := by
  induction xs with
  | nil => rfl
  | cons x xs ih =>
    rw [List.map_cons, missingOf, List.flatMap_cons]
    exact congrArg (x :: ·) ih

end Scaffold.Template
