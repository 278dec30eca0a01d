import Scaffold.Proofs.Template.Branching.Group

/-!
# Reading conditions

The operands of a condition are taken off its source one after the other and put together by how
tightly their operators bind. The key notions are `further`, the reader of an operator with its
operand, and `climb`, how operands are put together. Main facts:

* `climb_condition` : operands are put together to the condition that they come from;
* `operands_source` : the operands of a condition are taken one after the other;
* `logic_source` : a condition is read as what it is.
-/

namespace Scaffold.Template.Grammar

open Reader

variable {x : String} {marks tail : List Char} (g : Sub)

/-! ## Operators between conditions -/

/-- An operator with an operand behind it. -/
def further : Reader (LogicOp × Expr) := do
  spaces
  let op ← logicOp
  spaces
  let next ← value g
  pure (op, next)

theorem startsBare_word (op : LogicOp) : StartsBare op.word.toList := by
  cases op <;> exact ⟨_, _, rfl, rfl⟩

theorem logicOp_word (op : LogicOp) (rest : List Char) :
    logicOp (op.word.toList ++ ' ' :: rest) = some (op, rest) := by
  cases op <;> rfl

theorem follower_word (op : LogicOp) (rest : List Char) :
    Follower itemMarks (' ' :: (op.word.toList ++ ' ' :: rest)) := by
  cases op <;> exact .mark (by decide) _

/-- An operator is taken with the operand behind it. -/
theorem further_word (op : LogicOp) {cs rest : List Char} {e : Expr} (hcs : StartsBare cs)
    (hvalue : value g cs = some (e, rest)) :
    further g (' ' :: (op.word.toList ++ ' ' :: cs)) = some ((op, e), rest) := by
  have hspaces : spaces cs = some ((), cs) := spaces_bare hcs
  rw [further, bind_of_some (spaces_blank ((startsBare_word op).append _)),
    bind_of_some (logicOp_word op cs), bind_of_some hspaces, bind_of_some hvalue, pure_apply]

/-- Nothing further stands behind a condition. -/
theorem further_follower (htail : Follower conditionMarks tail) : further g tail = none := by
  obtain ⟨rest, hspaces, hoperator⟩ := exists_spaces_logicOp htail
  rw [further, bind_of_some hspaces]
  exact bind_of_none hoperator

/-- The operands behind the first one as they are read. -/
def othersOf (c : Condition) : List (LogicOp × Expr) :=
  c.others.map fun (op, operand) => (op, operand.expr)

theorem othersOf_logic (op : LogicOp) (lhs rhs : Condition) :
    othersOf (.logic op lhs rhs) = othersOf lhs ++ (op, rhs.first.expr) :: othersOf rhs := by
  simp [othersOf, Condition.others]

/-- Puts operands together as the reader of conditions does. -/
def climb (pending : Option (Expr × LogicOp)) (current : Expr) (more : List (LogicOp × Expr)) :
    Expr :=
  climbFrom (· == .and) (fun op lhs rhs => .plain (.logic op lhs rhs)) pending current more

/-- A condition whose operator is no disjunction is put together before what is pending. -/
theorem climb_conjunction {c : Condition} (hc : c.Readable) (hor : c.operator? ≠ some .or)
    (pending : Option (Expr × LogicOp)) (more : List (LogicOp × Expr)) :
    climb pending c.first.expr (othersOf c ++ more) = climb pending c.expr more := by
  induction c generalizing more with
  | name | compare | group => rfl
  | logic op lhs rhs ihl _ =>
    cases op with
    | or => exact absurd rfl hor
    | and =>
      obtain ⟨⟨hlor, hrnone⟩, hl, -⟩ := hc
      -- the operand on the right has no operator of its own
      have hrhs : rhs.first = rhs ∧ othersOf rhs = [] := by
        cases rhs with
        | name | compare | group => exact ⟨rfl, rfl⟩
        | logic => cases hrnone
      rw [othersOf_logic, hrhs.1, hrhs.2, List.append_assoc, List.singleton_append,
        Condition.first, ihl hl hlor ((.and, rhs.expr) :: more)]
      rfl

/-- **Operands are put together to the condition**, if a disjunction or nothing stands behind. -/
theorem climb_condition {c : Condition} (hc : c.Readable) {more : List (LogicOp × Expr)}
    (hmore : ∀ p ∈ more.head?, p.1 = .or) :
    climb none c.first.expr (othersOf c ++ more) = climb none c.expr more := by
  induction c generalizing more with
  | name | compare | group => rfl
  | logic op lhs rhs ihl _ =>
    cases op with
    | and => exact climb_conjunction hc (by simp [Condition.operator?]) none more
    | or =>
      obtain ⟨hror, hl, hr⟩ := hc
      have hleft : climb none lhs.first.expr (othersOf lhs ++ (.or, rhs.first.expr) ::
          (othersOf rhs ++ more)) = climb none lhs.expr ((.or, rhs.first.expr) ::
          (othersOf rhs ++ more)) := ihl hl (by simp)
      rw [othersOf_logic, List.append_assoc, List.cons_append, Condition.first, hleft]
      show climb (some (lhs.expr, .or)) rhs.first.expr (othersOf rhs ++ more) = _
      rw [climb_conjunction hr hror]
      -- what is pending is put together at the end, or in front of the next disjunction
      cases more with
      | nil => rfl
      | cons p more =>
        obtain ⟨op, e⟩ := p
        obtain rfl : op = .or := hmore (op, e) rfl
        rfl

/-- A condition is read if its operands are taken one after the other. -/
theorem logic_of_operands {c : Condition} (hc : c.Readable) {cs mid : List Char}
    (htail : Follower conditionMarks tail) (hfirst : value g cs = some (c.first.expr, mid))
    (hothers : ∀ more out, Chain (further g) tail more out →
      Chain (further g) mid (othersOf c ++ more) out) :
    logic g cs = some (c.expr, tail) := by
  have hmany : many (further g) mid = some (othersOf c, tail) := by
    have hchain := hothers [] tail (.stop (further_follower g htail))
    rw [List.append_nil] at hchain
    exact many_of_chain hchain
  have hclimb : climb none c.first.expr (othersOf c) = c.expr := by
    have hend : climb none c.first.expr (othersOf c ++ []) = climb none c.expr [] :=
      climb_condition hc (by simp)
    rw [List.append_nil] at hend
    exact hend
  rw [logic, chain, bind_of_some hfirst]
  show (many (further g) >>= fun rest => pure (climb none c.first.expr rest)) mid = _
  rw [bind_of_some hmany, hclimb, pure_apply]

theorem length_source_group (inner : Condition) :
    (Condition.group inner).source.length = inner.source.length + 2 := by
  have hopen : "(".length = 1 := rfl
  have hclose : ")".length = 1 := rfl
  rw [Condition.source, String.length_append, String.length_append]
  omega

theorem length_source_logic (op : LogicOp) (lhs rhs : Condition) :
    (Condition.logic op lhs rhs).source.length =
      lhs.source.length + op.word.toList.length + rhs.source.length + 2 := by
  have hblank : " ".length = 1 := rfl
  simp only [Condition.source, String.length_append, String.length_toList]
  omega

/-- **The operands of a condition are taken one after the other**: the first one leads to a place
from where the others are taken, and then what stands behind the condition. -/
theorem operands_source {c : Condition} (hc : c.Readable) {depth : Nat}
    (hdepth : c.source.length ≤ depth) (htail : Follower itemMarks tail) :
    ∃ mid, value (sub depth) (c.source.toList ++ tail) = some (c.first.expr, mid) ∧
      mid.length ≤ c.source.length + tail.length ∧
      ∀ more out, Chain (further (sub depth)) tail more out →
        Chain (further (sub depth)) mid (othersOf c ++ more) out := by
  induction c generalizing depth tail with
  | name negated x =>
    exact ⟨tail, value_name_negated _ negated hc htail, by omega, fun _ _ h => h⟩
  | compare negated op lhs rhs =>
    exact ⟨tail, value_compare _ negated op hc.1 hc.2.1 htail, by omega, fun _ _ h => h⟩
  | group inner ih =>
    have hlength := length_source_group inner
    obtain ⟨d, rfl⟩ : ∃ d, depth = d + 1 := Nat.exists_eq_succ_of_ne_zero (by omega)
    have hend : Follower conditionMarks (')' :: tail) := .paren tail
    have hinner : inner.source.length ≤ d := by omega
    obtain ⟨mid, hfirst, -, hothers⟩ := ih hc.2.2 hinner (hend.mono (by decide))
    have hlogic := logic_of_operands (sub d) hc.2.2 hend hfirst hothers
    exact ⟨tail, value_group hc hlogic, by omega, fun _ _ h => h⟩
  | logic op lhs rhs ihl ihr =>
    obtain ⟨-, hl, hr⟩ := hc
    have hlength := length_source_logic op lhs rhs
    have hlhs : lhs.source.length ≤ depth := by omega
    have hrhs : rhs.source.length ≤ depth := by omega
    -- the operator ends the left condition, and what the right one begins with is its next operand
    obtain ⟨right, hright, hshort, hrest⟩ := ihr hr hrhs htail
    obtain ⟨mid, hfirst, hle, hothers⟩ :=
      ihl hl hlhs (follower_word op (rhs.source.toList ++ tail))
    have hnext := further_word (sub depth) op (startsBare_source hr tail) hright
    rw [source_logic]
    have hlist : rhs.source.toList.length = rhs.source.length := String.length_toList
    simp only [List.length_append, List.length_cons] at hle
    refine ⟨mid, hfirst, by omega, fun more out hmore => ?_⟩
    rw [othersOf_logic, List.append_assoc]
    refine hothers _ out (.step hnext ?_ (hrest more out hmore))
    simp only [List.length_append, List.length_cons]
    omega

/-- **A condition is read as what it is**, in front of the end of a tag or of a parenthesis. -/
theorem logic_source {c : Condition} (hc : c.Readable) {depth : Nat}
    (hdepth : c.source.length ≤ depth) (htail : Follower conditionMarks tail) :
    logic (sub depth) (c.source.toList ++ tail) = some (c.expr, tail) := by
  obtain ⟨mid, hfirst, -, hothers⟩ := operands_source hc hdepth (htail.mono (by decide))
  exact logic_of_operands (sub depth) hc htail hfirst hothers

/-- A condition is read where one stands in a tag. -/
theorem condition_source {c : Condition} (hc : c.Readable) (rest : List Char) :
    condition (c.source.toList ++ ' ' :: '%' :: '}' :: rest) =
      some (c.expr, ' ' :: '%' :: '}' :: rest) := by
  refine logic_source hc ?_ (.tag rest)
  rw [List.length_append, String.length_toList]
  omega

end Scaffold.Template.Grammar
