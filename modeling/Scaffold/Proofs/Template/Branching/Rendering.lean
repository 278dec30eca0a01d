import Scaffold.Proofs.Template.Branching.Reading
import Scaffold.Proofs.Template.Simple.Rendering

/-!
# Rendering branching templates

The page of a branching template renders to the text of the pieces that a pass over it meets, stops
at the first name that is missed and not filled in, and fails where the pass gets stuck. The key
notions are `answer`, the outcome of an evaluation that needs some names, `Judges`, how the verdict
on a condition shows as such an outcome, and `Meets`, how the pieces of a pass show as the result of
a rendering. Main facts:

* `exists_error_compareTruth` : a comparison by size fails, whatever is filled in;
* `truth_condition` : a condition is evaluated as it is judged;
* `renderNode_printed` : what a printed name comes to, perhaps by its default text;
* `meets_nodes` : the nodes of a template render to what a pass over it meets;
* `render_pieces`, `exists_error_render` : so does its page.
-/

namespace Scaffold.Template

open Grammar (IsVariable)

variable {env : Env} {chance : Chance} {data : Fields} {filled : List String} {page x : String}

/-! ## Answers -/

/-- An answer that needs some names: it is there if all those that are missed are filled in. -/
def answer {α : Type} (page : String) (filled missing : List String) (a : α) : Result α :=
  match missing.find? (· ∉ filled) with
  | none => .ok a
  | some x => .error ⟨[.unresolved (.name x page)], none⟩

theorem outcome_eq_answer (frames : List Frame) (e : Evaluation) :
    outcome page filled frames e = answer page filled e.missing ⟨e.text, frames, .normal⟩ := rfl

/-- One answer after the other needs the names of both. -/
theorem answer_bind {α β : Type} (missing others : List String) (a : α) {f : α → Result β} {b : β}
    (hf : f a = answer page filled others b) :
    (answer page filled missing a >>= f) = answer page filled (missing ++ others) b := by
  unfold answer
  rw [List.find?_append]
  cases missing.find? (· ∉ filled) with
  | some x => rfl
  | none =>
    rw [Option.none_or]
    exact hf

/-- What goes on without names needs no more of them. -/
theorem answer_bind_ok {α β : Type} (missing : List String) (a : α) {f : α → Result β} {b : β}
    (hf : f a = .ok b) : (answer page filled missing a >>= f) = answer page filled missing b := by
  have hbind : (answer page filled missing a >>= f) = answer page filled (missing ++ []) b :=
    answer_bind missing [] a hf
  rw [List.append_nil] at hbind
  exact hbind

/-- Whatever an answer needs, what fails behind it makes it fail. -/
theorem exists_error_of_answer {α β : Type} (missing : List String) (a : α) {f : α → Result β}
    (hf : ∃ fault, f a = .error fault) :
    ∃ fault, (answer page filled missing a >>= f) = .error fault := by
  unfold answer
  cases missing.find? (· ∉ filled) with
  | some x => exact ⟨_, rfl⟩
  | none => exact hf

theorem exists_error_bind {α β : Type} {r : Result α} (h : ∃ fault, r = .error fault)
    (f : α → Result β) : ∃ fault, (r >>= f) = .error fault := by
  obtain ⟨fault, rfl⟩ := h
  exact ⟨fault, rfl⟩

/-! ## Names -/

/-- The value of a name at the top of a page. -/
theorem value_of_fillsAt (hcontext : FillsAt data filled env.context x) (hx : IsVariable x) :
    (env.scope pageFrames).value x =
      answer env.page.name filled ((Side.name x).missing data) ((Side.name x).value data) := by
  have hvalue : (env.scope pageFrames).value x = _ := value_of_fills .page hcontext hx
  have hlookup : Simple.lookup data [] x = data.get? x := rfl
  rw [hvalue, hlookup, Side.missing, Side.value, Side.names, List.filter_cons]
  cases data.get? x with
  | some field => rfl
  | none =>
    unfold answer
    by_cases hfilled : x ∈ filled
    · simp [hfilled]
    · simp [hfilled]

/-- A name counts as true if it has a value that does, or the other way around. -/
theorem truth_name_negated (hcontext : FillsAt data filled env.context x) (hx : IsVariable x)
    (negated : Bool) :
    (Expr.mk (.name x) negated []).truth env chance pageFrames =
      .ok ((data.get? x).any (·.toValue.truthy) != negated) := by
  have hresolve : (env.scope pageFrames).resolve x = _ := resolve_of_fills .page hcontext hx
  have hlookup : Simple.lookup data [] x = data.get? x := rfl
  rw [hlookup] at hresolve
  cases hfield : data.get? x with
  | some field =>
    rw [hfield] at hresolve
    rw [truth_name_of_ok hresolve (toValue_ne_null field)]
    rfl
  | none =>
    rw [hfield] at hresolve
    dsimp only at hresolve
    by_cases hfilled : x ∈ filled
    · rw [if_pos hfilled] at hresolve
      rw [truth_name_of_ok hresolve (fun h => by cases h)]
      rfl
    · rw [if_neg hfilled] at hresolve
      have hfallback : fallbackOf env (chance.branch 0) pageFrames [] = none := by rw [fallbackOf]
      rw [Expr.truth, nameValue, hresolve, hfallback]
      cases negated with
      | false => rfl
      | true => rfl

/-! ## Comparisons -/

/-- No field is a number. -/
theorem toValue_ne_number (field : Field) (n : Number) : field.toValue ≠ .number n := by
  cases field with
  | text s => simp [Field.toValue]
  | flag b => simp [Field.toValue]
  | list items => simp [Field.toValue]
  | nested entries => simp [Field.toValue, Value.ofEntries]

/-- So is no name, missing or not. -/
theorem value_name_ne_number (x : String) (n : Number) :
    (Side.name x).value data ≠ .number n := by
  rw [Side.value]
  cases data.get? x with
  | some field => exact toValue_ne_number field n
  | none =>
    intro h
    cases h

/-- What a side of a comparison is evaluated to. -/
theorem eval_side (chance : Chance) {side : Side} (hside : side.Readable)
    (hcontext : ∀ x ∈ side.names, FillsAt data filled env.context x) :
    side.expr.eval env chance pageFrames =
      answer env.page.name filled (side.missing data) (side.value data) := by
  cases side with
  | name x =>
    have hx : FillsAt data filled env.context x := hcontext x (List.mem_singleton_self x)
    rw [Side.expr, eval_name, value_of_fillsAt hx hside]
  | text quote s =>
    rw [Side.expr, eval_plain (fun _ h => by cases h), Operand.eval]
    rfl
  | int digits =>
    rw [Side.expr, eval_plain (fun _ h => by cases h), Operand.eval]
    rfl

/-- A name and a text are no numbers. -/
theorem number_side (chance : Chance) {side : Side} (hside : side.Readable)
    (hcontext : ∀ x ∈ side.names, FillsAt data filled env.context x) :
    (side.isName = false ∧ ∃ n, side.expr.number env chance pageFrames = .ok n) ∨
      ∃ fault, side.expr.number env chance pageFrames = .error fault := by
  cases side with
  | name x =>
    right
    have hx : FillsAt data filled env.context x := hcontext x (List.mem_singleton_self x)
    rw [Side.expr, Expr.plain, Expr.number, Operand.number, value_of_fillsAt hx hside,
      numberResult]
    refine exists_error_of_answer _ _ ?_
    split
    · rename_i n hn
      exact absurd hn (value_name_ne_number x n)
    · exact ⟨_, rfl⟩
  | text quote s =>
    right
    rw [Side.expr, Expr.plain, Expr.number, Operand.number]
    exact ⟨_, rfl⟩
  | int digits =>
    left
    rw [Side.expr, Expr.plain, Expr.number, Operand.number]
    exact ⟨rfl, _, rfl⟩

/-- **A comparison by size** with a name fails, whatever is filled in. -/
theorem exists_error_compareTruth {lhs rhs : Side} (hl : lhs.Readable) (hr : rhs.Readable)
    (hname : lhs.isName = true ∨ rhs.isName = true)
    (hcontext : ∀ x ∈ lhs.names ++ rhs.names, FillsAt data filled env.context x)
    (negated : Bool) {op : CompareOp} (hop : op.isOrder = true) (first second : Chance) :
    ∃ fault, compareTruth (env.scope pageFrames) negated op
      (fun _ => lhs.expr.eval env first pageFrames) (fun _ => rhs.expr.eval env second pageFrames)
      (fun _ => lhs.expr.number env first pageFrames)
      (fun _ => rhs.expr.number env second pageFrames) = .error fault := by
  have hlhs := number_side first hl fun x hx => hcontext x (List.mem_append_left _ hx)
  have hrhs := number_side second hr fun x hx => hcontext x (List.mem_append_right _ hx)
  have hsides : ∀ f : Option Number → Option Number → Result Bool, ∃ fault, (do
      let l ← lhs.expr.number env first pageFrames
      let r ← rhs.expr.number env second pageFrames
      f l r) = .error fault := by
    intro f
    rcases hlhs with ⟨hnot, n, hn⟩ | hfault
    · rcases hrhs with ⟨hnot', -⟩ | hfault
      · rw [hnot, hnot'] at hname
        simp at hname
      · rw [hn]
        exact exists_error_bind hfault _
    · exact exists_error_bind hfault _
  cases op with
  | eq | ne => cases hop
  | lt | le | gt | ge => exact hsides _

/-- **A comparison for being equal** needs the names on its sides. -/
theorem compareTruth_sides {lhs rhs : Side} (hl : lhs.Readable) (hr : rhs.Readable)
    (hcontext : ∀ x ∈ lhs.names ++ rhs.names, FillsAt data filled env.context x)
    (negated : Bool) {op : CompareOp} (hop : op.isOrder = false) (first second : Chance) :
    compareTruth (env.scope pageFrames) negated op
      (fun _ => lhs.expr.eval env first pageFrames) (fun _ => rhs.expr.eval env second pageFrames)
      (fun _ => lhs.expr.number env first pageFrames)
      (fun _ => rhs.expr.number env second pageFrames) =
      answer env.page.name filled (lhs.missing data ++ rhs.missing data)
        (Condition.comparisonHolds negated op (lhs.value data) (rhs.value data)) := by
  have hlhs := eval_side first hl fun x hx => hcontext x (List.mem_append_left _ hx)
  have hrhs := eval_side second hr fun x hx => hcontext x (List.mem_append_right _ hx)
  have hequal : op = .eq ∨ op = .ne := by
    cases op with
    | eq => exact .inl rfl
    | ne => exact .inr rfl
    | lt | le | gt | ge => cases hop
  rw [compareTruth_equal hequal, hlhs, hrhs]
  refine answer_bind _ _ _ ?_
  refine answer_bind_ok _ _ ?_
  rw [Condition.comparisonHolds]
  cases compareValues (op == .ne) (lhs.value data) (rhs.value data) with
  | none => rfl
  | some b => cases negated <;> cases b <;> rfl

/-! ## Conditions -/

/-- How a condition is judged shows as the outcome of evaluating it: without a verdict it fails. -/
def Judges (page : String) (filled : List String) (r : Result Bool) : Option Verdict → Prop
  | some v => r = answer page filled v.missing v.holds
  | none => ∃ fault, r = .error fault

/-- An operator asks for its second operand only if the first one leaves the outcome open. -/
theorem judges_logic {lhs rhs : Condition} {l r : Result Bool} (op : LogicOp)
    (hl : Judges page filled l (lhs.judge data)) (hr : Judges page filled r (rhs.judge data)) :
    Judges page filled (combineTruth op (fun _ => l) (fun _ => r))
      ((Condition.logic op lhs rhs).judge data) := by
  rw [combineTruth, Condition.judge]
  cases hlhs : lhs.judge data with
  | none =>
    rw [hlhs] at hl
    exact exists_error_bind hl _
  | some v =>
    rw [hlhs] at hl
    have hl : l = answer page filled v.missing v.holds := hl
    -- what comes out if the second operand decides
    have hopen : ∀ f : Bool → Result Bool, f v.holds = r →
        Judges page filled (l >>= f)
          ((rhs.judge data).map fun w => ⟨w.holds, v.missing ++ w.missing⟩) := by
      intro f hf
      rw [hl]
      cases hrhs : rhs.judge data with
      | none =>
        rw [hrhs] at hr
        exact exists_error_of_answer _ _ (hf ▸ hr)
      | some w =>
        rw [hrhs] at hr
        exact answer_bind _ _ _ (hf.trans hr)
    have hdecided : ∀ f : Bool → Result Bool, f v.holds = .ok v.holds →
        Judges page filled (l >>= f) (some v) := by
      intro f hf
      rw [hl]
      exact answer_bind_ok _ _ hf
    rw [Option.bind_eq_bind, Option.bind_some]
    obtain ⟨holds, missing⟩ := v
    cases op with
    | and =>
      cases holds with
      | true => exact hopen _ rfl
      | false => exact hdecided _ rfl
    | or =>
      cases holds with
      | true => exact hdecided _ rfl
      | false => exact hopen _ rfl

/-- **A condition is evaluated as it is judged.** -/
theorem truth_condition (chance : Chance) {c : Condition} (hc : c.Readable)
    (hcontext : ∀ x ∈ c.names, FillsAt data filled env.context x) :
    Judges env.page.name filled (c.expr.truth env chance pageFrames) (c.judge data) := by
  induction c generalizing chance with
  | name negated x =>
    exact truth_name_negated (hcontext x (List.mem_singleton_self x)) hc negated
  | compare negated op lhs rhs =>
    obtain ⟨hl, hr, hname⟩ := hc
    rw [Condition.expr, Expr.truth.eq_3 _ _ _ _ _ _ (fun _ h => by cases h)
      (fun _ h => by cases h), Operand.truth, Condition.judge]
    cases hop : op.isOrder with
    | true => exact exists_error_compareTruth hl hr hname hcontext negated hop _ _
    | false => exact compareTruth_sides hl hr hcontext negated hop _ _
  | group inner ih => exact ih chance hc.2.2 hcontext
  | logic op lhs rhs ihl ihr =>
    obtain ⟨-, hl, hr⟩ := hc
    have hlhs := ihl ((chance.branch 0).branch 0) hl fun x hx =>
      hcontext x (List.mem_append_left _ hx)
    have hrhs := ihr ((chance.branch 0).branch 1) hr fun x hx =>
      hcontext x (List.mem_append_right _ hx)
    have htruth : (Condition.logic op lhs rhs).expr.truth env chance pageFrames =
        combineTruth op (fun _ => lhs.expr.truth env ((chance.branch 0).branch 0) pageFrames)
          (fun _ => rhs.expr.truth env ((chance.branch 0).branch 1) pageFrames) := by
      rw [Condition.expr, Expr.plain, Expr.truth.eq_3 _ _ _ _ _ _ (fun _ h => by cases h)
        (fun _ h => by cases h), Operand.truth]
      cases combineTruth op (fun _ => lhs.expr.truth env ((chance.branch 0).branch 0) pageFrames)
          (fun _ => rhs.expr.truth env ((chance.branch 0).branch 1) pageFrames) with
      | ok b => rfl
      | error fault => rfl
    rw [htruth]
    exact judges_logic op hlhs hrhs

/-! ## Nodes -/

/-- What a pass meets shows as the outcome of rendering it: if the pass gets stuck, it fails. -/
def Meets (page : String) (filled : List String) (r : Result Output) : Option (List Piece) → Prop
  | some ps => r = outcome page filled pageFrames (.ofPieces filled ps)
  | none => ∃ fault, r = .error fault

theorem meets_cons {n : Node} {ns : List Node} {p q : Option (List Piece)}
    (hn : ∀ chance, Meets env.page.name filled (renderNode env chance pageFrames n) p)
    (hns : ∀ chance, Meets env.page.name filled (renderNodes env chance pageFrames ns) q) :
    Meets env.page.name filled (renderNodes env chance pageFrames (n :: ns))
      (do
        let ps ← p
        let qs ← q
        some (ps ++ qs)) := by
  cases p with
  | none =>
    rw [renderNodes]
    exact exists_error_bind (hn _) _
  | some ps =>
    have hn : ∀ chance, renderNode env chance pageFrames n = _ := hn
    cases q with
    | none =>
      rw [renderNodes, hn, outcome_eq_answer]
      refine exists_error_of_answer _ _ ?_
      exact exists_error_bind (hns _) _
    | some qs =>
      have hns : ∀ chance, renderNodes env chance pageFrames ns = _ := hns
      show renderNodes env chance pageFrames (n :: ns) = _
      rw [renderNodes_cons hn hns, Evaluation.ofPieces_append]

theorem meets_textNodes (chance : Chance) (before : String) {ns : List Node}
    {q : Option (List Piece)}
    (hns : ∀ chance, Meets env.page.name filled (renderNodes env chance pageFrames ns) q) :
    Meets env.page.name filled (renderNodes env chance pageFrames (textNodes before ++ ns))
      (q.map (.shown before :: ·)) := by
  cases q with
  | none =>
    unfold textNodes
    split
    · exact hns chance
    · rw [List.singleton_append, renderNodes, renderNode]
      exact exists_error_bind (hns _) _
  | some qs => exact renderNodes_textNodes chance before hns

/-- A default or nothing filters a value as little. -/
theorem applyFilters_filters (fallback : Option String) (frames : List Frame) (v : Value) :
    applyFilters env chance frames (Branching.filters fallback) v = .ok v := by
  cases fallback with
  | none =>
    rw [Branching.filters, applyFilters]
    rfl
  | some value =>
    rw [Branching.filters, applyFilters, if_pos (.inr rfl), applyFilters]
    rfl

/-- The default value is the default text. -/
theorem fallbackOf_filters (fallback : Option String) (frames : List Frame) :
    fallbackOf env chance frames (Branching.filters fallback) =
      fallback.map fun value => some (.ok (.string value)) := by
  cases fallback with
  | none =>
    rw [Branching.filters, fallbackOf]
    rfl
  | some value =>
    have hvalue (chance : Chance) :
        (Expr.plain (.text value)).eval env chance frames = .ok (.string value) := by
      rw [eval_plain (fun _ h => by cases h), Operand.eval]
      rfl
    rw [Branching.filters, fallbackOf, if_pos rfl, namedValues, namedValues, hvalue]
    rfl

/-- **What a printed name comes to**, perhaps by its default text. -/
theorem renderNode_printed (hcontext : FillsAt data filled env.context x) (hx : IsVariable x)
    (fallback : Option String) :
    renderNode env chance pageFrames
        (.print Simple.edges (.mk (.name x) false (Branching.filters fallback))) =
      outcome env.page.name filled pageFrames
        ((Branching.printedPiece data x fallback).evaluation filled) := by
  have hresolve : (env.scope pageFrames).resolve x = _ := resolve_of_fills .page hcontext hx
  have hlookup : Simple.lookup data [] x = data.get? x := rfl
  rw [hlookup] at hresolve
  have hshown : ∀ v : Value, (env.scope pageFrames).resolve x = .ok v → v ≠ .null →
      renderNode env chance pageFrames
          (.print Simple.edges (.mk (.name x) false (Branching.filters fallback))) =
        .ok ⟨v.text, pageFrames, .normal⟩ := by
    intro v hv hnull
    rw [renderNode, Expr.eval, nameValue_of_ok hv hnull, applyFilters_filters]
    rfl
  unfold Branching.printedPiece
  cases hfield : data.get? x with
  | some field =>
    rw [hfield] at hresolve
    rw [hshown _ hresolve (toValue_ne_null field)]
    rfl
  | none =>
    rw [hfield] at hresolve
    dsimp only at hresolve ⊢
    by_cases hfilled : x ∈ filled
    · -- a name that is filled in has a value, so that its default text does not step in
      rw [if_pos hfilled] at hresolve
      rw [hshown _ hresolve (fun h => by cases h), Value.text_string]
      cases fallback with
      | none =>
        dsimp only [Piece.evaluation]
        rw [outcome_missing, if_pos hfilled]
      | some value =>
        dsimp only [Piece.evaluation]
        rw [if_pos hfilled]
        rfl
    · rw [if_neg hfilled] at hresolve
      rw [renderNode, Expr.eval, nameValue, hresolve, fallbackOf_filters]
      cases fallback with
      | none =>
        dsimp only [Piece.evaluation]
        rw [outcome_missing, if_neg hfilled]
        rfl
      | some value =>
        dsimp only [Piece.evaluation]
        rw [if_neg hfilled]
        show (do
          let v ← applyFilters env (chance.branch 1) pageFrames (Branching.filters (some value))
            (.string value)
          pure (⟨v.text, pageFrames, .normal⟩ : Output)) = _
        rw [applyFilters_filters]
        show Except.ok _ = Except.ok _
        rw [Value.text_string]

/-- **What a condition and the body it decides for come to.** -/
theorem meets_chosen {c : Condition} (hc : c.Readable)
    (hcontext : ∀ x ∈ c.names, FillsAt data filled env.context x)
    (body : Bool → Result Output) (p : Bool → Option (List Piece))
    (hbody : ∀ holds, Meets env.page.name filled (body holds) (p holds)) :
    Meets env.page.name filled (c.expr.truth env chance pageFrames >>= body)
      (Branching.chosenPieces (c.judge data) p) := by
  have htruth := truth_condition chance hc hcontext
  unfold Branching.chosenPieces
  cases hjudge : c.judge data with
  | none =>
    rw [hjudge] at htruth
    exact exists_error_bind htruth _
  | some v =>
    rw [hjudge] at htruth
    have htruth : c.expr.truth env chance pageFrames = answer _ _ v.missing v.holds := htruth
    have hinner := hbody v.holds
    rw [htruth, Option.bind_eq_bind, Option.bind_some]
    cases hp : p v.holds with
    | none =>
      rw [hp] at hinner
      exact exists_error_of_answer _ _ hinner
    | some inner =>
      rw [hp] at hinner
      have hinner : body v.holds = outcome _ _ _ (.ofPieces filled inner) := hinner
      show _ = outcome _ _ _ _
      rw [outcome_eq_answer] at hinner ⊢
      rw [answer_bind _ _ _ hinner, Evaluation.ofPieces_append, Evaluation.ofPieces_map_missed,
        Evaluation.andThen, String.empty_append]

/-- **A branch on a condition** comes to what the condition needs and the body that it decides for,
which may be none at all. -/
theorem meets_cond {c : Condition} (hc : c.Readable)
    (hcontext : ∀ x ∈ c.names, FillsAt data filled env.context x) {yes : List Node}
    {no? : Option ElseBranch} {p q : Option (List Piece)}
    (hyes : ∀ chance, Meets env.page.name filled (renderNodes env chance pageFrames yes) p)
    (hno : ∀ chance, Meets env.page.name filled (renderElse env chance pageFrames no?) q) :
    Meets env.page.name filled
      (renderNode env chance pageFrames (.cond [.mk Simple.edges c.expr yes] no? Simple.edges))
      (Branching.chosenPieces (c.judge data) fun holds => if holds then p else q) := by
  rw [renderNode, renderBranches, renderBranches]
  apply meets_chosen hc hcontext
  intro holds
  cases holds with
  | true => exact hyes _
  | false => exact hno _

/-- A tag with a text in front of it and nodes behind it. -/
theorem meets_tag (before : String) {n : Node} {ns : List Node} {p q : Option (List Piece)}
    (hn : ∀ chance, Meets env.page.name filled (renderNode env chance pageFrames n) p)
    (hns : ∀ chance, Meets env.page.name filled (renderNodes env chance pageFrames ns) q) :
    Meets env.page.name filled (renderNodes env chance pageFrames (textNodes before ++ n :: ns))
      (do
        let ps ← p
        let qs ← q
        some (.shown before :: (ps ++ qs))) := by
  have hall := meets_textNodes chance before fun _ => meets_cons hn hns
  cases p with
  | none => exact hall
  | some ps =>
    cases q with
    | none => exact hall
    | some qs => exact hall

/-! ## Templates -/

/-- **The nodes of a template render to what a pass over it meets.** The induction is on the
template. -/
theorem meets_nodes (chance : Chance) (t : Branching) {after : List Char} (hread : t.Readable after)
    (hcontext : ∀ x ∈ t.names, FillsAt data filled env.context x) :
    Meets env.page.name filled (renderNodes env chance pageFrames t.nodes) (t.pieces data) := by
  induction t generalizing after chance with
  | done last =>
    have hnothing (chance : Chance) :
        Meets env.page.name filled (renderNodes env chance pageFrames []) (some []) := by
      rw [renderNodes]
      rfl
    have htext := meets_textNodes chance last hnothing
    rw [List.append_nil] at htext
    exact htext
  | print before x fallback rest ih =>
    obtain ⟨-, hx, -, hrest⟩ := hread
    have hname : FillsAt data filled env.context x := hcontext x List.mem_cons_self
    have hprint (chance : Chance) : Meets env.page.name filled (renderNode env chance pageFrames
        (.print Simple.edges (.mk (.name x) false (Branching.filters fallback))))
        (some [Branching.printedPiece data x fallback]) := by
      show _ = outcome _ _ _ _
      rw [Evaluation.ofPieces_singleton]
      exact renderNode_printed hname hx fallback
    apply meets_tag before hprint
    intro chance
    apply ih chance hrest
    intro y hy
    exact hcontext y (List.mem_cons_of_mem _ hy)
  | cond before c yes no rest ihyes ihno ih =>
    obtain ⟨-, hc, hyes, hno, hrest⟩ := hread
    have hnames : ∀ x, x ∈ c.names ∨ x ∈ yes.names ∨ x ∈ no.names ∨ x ∈ rest.names →
        FillsAt data filled env.context x := by
      intro x hx
      apply hcontext x
      simpa [Branching.names, or_assoc] using hx
    have hyes (chance : Chance) := ihyes chance hyes fun x hx => hnames x (.inr (.inl hx))
    have hno (chance : Chance) := ihno chance hno fun x hx => hnames x (.inr (.inr (.inl hx)))
    have hrest (chance : Chance) := ih chance hrest fun x hx => hnames x (.inr (.inr (.inr hx)))
    have helse (chance : Chance) : Meets env.page.name filled
        (renderElse env chance pageFrames (some (.mk Simple.edges no.nodes))) (no.pieces data) := by
      rw [renderElse]
      exact hno chance
    exact meets_tag before
      (fun _ => meets_cond hc (fun x hx => hnames x (.inl hx)) hyes helse) hrest
  | when before c body rest ihbody ih =>
    obtain ⟨-, hc, hbody, hrest⟩ := hread
    have hnames : ∀ x, x ∈ c.names ∨ x ∈ body.names ∨ x ∈ rest.names →
        FillsAt data filled env.context x := by
      intro x hx
      apply hcontext x
      simpa [Branching.names, or_assoc] using hx
    have hbody (chance : Chance) := ihbody chance hbody fun x hx => hnames x (.inr (.inl hx))
    have hrest (chance : Chance) := ih chance hrest fun x hx => hnames x (.inr (.inr hx))
    -- without an alternative there is nothing to render, and nothing that is missed
    have helse (chance : Chance) :
        Meets env.page.name filled (renderElse env chance pageFrames none) (some []) := by
      rw [renderElse]
      rfl
    exact meets_tag before
      (fun _ => meets_cond hc (fun x hx => hnames x (.inl hx)) hbody helse) hrest

/-! ## Pages -/

section Page

variable {t : Branching} {context : Context}

/-- **The page of a template renders to the text of what a pass over it meets**, or fails with the
message about the first name that is missed and not filled in. -/
theorem render_pieces (hread : t.Readable [])
    (hcontext : ∀ x ∈ t.names, FillsAt data filled context x) {ps : List Piece}
    (hpieces : t.pieces data = some ps) (name : String) (function? : String → Option Function)
    (chance : Chance) :
    (Engine.mk ⟨name, t.nodes⟩ function? chance).render context =
      match (missingOf ps).find? (· ∉ filled) with
      | none => .ok (Evaluation.ofPieces filled ps).text
      | some x => .error [headline name none, (Unresolved.name x name).message] := by
  obtain ⟨env, hpage, rfl, -, hrender⟩ := render_eq ⟨⟨name, t.nodes⟩, function?, chance⟩ context
  have hname : env.page.name = name := by rw [hpage]
  have hmeets := meets_nodes (chance.branch env.context.length) t hread hcontext
  rw [hpieces] at hmeets
  have hnodes : renderNodes env (chance.branch env.context.length) pageFrames t.nodes =
      outcome env.page.name filled pageFrames (.ofPieces filled ps) := hmeets
  rw [hrender, hnodes, ← missing_ofPieces filled ps, hname]
  unfold outcome
  cases (Evaluation.ofPieces filled ps).missing.find? (· ∉ filled) with
  | none => rfl
  | some x => rfl

/-- **The page of a template fails where a pass over it gets stuck**, whatever is filled in. -/
theorem exists_error_render (hread : t.Readable [])
    (hcontext : ∀ x ∈ t.names, FillsAt data filled context x) (hpieces : t.pieces data = none)
    (name : String) (function? : String → Option Function) (chance : Chance) :
    ∃ trace, (Engine.mk ⟨name, t.nodes⟩ function? chance).render context = .error trace := by
  obtain ⟨env, -, rfl, -, hrender⟩ := render_eq ⟨⟨name, t.nodes⟩, function?, chance⟩ context
  have hmeets := meets_nodes (chance.branch env.context.length) t hread hcontext
  rw [hpieces] at hmeets
  obtain ⟨fault, hfault⟩ := hmeets
  rw [hrender, hfault]
  exact ⟨_, rfl⟩

end Page

end Scaffold.Template
