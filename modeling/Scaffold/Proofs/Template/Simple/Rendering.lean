import Scaffold.Template.Render
import Scaffold.Proofs.Template.Lookup
import Scaffold.Proofs.Template.Simple.Reading

/-!
# Rendering simple templates

The page of a simple template renders to the text that the template is evaluated to, with the names
that are missing and filled in as empty texts, and stops at the first name that is missing and not
filled in. The key notions are `Opened`, the frames that loops have opened, `Fills`, a context that
has the fields of some data and some names filled in, and `outcome`, how an evaluation shows as the
result of a rendering. Main facts:

* `resolve_of_fills` : what looking a name up gives in such frames and in such a context;
* `outcome_andThen` : what comes after a failure does not count;
* `renderNodes_nodes` : the nodes of a template render to its outcome;
* `render_nodes` : so does a page.
-/

namespace Scaffold.Template

open Grammar (IsVariable)

/-! ## Look-ups -/

/-- The frames at the top of a page. -/
def pageFrames : List Frame := [.ofKind .page]

/-- A round of a loop over texts knows its item, besides `loop` and its key, which is none here. -/
theorem find?_round {x : String} (hx : IsVariable x) (item key s : String) (index count : Nat) :
    (Frame.ofKind (.loop ⟨none, item, key, .string s, index, count⟩)).find? x =
      if x = item then some (.string s) else none := by
  have hpath : splitPath x = (x, none) := splitPath_of_no_point (hx.not_mem rfl)
  rw [Frame.find?, hpath]
  show Round.find? ⟨none, item, key, .string s, index, count⟩ x = _
  rw [Round.find?, hpath]
  dsimp only
  rw [if_neg hx.ne_loop]
  split
  · rfl
  · rw [if_neg (by simp)]

/-- The frames inside loops that bind names to texts, innermost first. -/
inductive Opened : List (String × String) → List Frame → Prop
  | page : Opened [] [.ofKind .page]
  | round {bound : List (String × String)} {frames : List Frame} (item key s : String)
      (index count : Nat) (outer : Opened bound frames) :
      Opened ((item, s) :: bound)
        (.ofKind (.loop ⟨none, item, key, .string s, index, count⟩) :: frames)

variable {data : Fields} {bound : List (String × String)} {frames : List Frame} {x : String}

/-- No macro is open in a loop or at the top of a page. -/
theorem Opened.site? (h : Opened bound frames) (page : String) (context : Context) :
    (Scope.mk page context frames).site? = none := by
  cases h <;> rfl

/-- In the frames of loops a name has the value that the innermost loop binds it to. -/
theorem Opened.findInFrames (h : Opened bound frames) (hx : IsVariable x) :
    findInFrames x frames = (bound.lookup x).map Value.string := by
  have hpath : splitPath x = (x, none) := splitPath_of_no_point (hx.not_mem rfl)
  induction h with
  | page =>
    rw [Template.findInFrames, Frame.find?, hpath]
    rfl
  | @round bound frames item key s index count outer ih =>
    rw [Template.findInFrames, find?_round hx, List.lookup_cons]
    by_cases hitem : x = item
    · subst hitem
      simp
    · have hbeq : (x == item) = false := by simpa using hitem
      rw [if_neg hitem, hbeq]
      exact ih

/-- No field is null. -/
theorem toValue_ne_null (field : Field) : field.toValue ≠ .null := by
  cases field with
  | text s => simp [Field.toValue]
  | flag b => simp [Field.toValue]
  | list items => simp [Field.toValue]
  | nested entries => simp [Field.toValue, Value.ofEntries]

/-- A context has the field of a name, or an empty text under the name if it is filled in. -/
def FillsAt (data : Fields) (filled : List String) (context : Context) (x : String) : Prop :=
  context.get? x =
    match data.get? x with
    | some field => some field.toValue
    | none => if x ∈ filled then some (.string "") else none

/-- A context has the fields of the data, and empty texts under names that are filled in. -/
def Fills (data : Fields) (filled : List String) (context : Context) : Prop :=
  ∀ x, FillsAt data filled context x

variable {filled : List String} {context : Context} {page : String}

/-- What a look-up in a loop or at the top of a page gives. -/
theorem resolve_of_fills (hframes : Opened bound frames)
    (hcontext : FillsAt data filled context x) (hx : IsVariable x) :
    (Scope.mk page context frames).resolve x =
      match Simple.lookup data bound x with
      | some field => .ok field.toValue
      | none => if x ∈ filled then .ok (.string "") else .error (.name x page) := by
  have hpath : splitPath x = (x, none) := splitPath_of_no_point (hx.not_mem rfl)
  have hbracket : '[' ∉ x.toList := hx.not_mem rfl
  have hfind : (Scope.mk page context frames).find? x =
      match Simple.lookup data bound x with
      | some field => some field.toValue
      | none => if x ∈ filled then some (.string "") else none := by
    rw [Scope.find?, hframes.findInFrames hx, Simple.lookup]
    -- a round of a loop hides the data, and the data hides what is filled in
    cases bound.lookup x with
    | some s => rfl
    | none =>
      dsimp only [Option.map_none]
      rw [hpath]
      dsimp only
      rw [FillsAt] at hcontext
      rw [hcontext]
      cases data.get? x with
      | some field => rfl
      | none =>
        dsimp only
        split <;> rfl
  have hname : x ≠ Scope.contextName := hx.ne_context
  rw [Scope.resolve, if_neg hname, Scope.resolveAt, if_neg (by simpa using hbracket), hfind]
  cases Simple.lookup data bound x with
  | some field => rfl
  | none =>
    dsimp only
    by_cases hfilled : x ∈ filled
    · rw [if_pos hfilled, if_pos hfilled]
    · rw [if_neg hfilled, if_neg hfilled]

/-! ## Expressions -/

variable {env : Env} {chance : Chance}

theorem applyFilters_nil (v : Value) : applyFilters env chance frames [] v = .ok v := by
  rw [applyFilters]
  rfl

/-- An operand that is no name, without filters and negation. -/
theorem eval_plain {o : Operand} (ho : ∀ path, o ≠ .name path) :
    (Expr.plain o).eval env chance frames = o.eval env (chance.branch 0) frames false := by
  rw [Expr.plain, Expr.eval.eq_2 _ _ _ _ _ _ (fun path h => ho path h)]
  cases o.eval env (chance.branch 0) frames false with
  | error fault => rfl
  | ok v =>
    show (applyFilters env (chance.branch 1) frames [] v >>= fun v => pure v) = _
    rw [applyFilters_nil]
    rfl

/-- A value that is there needs no default. -/
theorem nameValue_of_ok {scope : Scope} {v : Value} (hv : scope.resolve x = .ok v)
    (hnull : v ≠ .null) (negated : Bool) (fallback : Unit → Option (Option (Result Value)))
    (filtered : Value → Result Value) :
    nameValue scope x negated fallback filtered =
      (filtered v >>= fun w => pure (if negated then .bool !w.truthy else w)) := by
  unfold nameValue
  rw [hv]
  cases v with
  | null => exact absurd rfl hnull
  | bool b | number n | string s | array items | object entries => rfl

/-- A name that has a value counts as true if the value does, or the other way around. -/
theorem truth_name_of_ok {v : Value} (hv : (env.scope frames).resolve x = .ok v)
    (hnull : v ≠ .null) (negated : Bool) :
    (Expr.mk (.name x) negated []).truth env chance frames = .ok (v.truthy != negated) := by
  rw [Expr.truth, nameValue_of_ok hv hnull, applyFilters_nil]
  cases negated with
  | false =>
    show Except.ok v.truthy = _
    rw [Bool.bne_false]
  | true =>
    show Except.ok (!(!(!v.truthy))) = _
    rw [Bool.not_not, Bool.bne_true]

/-- A comparison for being equal, or for being different, takes the values of both sides. -/
theorem compareTruth_equal {op : CompareOp} (hop : op = .eq ∨ op = .ne) (scope : Scope)
    (negated : Bool) (lhsValue rhsValue : Unit → Result Value)
    (lhsNumber rhsNumber : Unit → Result (Option Number)) :
    compareTruth scope negated op lhsValue rhsValue lhsNumber rhsNumber = (do
      let l ← lhsValue ()
      let r ← rhsValue ()
      pure ((compareValues (op == .ne) l r).elim false (applyNegation negated))) := by
  rcases hop with rfl | rfl
  all_goals
    refine bind_congr fun l => bind_congr fun r => ?_
    cases compareValues _ l r with
    | none => rfl
    | some b => rfl

/-- A name without negation and filters comes to what it is looked up to. -/
theorem nameValue_bare (x : String) :
    nameValue (env.scope frames) x false (fun _ => fallbackOf env (chance.branch 0) frames [])
      (applyFilters env (chance.branch 1) frames []) = (env.scope frames).value x := by
  have hfallback : fallbackOf env (chance.branch 0) frames [] = none := by rw [fallbackOf]
  rw [nameValue, Scope.value]
  simp only [hfallback, ite_self]
  cases (env.scope frames).resolve x with
  | error u => rfl
  | ok v =>
    dsimp only
    rw [applyFilters]
    rfl

/-- A name is evaluated by looking it up. -/
theorem eval_name (x : String) :
    (Expr.plain (.name x)).eval env chance frames = (env.scope frames).value x := by
  rw [Expr.plain, Expr.eval, nameValue_bare]

/-- A name counts as true if it has a value that does. -/
theorem truth_name (x : String) :
    (Expr.plain (.name x)).truth env chance frames =
      .ok (((env.scope frames).resolve x).toOption.any Value.truthy) := by
  rw [Expr.plain, Expr.truth, nameValue_bare, Scope.value]
  cases (env.scope frames).resolve x with
  | error u => rfl
  | ok v => rfl

/-! ## Outcomes -/

/-- How an evaluation shows as the result of a rendering: with its text, or at the first name that
is missed and not filled in. -/
def outcome (page : String) (filled : List String) (frames : List Frame) (e : Evaluation) :
    Result Output :=
  match e.missing.find? (· ∉ filled) with
  | none => .ok ⟨e.text, frames, .normal⟩
  | some x => .error ⟨[.unresolved (.name x page)], none⟩

/-- A name that is missed ends a rendering unless it is filled in. -/
theorem outcome_missing (x : String) :
    outcome page filled frames ⟨"", [x]⟩ =
      if x ∈ filled then .ok ⟨"", frames, .normal⟩
      else .error ⟨[.unresolved (.name x page)], none⟩ := by
  unfold outcome
  by_cases hx : x ∈ filled
  · simp [hx]
  · simp [hx]

/-- An empty text in front of a template does not show. -/
theorem outcome_empty (e : Evaluation) :
    outcome page filled frames (Evaluation.andThen ⟨"", []⟩ e) = outcome page filled frames e :=
  congrArg _ (Evaluation.nothing_andThen e)

/-- What comes after a failure does not count. -/
theorem outcome_andThen (a b : Evaluation) :
    outcome page filled frames (a.andThen b) = (do
      let out ← outcome page filled frames a
      let others ← outcome page filled frames b
      pure { others with text := out.text ++ others.text }) := by
  unfold outcome Evaluation.andThen
  rw [List.find?_append]
  cases a.missing.find? (· ∉ filled) with
  | some x => rfl
  | none =>
    rw [Option.none_or]
    dsimp only
    cases b.missing.find? (· ∉ filled) <;> rfl

/-- Nodes have the outcome of their parts in turn. -/
theorem renderNodes_cons {n : Node} {ns : List Node} {a b : Evaluation}
    (hn : ∀ chance, renderNode env chance frames n = outcome page filled frames a)
    (hns : ∀ chance, renderNodes env chance frames ns = outcome page filled frames b) :
    renderNodes env chance frames (n :: ns) = outcome page filled frames (a.andThen b) := by
  rw [renderNodes, hn, outcome_andThen]
  unfold outcome
  cases a.missing.find? (· ∉ filled) with
  | some x => rfl
  | none =>
    show (do
      let others ← renderNodes env (chance.branch 1) frames ns
      pure { others with text := a.text ++ others.text }) = _
    rw [hns]
    rfl

/-- Text in front of nodes is rendered as it is. -/
theorem renderNodes_textNodes (chance : Chance) (before : String) {ns : List Node} {e : Evaluation}
    (hns : ∀ chance, renderNodes env chance frames ns = outcome page filled frames e) :
    renderNodes env chance frames (textNodes before ++ ns) =
      outcome page filled frames (Evaluation.andThen ⟨before, []⟩ e) := by
  unfold textNodes
  split
  · rename_i hempty
    obtain rfl : before = "" := by simpa using hempty
    rw [outcome_empty]
    exact hns chance
  · refine renderNodes_cons (fun chance => ?_) hns
    rw [renderNode]
    rfl

/-! ## Names that are printed, tested and looped over -/

/-- The value of a name, or what ends a rendering that needs it. -/
theorem value_of_fills (hframes : Opened bound frames)
    (hcontext : FillsAt data filled env.context x) (hx : IsVariable x) :
    (env.scope frames).value x =
      match Simple.lookup data bound x with
      | some field => .ok field.toValue
      | none =>
        if x ∈ filled then .ok (.string "")
        else .error ⟨[.unresolved (.name x env.page.name)], none⟩ := by
  have hresolve : (env.scope frames).resolve x = _ := resolve_of_fills hframes hcontext hx
  have hsite : (env.scope frames).site? = none := hframes.site? _ _
  rw [Scope.value, hresolve]
  cases Simple.lookup data bound x with
  | some field => rfl
  | none =>
    dsimp only
    by_cases hfilled : x ∈ filled
    · rw [if_pos hfilled, if_pos hfilled]
    · rw [if_neg hfilled, if_neg hfilled]
      dsimp only
      rw [Scope.stop, hsite]

/-- What a printed name comes to. -/
theorem renderNode_print (hframes : Opened bound frames) (hcontext : Fills data filled env.context)
    (hx : IsVariable x) :
    renderNode env chance frames (.print Simple.edges (.plain (.name x))) =
      outcome env.page.name filled frames
        (match Simple.lookup data bound x with
        | some field => ⟨field.toValue.text, []⟩
        | none => ⟨"", [x]⟩) := by
  rw [renderNode, eval_name, value_of_fills hframes (hcontext _) hx]
  cases Simple.lookup data bound x with
  | some field => rfl
  | none =>
    dsimp only
    rw [outcome_missing]
    by_cases hfilled : x ∈ filled
    · rw [if_pos hfilled, if_pos hfilled]
      show Except.ok _ = Except.ok _
      rw [Value.text_string]
    · rw [if_neg hfilled, if_neg hfilled]
      rfl

/-- What a condition on a name comes to. -/
theorem renderNode_cond (hframes : Opened bound frames) (hcontext : Fills data filled env.context)
    (hx : IsVariable x) {yes no : List Node} {a b : Evaluation}
    (hyes : ∀ chance, renderNodes env chance frames yes = outcome env.page.name filled frames a)
    (hno : ∀ chance, renderNodes env chance frames no = outcome env.page.name filled frames b) :
    renderNode env chance frames (.cond [.mk Simple.edges (.plain (.name x)) yes]
        (some (.mk Simple.edges no)) Simple.edges) =
      outcome env.page.name filled frames
        (if (Simple.lookup data bound x).any (·.toValue.truthy) then a else b) := by
  have hresolve : (env.scope frames).resolve x = _ := resolve_of_fills hframes (hcontext _) hx
  have htruth : ((env.scope frames).resolve x).toOption.any Value.truthy =
      (Simple.lookup data bound x).any (·.toValue.truthy) := by
    rw [hresolve]
    cases Simple.lookup data bound x with
    | some field => rfl
    | none =>
      dsimp only
      split <;> rfl
  rw [renderNode, renderBranches, truth_name, htruth]
  show (if _ then renderNodes env _ frames yes else renderBranches env _ frames _ []) = _
  rw [renderBranches, renderElse, hyes, hno]
  split <;> rfl

/-- What the rounds of a loop come to, one for each text of a list. -/
theorem runRounds_texts {item : String} {body : List Node}
    (hframes : Opened bound frames) {e : String → Evaluation}
    (hbody : ∀ chance s inner, Opened ((item, s) :: bound) inner →
      renderNodes env chance inner body = outcome env.page.name filled inner (e s))
    (count index : Nat) (items : List String) :
    runRounds none item count (fun chance inner => renderNodes env chance inner body) chance index
        (items.map fun s => ("", .string s)) frames =
      outcome env.page.name filled frames (.inTurn (items.map e)) := by
  induction items generalizing index with
  | nil => rfl
  | cons s items ih =>
    rw [List.map_cons, List.map_cons, runRounds]
    dsimp only
    rw [hbody _ s _ (.round item "" s index count hframes)]
    show _ = outcome env.page.name filled frames ((e s).andThen (.inTurn (items.map e)))
    rw [outcome_andThen]
    unfold outcome
    cases (e s).missing.find? (· ∉ filled) with
    | some x => rfl
    | none =>
      show (do
        let others ← runRounds none item count _ chance (index + 1) (items.map _) frames
        pure (⟨(e s).text ++ others.text, others.frames, .normal⟩ : Output)) = _
      rw [ih (index + 1)]
      unfold outcome
      cases (Evaluation.inTurn (items.map e)).missing.find? (· ∉ filled) <;> rfl

/-- A loop over the texts of a list has a round for each of them, and is nothing if there is
none. -/
theorem renderNode_loop_texts {opening closing : Edges} {item container : String}
    {items : List String} (body : List Node)
    (hvalue : ∀ chance, (Expr.plain (.name container)).eval env chance frames =
      .ok (.array (items.map .string))) :
    renderNode env chance frames
        (.forLoop opening none item (.plain (.name container)) body none closing) =
      runRounds none item items.length (fun chance inner => renderNodes env chance inner body)
        (chance.branch 1) 0 (items.map fun s => ("", .string s)) frames := by
  have hname : containerName (.plain (.name container)) = some container := rfl
  have hrounds : roundsOf container (none : Option String).isSome (.array (items.map .string)) =
      .ok (items.map fun s => ("", .string s)) := by
    rw [roundsOf, if_neg (by simp), List.map_map]
    rfl
  rw [renderNode, hname]
  dsimp only
  rw [hvalue]
  show (do
    let rounds ← (env.scope frames).lift (roundsOf container (none : Option String).isSome
      (.array (items.map .string)))
    if rounds.isEmpty then renderOtherwise env (chance.branch 1) frames none
    else
      runRounds none item rounds.length (fun chance inner => renderNodes env chance inner body)
        (chance.branch 1) 0 rounds frames) = _
  rw [hrounds]
  show (if (items.map fun s => ("", Value.string s)).isEmpty then
    renderOtherwise env (chance.branch 1) frames none else _) = _
  cases items with
  | nil =>
    rw [renderOtherwise]
    rfl
  | cons s items => rw [if_neg (by simp), List.length_map]

/-- What a loop over a list of the data, or over a name that is missing there, comes to. -/
theorem renderNode_loop (hframes : Opened bound frames) (hcontext : Fills data filled env.context)
    {item container : String} (hx : IsVariable container) (hbound : bound.lookup container = none)
    (hlist : data.get? container = none ∨ ∃ items, data.get? container = some (.list items))
    {body : List Node} {e : String → Evaluation}
    (hbody : ∀ chance s inner, Opened ((item, s) :: bound) inner →
      renderNodes env chance inner body = outcome env.page.name filled inner (e s)) :
    renderNode env chance frames (.forLoop Simple.edges none item (.plain (.name container)) body
        none Simple.edges) =
      outcome env.page.name filled frames
        (match Simple.lookup data bound container with
        | some (.list items) => .inTurn (items.map e)
        | some _ => .nothing
        | none => ⟨"", [container]⟩) := by
  have hlookup : Simple.lookup data bound container = data.get? container := by
    rw [Simple.lookup, hbound]
  have hvalue (chance : Chance) : (Expr.plain (.name container)).eval env chance frames = _ :=
    (eval_name container).trans (value_of_fills hframes (hcontext _) hx)
  rw [hlookup] at hvalue ⊢
  rcases hlist with hnone | ⟨items, hitems⟩
  · rw [hnone] at hvalue ⊢
    have hname : containerName (.plain (.name container)) = some container := rfl
    dsimp only at hvalue ⊢
    rw [renderNode, hname]
    dsimp only
    rw [hvalue, outcome_missing]
    by_cases hfilled : container ∈ filled
    · rw [if_pos hfilled, if_pos hfilled]
      rfl
    · rw [if_neg hfilled, if_neg hfilled]
      rfl
  · rw [hitems] at hvalue ⊢
    dsimp only at hvalue ⊢
    rw [Field.toValue] at hvalue
    rw [renderNode_loop_texts body hvalue]
    exact runRounds_texts hframes hbody _ 0 items

/-! ## Templates -/

/-- **The nodes of a template render to its outcome** behind the text in front of it. The induction
is on the template; in the body of a loop one more frame is open and one more name bound. -/
theorem renderNodes_nodes (chance : Chance) (hcontext : Fills data filled env.context) (t : Simple)
    (hread : t.Readable) (hframes : Opened bound frames)
    (hloops : t.LoopsOverLists data (bound.map Prod.fst)) (before : String) :
    renderNodes env chance frames (t.nodes before) =
      outcome env.page.name filled frames
        (Evaluation.andThen ⟨before, []⟩ (t.evaluate data bound)) := by
  induction t generalizing bound frames before chance with
  | done =>
    have hnothing (chance : Chance) : renderNodes env chance frames [] =
        outcome env.page.name filled frames .nothing := by
      rw [renderNodes]
      rfl
    have htext := renderNodes_textNodes chance before hnothing
    rw [List.append_nil] at htext
    exact htext
  | text s rest ih =>
    rw [Simple.nodes, ih chance hread.2 hframes hloops, Simple.evaluate]
    simp [Evaluation.andThen, String.append_assoc]
  | print x rest ih =>
    have hrest (chance : Chance) := (ih chance hread.2 hframes hloops "").trans (outcome_empty _)
    rw [Simple.nodes, Simple.evaluate]
    exact renderNodes_textNodes chance before fun _ =>
      renderNodes_cons (fun _ => renderNode_print hframes hcontext hread.1) hrest
  | cond x yes no rest ihyes ihno ih =>
    obtain ⟨hx, hyes, hno, hrest⟩ := hread
    have hyes (chance : Chance) := (ihyes chance hyes hframes hloops.1 "").trans (outcome_empty _)
    have hno (chance : Chance) := (ihno chance hno hframes hloops.2.1 "").trans (outcome_empty _)
    have hrest (chance : Chance) := (ih chance hrest hframes hloops.2.2 "").trans (outcome_empty _)
    rw [Simple.nodes, Simple.evaluate]
    exact renderNodes_textNodes chance before fun _ =>
      renderNodes_cons (fun _ => renderNode_cond hframes hcontext hx hyes hno) hrest
  | loop item container body rest ihbody ih =>
    obtain ⟨-, hcontainer, hbody, hrest⟩ := hread
    obtain ⟨hbound, hlist, hbodyLoops, hrestLoops⟩ := hloops
    have hlookup : bound.lookup container = none := by
      rw [List.lookup_eq_none_iff]
      intro p hp
      have hne : container ≠ p.1 := by
        rintro rfl
        exact hbound (List.mem_map_of_mem hp)
      simpa using hne
    have hbody : ∀ chance s inner, Opened ((item, s) :: bound) inner →
        renderNodes env chance inner (body.nodes "") = outcome env.page.name filled inner
          (body.evaluate data ((item, s) :: bound)) := fun chance s inner hinner =>
      (ihbody chance hbody hinner hbodyLoops "").trans (outcome_empty _)
    have hrest (chance : Chance) := (ih chance hrest hframes hrestLoops "").trans (outcome_empty _)
    rw [Simple.nodes, Simple.evaluate]
    exact renderNodes_textNodes chance before fun _ => renderNodes_cons
      (fun _ => renderNode_loop hframes hcontext hcontainer hlookup hlist hbody) hrest

/-- A page renders to what its nodes do at its top, with the branch of the size of the context. -/
theorem render_eq (engine : Engine) (context : Context) :
    ∃ env : Env, env.page = engine.page ∧ env.context = context ∧
      env.function? = engine.function? ∧
      engine.render context =
        match renderNodes env (engine.chance.branch context.length) pageFrames
            engine.page.nodes with
        | .ok out => .ok out.text
        | .error fault => .error (headline engine.page.name fault.site :: fault.trace) :=
  ⟨⟨engine.page, context, engine.function?, renderBodies engine context 999⟩, rfl, rfl, rfl, rfl⟩

/-- **The page of a template renders to its text**, or fails with the message about the first name
that is missing and not filled in. -/
theorem render_nodes {t : Simple} (hread : t.Readable) (hloops : t.LoopsOverLists data [])
    (hcontext : Fills data filled context) (name : String)
    (function? : String → Option Function) (chance : Chance) :
    (Engine.mk ⟨name, t.nodes ""⟩ function? chance).render context =
      match (t.evaluate data []).missing.find? (· ∉ filled) with
      | none => .ok (t.evaluate data []).text
      | some x => .error [headline name none, (Unresolved.name x name).message] := by
  obtain ⟨env, hpage, rfl, -, hrender⟩ := render_eq ⟨⟨name, t.nodes ""⟩, function?, chance⟩ context
  have hname : env.page.name = name := by rw [hpage]
  have hnodes (chance : Chance) : renderNodes env chance pageFrames (t.nodes "") =
      outcome env.page.name filled pageFrames (t.evaluate data []) :=
    (renderNodes_nodes chance hcontext t hread .page hloops "").trans (outcome_empty _)
  rw [hrender, hnodes, hname]
  unfold outcome
  cases (t.evaluate data []).missing.find? (· ∉ filled) with
  | none => rfl
  | some x => rfl

end Scaffold.Template
