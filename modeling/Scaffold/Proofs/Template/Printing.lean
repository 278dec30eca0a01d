import Scaffold.Proofs.Template.Simple.Rendering

/-!
# What templates print

Rules by which the text of a template is put together from what is known of its names and what it
draws from. The key notions are `Knows`, a view of names with their values that holds in some
frames, `Gives`, `Fails` and `Decides`, the value of an expression, that it has none, and the
outcome of a condition in a view, and `Shows` and `Prints`, the text of a node and of a body, which
leave the frames as they are. `Adds` is the text of a body that assigns, and `Writes` that of a
whole template, whose later nodes know what was assigned before them. There is a rule for every kind
of expression and node, which says what its parts draw from; main facts are those that change what
is known:

* `Knows.assign`, `Knows.round` : the view after an assignment and in a round of a loop;
* `Shows.loop_adding`, `Shows.loop` : a loop over texts prints its body once for each of them;
* `Writes.assign` : what follows an assignment knows its value.
-/

namespace Scaffold

/-! ## What parts of an expression draw from -/

namespace Chance

/-- What a function draws from whose call stands alone as an expression. -/
abbrev ofCall (chance : Chance) : Chance := (chance.branch 0).branch 1

/-- What the arguments of this call draw from. -/
abbrev ofArguments (chance : Chance) : Chance := (chance.branch 0).branch 2

/-- What the arguments of a filter draw from that is the only one behind an operand. -/
abbrev ofFilterArguments (chance : Chance) : Chance := ((chance.branch 1).branch 0).branch 2

/-- What the operand in front of an operator draws from. -/
abbrev ofLeft (chance : Chance) : Chance := (chance.branch 0).branch 0

/-- What the operand behind an operator draws from. -/
abbrev ofRight (chance : Chance) : Chance := (chance.branch 0).branch 1

end Chance

namespace Template

open Grammar (IsVariable)

/-! ## Views -/

/-- Names with the values that they are known to have, the latest first. -/
abbrev View := List (String × Value)

/-- In some frames the names of a view have their values. -/
structure Knows (env : Env) (view : View) (frames : List Frame) : Prop where
  nonempty : frames ≠ []
  found : ∀ x v, lookupEntry x view = some v →
    IsVariable x ∧ v ≠ .null ∧ (env.scope frames).find? x = some v

variable {env : Env} {chance : Chance} {view : View} {frames : List Frame} {x : String} {v : Value}

/-- A name of the view has its value. -/
theorem Knows.resolve (h : Knows env view frames) (hx : lookupEntry x view = some v) :
    (env.scope frames).resolve x = .ok v := by
  obtain ⟨hvariable, -, hfind⟩ := h.found x v hx
  have hname : x ≠ Scope.contextName := hvariable.ne_context
  have hbracket : '[' ∉ x.toList := hvariable.not_mem rfl
  rw [Scope.resolve, if_neg hname, Scope.resolveAt, if_neg (by simpa using hbracket), hfind]

/-- What an assignment does to the innermost frame. -/
theorem find?_assignLocal (hx : IsVariable x) (y : String) (w : Value) (frame : Frame) :
    Frame.find? { frame with assigned := (y, w) :: frame.assigned } x =
      if y = x then some w else frame.find? x := by
  have hpath : splitPath x = (x, none) := splitPath_of_no_point (hx.not_mem rfl)
  rw [Frame.find?, Frame.find?, hpath]
  dsimp only
  rw [lookupEntry]
  by_cases hy : y = x
  · rw [if_pos hy, if_pos hy]
    rfl
  · rw [if_neg hy, if_neg hy]

/-- **An assigned name has the value that was assigned**, the others keep theirs. -/
theorem Knows.assign (h : Knows env view frames) (hx : IsVariable x) (hv : v ≠ .null) :
    Knows env ((x, v) :: view) (assignLocal x v frames) := by
  cases frames with
  | nil => exact absurd rfl h.nonempty
  | cons frame rest =>
    constructor
    · intro hempty
      cases hempty
    · intro y w hy
      rw [lookupEntry] at hy
      by_cases hname : x = y
      · subst hname
        rw [if_pos rfl] at hy
        cases hy
        refine ⟨hx, hv, ?_⟩
        rw [Env.scope, Scope.find?, assignLocal, findInFrames, find?_assignLocal hx, if_pos rfl]
      · rw [if_neg hname] at hy
        obtain ⟨hvariable, hnull, hfind⟩ := h.found y w hy
        refine ⟨hvariable, hnull, ?_⟩
        rw [← hfind, Env.scope, Env.scope, Scope.find?, Scope.find?, assignLocal, findInFrames,
          findInFrames, find?_assignLocal hvariable, if_neg hname]
        rfl

/-- **In a round of a loop** the item has its value, the others keep theirs. -/
theorem Knows.round (h : Knows env view frames) {item : String} (hitem : IsVariable item)
    (key s : String) (index count : Nat) :
    Knows env ((item, .string s) :: view)
      (.ofKind (.loop ⟨none, item, key, .string s, index, count⟩) :: frames) := by
  constructor
  · intro hempty
    cases hempty
  · intro y w hy
    rw [lookupEntry] at hy
    by_cases hname : item = y
    · subst hname
      rw [if_pos rfl] at hy
      cases hy
      refine ⟨hitem, by simp, ?_⟩
      rw [Env.scope, Scope.find?, findInFrames, find?_round hitem, if_pos rfl]
    · rw [if_neg hname] at hy
      obtain ⟨hvariable, hnull, hfind⟩ := h.found y w hy
      refine ⟨hvariable, hnull, ?_⟩
      rw [← hfind, Env.scope, Env.scope, Scope.find?, Scope.find?, findInFrames,
        find?_round hvariable, if_neg (Ne.symm hname)]
      rfl

/-! ## Expressions -/

/-- An expression has a value wherever the names of a view have theirs. -/
def Gives (env : Env) (chance : Chance) (view : View) (e : Expr) (v : Value) : Prop :=
  ∀ frames, Knows env view frames → e.eval env chance frames = .ok v

/-- So do the arguments of a call. -/
inductive GivesAll (env : Env) (view : View) : Chance → List (String × Expr) → Args → Prop
  | nil {chance : Chance} : GivesAll env view chance [] []
  | cons {chance : Chance} {e : Expr} {v : Value} {args : List (String × Expr)} {given : Args}
      (name : String) (he : Gives env (chance.branch 0) view e v)
      (h : GivesAll env view (chance.branch 1) args given) :
      GivesAll env view chance ((name, e) :: args) ((name, v) :: given)

/-- Arguments that have values all come to an answer, and these are their values. -/
theorem GivesAll.namedValues {args : List (String × Expr)} {given : Args}
    (h : GivesAll env view chance args given) (hframes : Knows env view frames) :
    (∀ arg ∈ namedValues env chance frames args, ∃ v, arg.2 = .ok v) ∧
      valuesOf (namedValues env chance frames args) = given := by
  induction h with
  | nil =>
    rw [Template.namedValues]
    exact ⟨fun arg harg => (List.not_mem_nil harg).elim, rfl⟩
  | cons name he h ih =>
    rw [Template.namedValues, he frames hframes, valuesOf, ih.2]
    refine ⟨fun arg harg => ?_, rfl⟩
    rcases List.mem_cons.1 harg with rfl | harg
    · exact ⟨_, rfl⟩
    · exact ih.1 arg harg

/-- Arguments that have values are passed on, in whatever order they are taken. -/
theorem GivesAll.arguments {args : List (String × Expr)} {given : Args}
    (h : GivesAll env view chance args given) (hframes : Knows env view frames) (order : Chance) :
    arguments order (Template.namedValues env chance frames args) = .ok given := by
  obtain ⟨hok, hvalues⟩ := h.namedValues hframes
  rw [arguments_of_ok order hok, hvalues]

/-- **A call comes to what the function makes of the arguments**, or it fails with what the function
says. -/
theorem GivesAll.eval_call {name : String} {run : Function} {args : List (String × Expr)}
    {given : Args} (hargs : GivesAll env view chance.ofArguments args given)
    (hname : env.function? name = some run) (hframes : Knows env view frames) :
    (Expr.plain (.call (.mk name args))).eval env chance frames =
      match run chance.ofCall given with
      | .ok v => .ok v
      | .error trace =>
        (env.scope frames).stop (.failure (.functionFailed name) :: trace.map .said) := by
  rw [eval_plain (fun _ h => by cases h), Operand.eval, Call.run, callFunction, hname]
  dsimp only
  rw [hargs.arguments hframes]
  show (pure given >>= _) = _
  rw [pure_bind]
  cases run chance.ofCall given with
  | ok v => rfl
  | error trace => rfl

namespace Gives

theorem name (hx : lookupEntry x view = some v) : Gives env chance view (.plain (.name x)) v := by
  intro frames hframes
  rw [eval_name, Scope.value, hframes.resolve hx]

theorem text (s : String) : Gives env chance view (.plain (.text s)) (.string s) := by
  intro frames _
  rw [eval_plain (fun _ h => by cases h), Operand.eval]
  rfl

theorem int (n : Int) : Gives env chance view (.plain (.int n)) (.number (.int n)) := by
  intro frames _
  rw [eval_plain (fun _ h => by cases h), Operand.eval]
  rfl

/-- A call gives what the function does. -/
theorem call {name : String} {run : Function} {args : List (String × Expr)} {given : Args}
    (hname : env.function? name = some run)
    (hargs : GivesAll env view chance.ofArguments args given)
    (hrun : run chance.ofCall given = .ok v) :
    Gives env chance view (.plain (.call (.mk name args))) v := by
  intro frames hframes
  rw [hargs.eval_call hname hframes, hrun]

/-- A name with a filter gives what the filter makes of it. -/
theorem filtered {name : String} {run : Filter} {args : List (String × Expr)} {given : Args}
    {w : Value} (hx : lookupEntry x view = some v) (hsafe : name ≠ "safe")
    (hdefault : name ≠ "default") (hname : Filter.find? name = some run)
    (hargs : GivesAll env view chance.ofFilterArguments args given) (hrun : run v given = .ok w) :
    Gives env chance view (.mk (.name x) false [.mk name args]) w := by
  intro frames hframes
  obtain ⟨-, hnull, -⟩ := hframes.found x v hx
  have hfilter : applyFilters env (chance.branch 1) frames [.mk name args] v = .ok w := by
    rw [applyFilters, if_neg (by simp [Call.name, hsafe, hdefault]), Call.filter, callFilter, hname]
    dsimp only
    rw [hargs.arguments hframes]
    show (do
      let u ← Result.causing (.filterFailed name) ((env.scope frames).lift (run v given))
      applyFilters env ((chance.branch 1).branch 1) frames [] u) = _
    rw [hrun]
    show applyFilters env ((chance.branch 1).branch 1) frames [] w = _
    rw [applyFilters_nil]
  rw [Expr.eval, nameValue_of_ok (hframes.resolve hx) hnull, hfilter]
  rfl

end Gives

/-- An expression fails wherever the names of a view have their values. -/
def Fails (env : Env) (chance : Chance) (view : View) (e : Expr) : Prop :=
  ∀ frames, Knows env view frames → ∃ fault, e.eval env chance frames = .error fault

namespace Fails

/-- Arguments fail if one of them does. -/
theorem exists_fault_of_mem {arg : String} {e : Expr} {args : List (String × Expr)}
    (hmem : (arg, e) ∈ args) (he : ∀ chance, Fails env chance view e)
    (hframes : Knows env view frames) (chance order : Chance) :
    ∃ fault, arguments order (namedValues env chance frames args) = .error fault := by
  have hfails : ∃ fault, (arg, .error fault) ∈ namedValues env chance frames args := by
    induction args generalizing chance with
    | nil => cases hmem
    | cons first rest ih =>
      obtain ⟨name, other⟩ := first
      rw [namedValues]
      rcases List.mem_cons.1 hmem with hfirst | hrest
      · cases hfirst
        obtain ⟨fault, hfault⟩ := he (chance.branch 0) frames hframes
        exact ⟨fault, hfault ▸ .head _⟩
      · obtain ⟨fault, hfault⟩ := ih hrest (chance.branch 1)
        exact ⟨fault, .tail _ hfault⟩
  obtain ⟨fault, hfault⟩ := hfails
  exact arguments_of_error order hfault rfl

/-- A call fails if the function does. -/
theorem call {name : String} {run : Function} {args : List (String × Expr)} {given : Args}
    {trace : Trace} (hname : env.function? name = some run)
    (hargs : GivesAll env view chance.ofArguments args given)
    (hrun : run chance.ofCall given = .error trace) :
    Fails env chance view (.plain (.call (.mk name args))) := by
  intro frames hframes
  rw [hargs.eval_call hname hframes, hrun]
  exact ⟨_, rfl⟩

/-- A name with a filter fails if an argument of the filter does. -/
theorem filtered {name arg : String} {run : Filter} {args : List (String × Expr)} {e : Expr}
    (hx : lookupEntry x view = some v) (hsafe : name ≠ "safe") (hdefault : name ≠ "default")
    (hname : Filter.find? name = some run) (hmem : (arg, e) ∈ args)
    (he : ∀ chance, Fails env chance view e) :
    Fails env chance view (.mk (.name x) false [.mk name args]) := by
  intro frames hframes
  obtain ⟨-, hnull, -⟩ := hframes.found x v hx
  obtain ⟨fault, harguments⟩ := exists_fault_of_mem hmem he hframes chance.ofFilterArguments
    ((chance.branch 1).branch 0 |>.branch 0)
  have hfilter : applyFilters env (chance.branch 1) frames [.mk name args] v =
      .error { fault with causes := .failure (.filterFailed name) :: fault.causes } := by
    rw [applyFilters, if_neg (by simp [Call.name, hsafe, hdefault]), Call.filter, callFilter, hname]
    dsimp only
    rw [harguments]
    rfl
  refine ⟨{ fault with causes := .failure (.filterFailed name) :: fault.causes }, ?_⟩
  rw [Expr.eval, nameValue_of_ok (hframes.resolve hx) hnull, hfilter]
  rfl

end Fails

/-! ## Conditions -/

/-- A condition has an outcome wherever the names of a view have their values. -/
def Decides (env : Env) (chance : Chance) (view : View) (c : Expr) (b : Bool) : Prop :=
  ∀ frames, Knows env view frames → c.truth env chance frames = .ok b

/-- Texts compare with each other. -/
theorem compareValues_string (different : Bool) (s t : String) :
    compareValues different (.string s) (.string t) = some ((s == t) != different) := by
  simp [compareValues, Value.same]

namespace Decides

theorem name (hx : lookupEntry x view = some v) :
    Decides env chance view (.plain (.name x)) v.truthy := by
  intro frames hframes
  obtain ⟨-, hnull, -⟩ := hframes.found x v hx
  rw [Expr.plain, truth_name_of_ok (hframes.resolve hx) hnull, Bool.bne_false]

/-- A name with a negation in front of it. -/
theorem not_name (hx : lookupEntry x view = some v) :
    Decides env chance view (.mk (.name x) true []) (!v.truthy) := by
  intro frames hframes
  obtain ⟨-, hnull, -⟩ := hframes.found x v hx
  rw [truth_name_of_ok (hframes.resolve hx) hnull, Bool.bne_true]

/-- A name with filters counts as true if what they make of it does. -/
theorem filtered {filters : List Call}
    (he : Gives env chance view (.mk (.name x) false filters) v) :
    Decides env chance view (.mk (.name x) false filters) v.truthy := by
  intro frames hframes
  have heval := he frames hframes
  rw [Expr.eval] at heval
  rw [Expr.truth, heval]
  rfl

/-- A name with filters that fail counts as false, and the failure is lost. -/
theorem failing {filters : List Call} (he : Fails env chance view (.mk (.name x) false filters)) :
    Decides env chance view (.mk (.name x) false filters) false := by
  intro frames hframes
  obtain ⟨fault, heval⟩ := he frames hframes
  rw [Expr.eval] at heval
  rw [Expr.truth, heval]
  rfl

/-- A text counts as true unless it is empty. -/
theorem text {s : String} (hx : lookupEntry x view = some (.string s)) :
    Decides env chance view (.plain (.name x)) (s != "") := name hx

theorem flag {b : Bool} (hx : lookupEntry x view = some (.bool b)) :
    Decides env chance view (.plain (.name x)) b := name hx

/-- A list counts as true unless it is empty. -/
theorem list {items : List String} (hx : lookupEntry x view = some (.array (items.map .string))) :
    Decides env chance view (.plain (.name x)) (items != []) := by
  have htruthy : (Value.array (items.map .string)).truthy = (items != []) := by
    cases items with
    | nil => rfl
    | cons s items => rfl
  rw [← htruthy]
  exact name hx

/-- A flag with a negation in front of it. -/
theorem not_flag {b : Bool} (hx : lookupEntry x view = some (.bool b)) :
    Decides env chance view (.mk (.name x) true []) (!b) := not_name hx

/-- An operand that is no name or concatenation, without a negation. -/
theorem truth_plain {o : Operand} (hname : ∀ path, o ≠ .name path)
    (hconcat : ∀ ps, o ≠ .concat ps) :
    (Expr.plain o).truth env chance frames = o.truth env (chance.branch 0) frames false := by
  rw [Expr.plain, Expr.truth.eq_3 _ _ _ _ _ _ (fun path h => hname path h)
    (fun ps h => hconcat ps h)]

theorem or {l r : Expr} {a b : Bool} (hl : Decides env chance.ofLeft view l a)
    (hr : Decides env chance.ofRight view r b) :
    Decides env chance view (.plain (.logic .or l r)) (a || b) := by
  intro frames hframes
  rw [truth_plain (fun _ h => by cases h) (fun _ h => by cases h), Operand.truth, combineTruth,
    hl frames hframes, hr frames hframes]
  cases a with
  | true => rfl
  | false => rfl

/-- Texts are compared as they are. -/
theorem compare {l r : Expr} {s t : String} {op : CompareOp} (hop : op = .eq ∨ op = .ne)
    (hl : Gives env chance.ofLeft view l (.string s))
    (hr : Gives env chance.ofRight view r (.string t)) :
    Decides env chance view (.plain (.compare op l r)) ((s == t) != (op == .ne)) := by
  intro frames hframes
  rw [truth_plain (fun _ h => by cases h) (fun _ h => by cases h), Operand.truth,
    compareTruth_equal hop, hl frames hframes, hr frames hframes]
  show Except.ok ((compareValues (op == .ne) (.string s) (.string t)).elim false
    (applyNegation false)) = _
  rw [compareValues_string]
  rfl

theorem eq {l r : Expr} {s t : String} (hl : Gives env chance.ofLeft view l (.string s))
    (hr : Gives env chance.ofRight view r (.string t)) :
    Decides env chance view (.plain (.compare .eq l r)) (s == t) := by
  have h := compare (.inl rfl) hl hr
  rwa [show (CompareOp.eq == .ne) = false from rfl, Bool.bne_false] at h

theorem ne {l r : Expr} {s t : String} (hl : Gives env chance.ofLeft view l (.string s))
    (hr : Gives env chance.ofRight view r (.string t)) :
    Decides env chance view (.plain (.compare .ne l r)) (s != t) := by
  have h := compare (.inr rfl) hl hr
  rwa [show (CompareOp.ne == .ne) = true from rfl, Bool.bne_true] at h

/-- Numbers are compared as doubles. -/
theorem eq_number {l r : Expr} {m n : Number} (hl : Gives env chance.ofLeft view l (.number m))
    (hr : Gives env chance.ofRight view r (.number n)) :
    Decides env chance view (.plain (.compare .eq l r)) (m.toFloat == n.toFloat) := by
  intro frames hframes
  rw [truth_plain (fun _ h => by cases h) (fun _ h => by cases h), Operand.truth,
    compareTruth_equal (.inl rfl), hl frames hframes, hr frames hframes]
  show Except.ok ((compareValues (CompareOp.eq == .ne) (.number m) (.number n)).elim false
    (applyNegation false)) = _
  rw [compareValues, show (CompareOp.eq == .ne) = false from rfl, Bool.bne_false]
  rfl

end Decides

/-! ## Nodes -/

/-- A node has a text, and leaves the frames as they are. -/
def Shows (env : Env) (chance : Chance) (view : View) (n : Node) (text : String) : Prop :=
  ∀ frames, Knows env view frames → renderNode env chance frames n = .ok ⟨text, frames, .normal⟩

/-- A body has a text, and leaves the frames as they are. -/
def Prints (env : Env) (chance : Chance) (view : View) (ns : List Node) (text : String) : Prop :=
  ∀ frames, Knows env view frames → renderNodes env chance frames ns = .ok ⟨text, frames, .normal⟩

theorem renderNodes_cons_of_ok {n : Node} {ns : List Node} {text : String} {inner : List Frame}
    (hn : renderNode env (chance.branch 0) frames n = .ok ⟨text, inner, .normal⟩) :
    renderNodes env chance frames (n :: ns) = (do
      let others ← renderNodes env (chance.branch 1) inner ns
      pure { others with text := text ++ others.text }) := by
  rw [renderNodes, hn]
  rfl

theorem Prints.nil : Prints env chance view [] "" := by
  intro frames _
  rw [renderNodes]
  rfl

/-- A body of a single node has its text. -/
theorem Prints.only {n : Node} {text : String} (hn : Shows env (chance.branch 0) view n text) :
    Prints env chance view [n] text := by
  intro frames hframes
  rw [renderNodes_cons_of_ok (hn frames hframes), Prints.nil frames hframes]
  show Except.ok _ = Except.ok _
  rw [String.append_empty]

theorem Prints.cons {n : Node} {ns : List Node} {s t : String}
    (hn : Shows env (chance.branch 0) view n s) (hns : Prints env (chance.branch 1) view ns t) :
    Prints env chance view (n :: ns) (s ++ t) := by
  intro frames hframes
  rw [renderNodes_cons_of_ok (hn frames hframes), hns frames hframes]
  rfl

/-- A body has a text, and changes nothing but what is assigned in the innermost frame. -/
def Adds (env : Env) (chance : Chance) (view : View) (ns : List Node) (text : String) : Prop :=
  ∀ frame outer, Knows env view (frame :: outer) →
    ∃ last, renderNodes env chance (frame :: outer) ns = .ok ⟨text, last :: outer, .normal⟩

/-- An assignment prints nothing. -/
theorem renderNode_assign {edges : Edges} {e : Expr} (he : Gives env chance view e v)
    (hframes : Knows env view frames) :
    renderNode env chance frames (.assign edges false x e) =
      .ok ⟨"", assignLocal x v frames, .normal⟩ := by
  rw [renderNode, he frames hframes]
  rfl

namespace Adds

theorem of_prints {ns : List Node} {text : String} (h : Prints env chance view ns text) :
    Adds env chance view ns text :=
  fun frame outer hframes => ⟨frame, h (frame :: outer) hframes⟩

/-- What follows an assignment in a body knows the value that was assigned. -/
theorem assign {edges : Edges} {e : Expr} {ns : List Node} {text : String} (hx : IsVariable x)
    (he : Gives env (chance.branch 0) view e v) (hv : v ≠ .null)
    (hns : Adds env (chance.branch 1) ((x, v) :: view) ns text) :
    Adds env chance view (.assign edges false x e :: ns) text := by
  intro frame outer hframes
  have hassigned := hframes.assign hx hv
  rw [assignLocal] at hassigned
  obtain ⟨last, hlast⟩ := hns _ outer hassigned
  refine ⟨last, ?_⟩
  rw [renderNodes_cons_of_ok (renderNode_assign he hframes), assignLocal, hlast]
  show Except.ok _ = Except.ok _
  rw [String.empty_append]

end Adds

/-- The branches of a condition have a text; what is left if none of them is taken draws apart from
them. -/
def Chooses (env : Env) (chance apart : Chance) (view : View) (otherwise : Option ElseBranch)
    (bs : List Branch) (text : String) : Prop :=
  ∀ frames, Knows env view frames →
    renderBranches env chance frames (fun _ => renderElse env apart frames otherwise) bs =
      .ok ⟨text, frames, .normal⟩

namespace Chooses

variable {apart : Chance}

/-- Without any branch there is no text. -/
theorem nothing : Chooses env chance apart view none [] "" := by
  intro frames _
  rw [renderBranches, renderElse]
  rfl

theorem otherwise {edges : Edges} {body : List Node} {text : String}
    (hbody : Prints env apart view body text) :
    Chooses env chance apart view (some (.mk edges body)) [] text := by
  intro frames hframes
  rw [renderBranches, renderElse, hbody frames hframes]

theorem cons {edges : Edges} {c : Expr} {b : Bool} {body : List Node} {bs : List Branch}
    {last : Option ElseBranch} {s t : String} (hc : Decides env (chance.branch 0) view c b)
    (hbody : Prints env (chance.branch 1) view body s)
    (hbs : Chooses env (chance.branch 2) apart view last bs t) :
    Chooses env chance apart view last (.mk edges c body :: bs) (if b then s else t) := by
  intro frames hframes
  rw [renderBranches, hc frames hframes]
  cases b with
  | true => exact hbody frames hframes
  | false => exact hbs frames hframes

/-- Behind a branch whose condition holds nothing matters. -/
theorem take {edges : Edges} {c : Expr} {body : List Node} {bs : List Branch}
    {last : Option ElseBranch} {text : String} (hc : Decides env (chance.branch 0) view c true)
    (hbody : Prints env (chance.branch 1) view body text) :
    Chooses env chance apart view last (.mk edges c body :: bs) text := by
  intro frames hframes
  rw [renderBranches, hc frames hframes]
  exact hbody frames hframes

/-- A branch whose condition fails does not matter. -/
theorem skip {edges : Edges} {c : Expr} {body : List Node} {bs : List Branch}
    {last : Option ElseBranch} {text : String} (hc : Decides env (chance.branch 0) view c false)
    (hbs : Chooses env (chance.branch 2) apart view last bs text) :
    Chooses env chance apart view last (.mk edges c body :: bs) text := by
  intro frames hframes
  rw [renderBranches, hc frames hframes]
  exact hbs frames hframes

end Chooses

namespace Shows

theorem text (s : String) : Shows env chance view (.text s) s := by
  intro frames _
  rw [renderNode]
  rfl

theorem print {edges : Edges} {e : Expr} {s : String} (he : Gives env chance view e (.string s)) :
    Shows env chance view (.print edges e) s := by
  intro frames hframes
  rw [renderNode, he frames hframes]
  show Except.ok _ = Except.ok _
  rw [Value.text_string]

theorem cond {closing : Edges} {otherwise : Option ElseBranch} {bs : List Branch} {text : String}
    (hbs : Chooses env (chance.branch 0) (chance.branch 1) view otherwise bs text) :
    Shows env chance view (.cond bs otherwise closing) text := by
  intro frames hframes
  rw [renderNode, hbs frames hframes]

/-- What the rounds of a loop print, one for each of some texts. -/
theorem runRounds_of_adds {item : String} (hitem : IsVariable item) {body : List Node}
    {f : String → String}
    (hbody : ∀ s {chance : Chance}, Adds env chance ((item, .string s) :: view) body (f s))
    (hframes : Knows env view frames) (count index : Nat) (items : List String) :
    runRounds none item count (fun chance inner => renderNodes env chance inner body) chance index
        (items.map fun s => ("", .string s)) frames =
      .ok ⟨String.join (items.map f), frames, .normal⟩ := by
  induction items generalizing index with
  | nil => rfl
  | cons s items ih =>
    obtain ⟨last, hround⟩ := hbody s _ _ (hframes.round hitem "" s index count)
    rw [List.map_cons, List.map_cons, runRounds]
    dsimp only
    rw [hround]
    show (do
      let others ← runRounds none item count (fun chance inner => renderNodes env chance inner body)
        chance (index + 1) (items.map fun s => ("", .string s)) frames
      pure (⟨f s ++ others.text, others.frames, .normal⟩ : Output)) = _
    rw [ih]
    show Except.ok _ = Except.ok _
    rw [String.join_cons]

/-- **A loop over texts** prints its body once for each of them, also if the body assigns. -/
theorem loop_adding {opening closing : Edges} {item container : String}
    (hitem : IsVariable item) {items : List String}
    (hcontainer : lookupEntry container view = some (.array (items.map .string)))
    {body : List Node} {f : String → String}
    (hbody : ∀ s {chance : Chance}, Adds env chance ((item, .string s) :: view) body (f s)) :
    Shows env chance view (.forLoop opening none item (.plain (.name container)) body none closing)
      (String.join (items.map f)) := by
  intro frames hframes
  rw [renderNode_loop_texts body fun _ => Gives.name hcontainer frames hframes]
  exact runRounds_of_adds hitem hbody hframes _ 0 items

/-- **A loop over texts prints its body once for each of them.** -/
theorem loop {opening closing : Edges} {item container : String} (hitem : IsVariable item)
    {items : List String}
    (hcontainer : lookupEntry container view = some (.array (items.map .string)))
    {body : List Node} {f : String → String}
    (hbody : ∀ s {chance : Chance}, Prints env chance ((item, .string s) :: view) body (f s)) :
    Shows env chance view (.forLoop opening none item (.plain (.name container)) body none closing)
      (String.join (items.map f)) :=
  loop_adding hitem hcontainer fun s => .of_prints (hbody s)

end Shows

/-! ## Templates -/

/-- A template has a text, whatever it assigns. -/
def Writes (env : Env) (chance : Chance) (view : View) (ns : List Node) (text : String) : Prop :=
  ∀ frames, Knows env view frames →
    ∃ after, renderNodes env chance frames ns = .ok ⟨text, after, .normal⟩

namespace Writes

theorem nil : Writes env chance view [] "" :=
  fun frames hframes => ⟨frames, Prints.nil frames hframes⟩

theorem of_eq {ns : List Node} {s t : String} (h : Writes env chance view ns s) (he : s = t) :
    Writes env chance view ns t := he ▸ h

/-- A template of a single node has its text. -/
theorem only {n : Node} {text : String} (hn : Shows env (chance.branch 0) view n text) :
    Writes env chance view [n] text :=
  fun frames hframes => ⟨frames, Prints.only hn frames hframes⟩

theorem cons {n : Node} {ns : List Node} {s t : String} (hn : Shows env (chance.branch 0) view n s)
    (hns : Writes env (chance.branch 1) view ns t) : Writes env chance view (n :: ns) (s ++ t) := by
  intro frames hframes
  obtain ⟨after, hafter⟩ := hns frames hframes
  refine ⟨after, ?_⟩
  rw [renderNodes_cons_of_ok (hn frames hframes), hafter]
  rfl

/-- **What follows an assignment** knows the value that was assigned. -/
theorem assign {edges : Edges} {e : Expr} {ns : List Node} {text : String} (hx : IsVariable x)
    (he : Gives env (chance.branch 0) view e v) (hv : v ≠ .null)
    (hns : Writes env (chance.branch 1) ((x, v) :: view) ns text) :
    Writes env chance view (.assign edges false x e :: ns) text := by
  intro frames hframes
  obtain ⟨after, hafter⟩ := hns _ (hframes.assign hx hv)
  refine ⟨after, ?_⟩
  rw [renderNodes_cons_of_ok (renderNode_assign he hframes), hafter]
  show Except.ok _ = Except.ok _
  rw [String.empty_append]

end Writes

end Template

end Scaffold
