import Scaffold.Proofs.Template.Simple.Rendering

/-!
# Calls without arguments

A template that prints what a function gives: `calling` is how it is written, and a name can be
called unless it begins like a truth value (`IsCallable`), which would be read in its place. Main
facts:

* `logic_call` : a name in front of two parentheses is read as a call, whatever name it is;
* `read?_calling` : the page of such a template has the call as its only node;
* `run_call` : a call gives what its function gives;
* `render_calling` : the page prints it, or fails with what the function said.
-/

namespace Scaffold.Template

open Reader

namespace Grammar

/-- A name that can be called: it does not begin like a truth value. -/
structure IsCallable (n : String) : Prop where
  identifier : isIdentifier n = true
  no_literal : ∀ s ∈ literals, ¬ s.toList <+: n.toList

instance (n : String) : Decidable (IsCallable n) :=
  decidable_of_iff (isIdentifier n = true ∧ ∀ s ∈ literals, ¬ s.toList <+: n.toList)
    ⟨fun ⟨h₁, h₂⟩ => ⟨h₁, h₂⟩, fun h => ⟨h.identifier, h.no_literal⟩⟩

variable {n : String} {tail : List Char}

/-! ## Operands -/

/-- A name with two parentheses behind it. -/
def called (n : String) (tail : List Char) : List Char := n.toList ++ '(' :: ')' :: tail

variable (g : Sub)

/-- Nothing is given between two parentheses. -/
theorem argumentList_none (list : Reader Expr) (tail : List Char) :
    argumentList g list ('(' :: ')' :: tail) = some ([], tail) := by
  have hopen : token ['('] ('(' :: ')' :: tail) = some ((), ')' :: tail) := rfl
  have hspaces : spaces (')' :: tail) = some ((), ')' :: tail) := rfl
  have hname : name (')' :: tail) = none := rfl
  have hnone : maybe (arguments g list) (')' :: tail) = some (none, ')' :: tail) :=
    maybe_of_none (bind_of_none (bind_of_none hname))
  have hclose : token [')'] (')' :: tail) = some ((), tail) := rfl
  rw [argumentList, bind_of_some hopen, bind_of_some hspaces, bind_of_some hnone,
    bind_of_some hclose]
  rfl

theorem call_called (hn : isIdentifier n = true) (tail : List Char) :
    call g (called n tail) = some (.mk n [], tail) := by
  have hname : name (called n tail) = some (n, '(' :: ')' :: tail) := name_append hn (by decide) _
  rw [call, callWith, bind_of_some hname, bind_of_some (argumentList_none g _ tail), pure_apply]

/-- A name in front of a parenthesis is no truth value and is not tested. -/
theorem basicTerm_called (hn : IsCallable n) (tail : List Char) :
    basicTerm g (called n tail) = some (.call (.mk n []), tail) := by
  obtain ⟨c, cs, hcs, hc, -⟩ := exists_cons_of_isIdentifier hn.identifier
  -- everything that is tried before a call needs another character behind the name
  have hopen : literal ['('] (called n tail) = none := by
    rw [called, hcs]
    exact literal_of_ne _ _ (ne_of_isNameStart hc (by decide))
  have hbool : bool (called n tail) = none := bool_append hn.no_literal (by decide) _
  have hpath : path (called n tail) = some (n, '(' :: ')' :: tail) :=
    path_append hn.identifier (by decide) (by decide) (by decide) _
  have hname : name (called n tail) = some (n, '(' :: ')' :: tail) :=
    name_append hn.identifier (by decide) _
  have hfailing : failingTest g (called n tail) = none := by
    rw [failingTest, bind_of_some hpath]
    exact bind_of_none rfl
  have hpassing : passingTest g (called n tail) = none := by
    rw [passingTest, bind_of_some hpath]
    exact bind_of_none rfl
  have hmacro : macroCall g (called n tail) = none := by
    rw [macroCall, bind_of_some hname]
    exact bind_of_none rfl
  rw [basicTerm, orElse_of_none (bind_of_none hopen), basicValue,
    orElse_of_none (bind_of_none hbool), orElse_of_none hfailing, orElse_of_none hpassing,
    orElse_of_none hmacro, orElse_of_some]
  rw [bind_of_some (call_called g hn.identifier tail), pure_apply]

/-! ## Conditions and values -/

/-- A call is no text, and no concatenation if it ends there. -/
theorem filteredText_called (hn : isIdentifier n = true) (htail : Follower operandMarks tail) :
    filteredText g (called n tail) = none := by
  obtain ⟨c, cs, hcs, hc, -⟩ := exists_cons_of_isIdentifier hn
  have hpart : concatPart g (called n tail) = some (.call (.mk n []), tail) := by
    rw [concatPart, orElse_of_some]
    rw [bind_of_some (call_called g hn tail), pure_apply]
  have hquoted : quoted (called n tail) = none := by
    rw [called, hcs]
    exact quoted_of_isNameStart hc _
  exact filteredText_of_part g hpart hquoted htail

/-- **A name in front of two parentheses is a call**, also if it is a word or a variable
elsewhere. -/
theorem logic_call (hn : IsCallable n) (htail : Follower conditionMarks tail) :
    logic g (called n tail) = some (.plain (.call (.mk n [])), tail) := by
  have hitems : Follower itemMarks tail := htail.mono (by decide)
  have hsides : Follower sideMarks tail := htail.mono (by decide)
  have htext : filteredText g (called n tail) = none :=
    filteredText_called g hn.identifier (htail.mono (by decide))
  have hbasic : filteredBasic g (called n tail) = some (.plain (.call (.mk n [])), tail) :=
    filteredBasic_of_term g (basicTerm_called g hn tail) hsides
  have hitem : (filteredText g <|> filteredBasic g) (called n tail) =
      some (.plain (.call (.mk n [])), tail) := by
    rw [orElse_of_none htext]
    exact hbasic
  have hcompared : compared g (called n tail) = some (.plain (.call (.mk n [])), tail) :=
    compared_of_filteredBasic g htext hbasic (htail.mono (by decide))
  -- the parenthesis stands where a negation would need a blank
  have hnegation : negation (called n tail) = some (false, called n tail) :=
    negation_append hn.identifier (by decide) (fun _ => rfl) _
  have hspaces : spaces (called n tail) = some ((), called n tail) :=
    spaces_bare ((startsBare_name hn.identifier).append _)
  exact logic_of_value g (value_of_item g hnegation hspaces (membership_of_item g hitem hsides)
    (comparison_of_side g hcompared hitems)) htail

end Grammar

/-! ## Pages -/

open Grammar (IsCallable called logic_call startsBare_name)

variable {n : String}

/-- A template that prints what a function gives. -/
def calling (n : String) : String := "\x7b\x7b " ++ n ++ "() \x7d\x7d"

/-- The node of such a template. -/
def callNode (n : String) : Node := .print Simple.edges (.plain (.call (.mk n [])))

/-- The call is the only node that is taken off the template. -/
theorem page_calling (hn : IsCallable n) :
    Tags.page (calling n).toList = some ([callNode n], []) := by
  have hsource : (calling n).toList = Tags.printTag (n ++ "()") [] := by
    simp [calling, Tags.printTag]
  have hbare : Grammar.StartsBare (n ++ "()").toList := by
    rw [String.toList_append]
    exact (startsBare_name hn.identifier).append _
  have hcalled : (n ++ "()").toList ++ [' ', '}', '}'] = called n [' ', '}', '}'] := by
    simp [called]
  have hvalue : Grammar.expression ((n ++ "()").toList ++ [' ', '}', '}']) =
      some (.plain (.call (.mk n [])), [' ', '}', '}']) := by
    rw [hcalled]
    exact orElse_of_some (logic_call _ hn (.print []))
  have hnode := Tags.printNode_apply hbare hvalue
  rw [hsource]
  refine Tags.page_of_chain rfl (.step (Tags.node_print (by decide) hnode) ?_
    (.stop (Tags.node_stop .page)))
  simp [Tags.printTag]

theorem read?_calling (hn : IsCallable n) (name : String) :
    Page.read? name (calling n) = some ⟨name, [callNode n]⟩ := by
  refine read?_of_plain (page_calling hn) (fun m hm => ?_) name
  rw [List.mem_singleton.1 hm]
  exact Simple.isPlain_print _

/-! ## Rendering -/

variable {env : Env} {chance : Chance} {frames : List Frame} {f : Function}

/-- **A call gives what its function gives**; what the function said stands behind the failure of
the call. -/
theorem run_call (h : env.function? n = some f) :
    Call.run env chance frames (.mk n []) =
      match f (chance.branch 1) [] with
      | .ok v => .ok v
      | .error causes =>
        (env.scope frames).stop (.failure (.functionFailed n) :: causes.map .said) := by
  rw [Call.run, callFunction, h, namedValues]
  dsimp only
  show (match f (chance.branch 1) [] with
    | .ok v => pure v
    | .error causes =>
      (env.scope frames).stop (.failure (.functionFailed n) :: causes.map .said)) = _
  cases f (chance.branch 1) [] <;> rfl

theorem run_call_missing (h : env.function? n = none) :
    Call.run env chance frames (.mk n []) = (env.scope frames).fail (.noFunction n) := by
  rw [Call.run, callFunction, h]

/-- What a template that prints a call comes to, by the function that is called and what it draws
from. -/
def answerOf (drawn : Chance) (page n : String) : Option Function → Except Trace String
  | none => .error [headline page none, (Failure.noFunction n).message]
  | some f =>
    match f drawn [] with
    | .ok v => .ok v.text
    | .error causes => .error (headline page none :: (Failure.functionFailed n).message :: causes)

/-- What the function draws from that a page calls that has nothing but the call. -/
def drawnByCall (chance : Chance) (context : Context) : Chance :=
  (((chance.branch context.length).branch 0).branch 0).branch 1

/-- The node of a call prints what the call gives. -/
theorem renderNodes_callNode (env : Env) (chance : Chance) :
    renderNodes env chance pageFrames [callNode n] =
      (Call.run env ((chance.branch 0).branch 0) pageFrames (.mk n [])).map
        fun v => ⟨v.text, pageFrames, .normal⟩ := by
  rw [renderNodes, callNode, renderNode, eval_plain (fun _ => Operand.noConfusion), Operand.eval]
  cases Call.run env ((chance.branch 0).branch 0) pageFrames (.mk n []) with
  | error fault => rfl
  | ok v =>
    show (do
      let others ← renderNodes env (chance.branch 1) pageFrames []
      pure { others with text := v.text ++ others.text }) = _
    rw [renderNodes]
    show Except.ok _ = Except.ok _
    rw [String.append_empty]

/-- **A template that prints a call** comes to what the function of this name gives, in any
context. -/
theorem render_calling (page n : String) (function? : String → Option Function) (chance : Chance)
    (context : Context) :
    (Engine.mk ⟨page, [callNode n]⟩ function? chance).render context =
      answerOf (drawnByCall chance context) page n (function? n) := by
  obtain ⟨env, hpage, -, hfunction, hrender⟩ :=
    render_eq ⟨⟨page, [callNode n]⟩, function?, chance⟩ context
  dsimp only at hpage hfunction hrender
  rw [hrender, renderNodes_callNode]
  cases hf : function? n with
  | none =>
    rw [← hfunction] at hf
    rw [run_call_missing hf, answerOf]
    rfl
  | some f =>
    rw [← hfunction] at hf
    rw [run_call hf, answerOf, drawnByCall]
    cases f ((((chance.branch context.length).branch 0).branch 0).branch 1) [] with
    | ok v => rfl
    | error causes =>
      have hsaid : (causes.map Cause.said).map Cause.message = causes := by
        rw [List.map_map]
        exact List.map_id causes
      show Except.error (headline page none :: (Failure.functionFailed n).message ::
        (causes.map Cause.said).map Cause.message) = _
      rw [hsaid]

end Scaffold.Template
