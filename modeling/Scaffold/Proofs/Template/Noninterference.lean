import Scaffold.Proofs.Template.Rewording

/-!
# Names that a template does not read

What a template prints, and how it fails, depends on the names that it reads and on nothing else of
the context. The key notion is `SameOn`, two environments in which the allowed names mean the same.
Main facts:

* `renderNodes_same` : nodes that read allowed names only print the same;
* `Engine.render_same` : a page that does not read a name is rendered to the same text, or fails in
  the same way, whatever the value of the name is.
-/

namespace Scaffold.Template

/-! ## Environments in which they mean the same -/

/-- Two environments differ in the meaning of names that are not allowed only. -/
structure SameOn (allowed : String → Bool) (env env' : Env) : Prop where
  function? : env.function? = env'.function?
  resolve : ∀ path, allowed path = true → ∀ frames,
    (env.scope frames).resolve path = (env'.scope frames).resolve path

variable {allowed : String → Bool} {env env' : Env}

/-- Failed look-ups of allowed names have the same words, too. -/
theorem SameOn.sameUpTo (h : SameOn allowed env env') : SameUpTo id allowed env env' where
  function? := h.function?.symm
  resolve path hpath frames := by
    rw [h.resolve path hpath frames]
    cases (env'.scope frames).resolve path <;> rfl

/-- **Nodes print the same**, and leave the same frames. -/
theorem renderNodes_same (h : SameOn allowed env env') (chance : Chance) (frames : List Frame)
    (nodes : List Node) (hnodes : nodesReadOnly allowed nodes = true) :
    renderNodes env chance frames nodes = renderNodes env' chance frames nodes :=
  (renderNodes_reworded h.sameUpTo frames nodes hnodes).eq_of_id

/-! ## Contexts that differ in one name -/

/-- A path that leads from another name than the given one, without brackets. -/
def avoids (x path : String) : Bool :=
  path != Scope.contextName && !path.toList.contains '[' && (splitPath path).1 != x

/-- Two contexts of the same size differ in the value of one name at most. -/
structure Context.AgreeOff (x : String) (context context' : Context) : Prop where
  length : context.length = context'.length
  get? : ∀ y, y ≠ x → context.get? y = context'.get? y

variable {x : String} {context context' : Context}

theorem Context.AgreeOff.bind (h : Context.AgreeOff x context context') (name : String)
    (value : Value) : Context.AgreeOff x (context.bind name value) (context'.bind name value) := by
  refine ⟨congrArg (· + 1) h.length, fun y hy => ?_⟩
  by_cases hname : name = y
  · subst hname
    rw [get?_bind_self, get?_bind_self]
  · rw [get?_bind_of_ne _ _ hname, get?_bind_of_ne _ _ hname, h.get? y hy]

/-- **A path that avoids the name** means the same in both contexts. -/
theorem resolve_of_avoids (h : Context.AgreeOff x context context') {path : String}
    (hpath : avoids x path = true) (page : String) (frames : List Frame) :
    (Scope.mk page context frames).resolve path = (Scope.mk page context' frames).resolve path := by
  rw [avoids, Bool.and_eq_true, Bool.and_eq_true, bne_iff_ne, bne_iff_ne,
    Bool.not_eq_true'] at hpath
  obtain ⟨⟨hname, hbracket⟩, hfirst⟩ := hpath
  have hfind : (Scope.mk page context frames).find? path =
      (Scope.mk page context' frames).find? path := by
    rw [Scope.find?, Scope.find?]
    dsimp only
    rw [h.get? _ hfirst]
  rw [Scope.resolve, Scope.resolve, if_neg hname, if_neg hname, Scope.resolveAt, Scope.resolveAt,
    hbracket, if_neg Bool.false_ne_true, if_neg Bool.false_ne_true, hfind]

/-- **A page that does not read a name** is rendered to the same text, or fails in the same way,
whatever the value of the name is. -/
theorem Engine.render_same (engine : Engine) (h : Context.AgreeOff x context context')
    (hnodes : nodesReadOnly (avoids x) engine.page.nodes = true) :
    engine.render context = engine.render context' := by
  have hsame : SameOn (avoids x)
      ⟨engine.page, context, engine.function?, renderBodies engine context 999⟩
      ⟨engine.page, context', engine.function?, renderBodies engine context' 999⟩ :=
    ⟨rfl, fun path hpath frames => resolve_of_avoids h hpath _ frames⟩
  have hbodies (chance : Chance) :
      renderBodies engine context depthLimit chance [.ofKind .page] engine.page.nodes =
        renderBodies engine context' depthLimit chance [.ofKind .page] engine.page.nodes :=
    renderNodes_same hsame chance _ _ hnodes
  rw [Engine.render, Engine.render, h.length, hbodies]

end Scaffold.Template
