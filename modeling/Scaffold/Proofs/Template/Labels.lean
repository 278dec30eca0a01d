import Scaffold.Proofs.Template.Rewording

/-!
# Pages under other names

The name of a page is a label: messages show it, and a page can insert itself by it. The key notions
are `staysWithin`, nodes that lead to no other part of their page, and `Unresolved.relabel`, a
failed look-up as it is worded on a page of another name. Main facts:

* `Page.read?_name` : a text is read the same under every name;
* `Scope.resolve_relabel` : a look-up comes to the same, its failure up to the label;
* `Engine.render_relabel` : a page that stays within itself is rendered to the same text under every
  name, or fails at the same place with the same causes up to the label.
-/

namespace Scaffold.Template

/-- Whether nodes lead to no other part of their page: they call no macro, hold no block and insert
nothing. -/
def staysWithin (nodes : List Node) : Bool := nodesReadOnly (fun _ => true) nodes

/-- A failed look-up as it is worded on a page of another name. -/
def Unresolved.relabel (page : String) : Unresolved → Unresolved
  | .name path _ => .name path page
  | .element path _ evaluated => .element path page evaluated
  | .inIndex path cause => .inIndex path (cause.relabel page)
  | .indexKind index path => .indexKind index path

/-- **A text is read the same under every name.** -/
theorem Page.read?_name (name other text : String) :
    Page.read? other text = (Page.read? name text).map fun page => ⟨other, page.nodes⟩ := by
  unfold Page.read?
  cases Tags.page text.toList with
  | none => rfl
  | some r =>
    obtain ⟨nodes, rest⟩ := r
    have hdefinitions : (Page.mk other (tidyNodes false false nodes)).definitions =
        (Page.mk name (tidyNodes false false nodes)).definitions := rfl
    dsimp only
    rw [hdefinitions]
    split
    · rfl
    · split
      · rfl
      · rfl

/-! ## Looking up -/

section Outcomes

variable {α β ε : Type} {ρ : ε → ε}

/-- Two steps whose failures are in other words fail in other words. -/
theorem bind_mapError {f f' : α → Except ε β} (h : ∀ a, f' a = (f a).mapError ρ)
    (x : Except ε α) : x.mapError ρ >>= f' = (x >>= f).mapError ρ := by
  cases x with
  | error e => rfl
  | ok a => exact h a

theorem foldlM_mapError {f f' : β → α → Except ε β} (h : ∀ b a, f' b a = (f b a).mapError ρ)
    (items : List α) (start : β) : items.foldlM f' start = (items.foldlM f start).mapError ρ := by
  induction items generalizing start with
  | nil => rfl
  | cons item items ih =>
    rw [List.foldlM_cons, List.foldlM_cons, h]
    exact bind_mapError (fun b => ih b) _

end Outcomes

theorem Scope.resolveAt_relabel (page other : String) (context : Context) (frames : List Frame)
    (depth : Nat) (path : String) :
    (Scope.mk other context frames).resolveAt depth path =
      ((Scope.mk page context frames).resolveAt depth path).mapError (·.relabel other) := by
  induction depth generalizing path with
  | zero => rfl
  | succ depth ih =>
    have hfind (path : String) : (Scope.mk other context frames).find? path =
        (Scope.mk page context frames).find? path := rfl
    rw [Scope.resolveAt, Scope.resolveAt]
    split
    · -- the indices first, which the induction is about, then the path without them
      rw [foldlM_mapError fun done index => ?_]
      · refine bind_mapError (fun evaluated => ?_) _
        dsimp only
        rw [hfind]
        cases (Scope.mk page context frames).find? (withoutBrackets evaluated) <;> rfl
      · rw [ih]
        cases (Scope.mk page context frames).resolveAt depth index with
        | error cause => rfl
        | ok v =>
          dsimp only [Except.mapError]
          cases indexText? v <;> rfl
    · rw [hfind]
      cases (Scope.mk page context frames).find? path <;> rfl

/-- **A look-up comes to the same on a page of another name**, its failure up to the label. -/
theorem Scope.resolve_relabel (page other : String) (context : Context) (frames : List Frame)
    (path : String) :
    (Scope.mk other context frames).resolve path =
      ((Scope.mk page context frames).resolve path).mapError (·.relabel other) := by
  have hvalue : (Scope.mk other context frames).toValue =
      (Scope.mk page context frames).toValue := rfl
  rw [Scope.resolve, Scope.resolve, hvalue]
  split
  · rfl
  · exact Scope.resolveAt_relabel page other context frames _ path

/-! ## Rendering -/

/-- Two answers for a page under two names: the same text, or failures at the same place with the
same causes up to the label. -/
inductive Relabelled (page other : String) : Except Trace String → Except Trace String → Prop
  | ok (out : String) : Relabelled page other (.ok out) (.ok out)
  | error (fault : Fault) : Relabelled page other
      (.error (headline page fault.site :: fault.trace))
      (.error (headline other fault.site :: (fault.reword (·.relabel other)).trace))

/-- **A page that stays within itself is rendered to the same text under every name**, or fails at
the same place with the same causes up to the label. -/
theorem Engine.render_relabel {nodes : List Node} (hnodes : staysWithin nodes = true)
    (page other : String) (function? : String → Option Function) (chance : Chance)
    (context : Context) :
    Relabelled page other ((Engine.mk ⟨page, nodes⟩ function? chance).render context)
      ((Engine.mk ⟨other, nodes⟩ function? chance).render context) := by
  let engine : Engine := ⟨⟨page, nodes⟩, function?, chance⟩
  let engine' : Engine := ⟨⟨other, nodes⟩, function?, chance⟩
  have hsame : SameUpTo (·.relabel other) (fun _ => true)
      ⟨⟨page, nodes⟩, context, function?, renderBodies engine context 999⟩
      ⟨⟨other, nodes⟩, context, function?, renderBodies engine' context 999⟩ :=
    ⟨rfl, fun path _ frames => Scope.resolve_relabel page other context frames path⟩
  have hbodies (chance : Chance) : Reworded (·.relabel other)
      (renderBodies engine context depthLimit chance [.ofKind .page] nodes)
      (renderBodies engine' context depthLimit chance [.ofKind .page] nodes) :=
    renderNodes_reworded hsame _ _ hnodes
  have hpage := hbodies (chance.branch context.length)
  rw [Engine.render, Engine.render]
  dsimp only
  generalize renderBodies engine context depthLimit _ [.ofKind .page] nodes = r,
    renderBodies engine' context depthLimit _ [.ofKind .page] nodes = r' at hpage
  cases hpage with
  | ok out => exact .ok out.text
  | error fault => exact .error fault

end Scaffold.Template
