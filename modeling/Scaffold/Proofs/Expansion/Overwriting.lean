import Scaffold.Expansion.Basic
import Scaffold.Proofs.Expansion.Reports
import Scaffold.Proofs.Template.Missing

/-!
# Which fields an expansion overwrites

An expansion fills in the names that its renders report, and takes a report from the messages of a
failure. A message can name something that is defined, so that a field is overwritten with the
empty text. The key notion is `Mistakes`: a render reports a name that none of its look-ups has
missed. Main facts:

* `fillUndefined_reports` : every name filled in was reported by the render with those before it;
* `mistakes_of_reports` : a name that is defined is reported by mistake only;
* `expandText_keeps_fields_iff` : an expansion leaves all fields as they are exactly if none of its
  renders mistakes a field for a missing name;
* `expandText_overwrites_field` : there is an expansion that succeeds only because it overwrites a
  field.
-/

namespace Scaffold.Expansion

open Template

/-! ## Names that are filled in -/

/-- **Every name filled in** is new and was reported by the render with the names before it. -/
theorem fillUndefined_reports (render : Context → Except Trace String) (context : Context)
    (budget : Nat) (filled : List String) :
    ∃ more, (fillUndefined render context budget filled).names = filled ++ more ∧
      (filled.Nodup → (filled ++ more).Nodup) ∧
      ∀ earlier n later, more = earlier ++ n :: later →
        ∃ trace, render (fillNames context (filled ++ earlier)) = .error trace ∧
          undefinedName? trace = some n := by
  -- where no round follows, no name is added
  have hstop : ∀ names : List String, ∃ more, names = names ++ more ∧
      (names.Nodup → (names ++ more).Nodup) ∧
      ∀ earlier n later, more = earlier ++ n :: later →
        ∃ trace, render (fillNames context (names ++ earlier)) = .error trace ∧
          undefinedName? trace = some n := by
    intro names
    refine ⟨[], (List.append_nil names).symm, ?_, ?_⟩
    · rw [List.append_nil]
      exact id
    · intro earlier n later hmore
      cases earlier <;> cases hmore
  fun_induction fillUndefined render context budget filled with
  | case1 filled => exact hstop filled
  | case2 budget filled out _ => exact hstop filled
  | case3 budget filled trace _ _ => exact hstop filled
  | case4 budget filled trace _ name _ _ => exact hstop filled
  | case5 budget filled trace hrender name hname hnew ih =>
    -- the rounds that follow start with this name filled in as well
    obtain ⟨more, hnames, hnodup, hreports⟩ := ih
    have hfresh : name ∉ filled := by simpa using hnew
    refine ⟨name :: more, ?_, ?_, ?_⟩
    · rw [hnames, List.append_assoc, List.singleton_append]
    · intro hfilled
      rw [List.append_assoc, List.singleton_append] at hnodup
      refine hnodup ?_
      rw [List.nodup_append]
      refine ⟨hfilled, by simp, fun a ha b hb => ?_⟩
      rintro rfl
      rw [List.mem_singleton] at hb
      exact hfresh (hb ▸ ha)
    · intro earlier n later hmore
      cases earlier with
      | nil =>
        cases hmore
        rw [List.append_nil]
        exact ⟨trace, hrender, hname⟩
      | cons first earlier =>
        cases hmore
        have hlater := hreports earlier n later rfl
        rwa [List.append_assoc, List.singleton_append] at hlater

/-- A name that is reported has no points. -/
theorem no_point_of_undefinedName? {trace : Trace} {name : String}
    (h : undefinedName? trace = some name) : '.' ∉ name.toList :=
  not_mem_of_isPlainName (isPlainName_of_undefinedName? h) (by decide)

/-! ## Contexts of fields -/

/-- A name has a value among entries exactly if it is one of their names. -/
theorem isSome_lookupEntry_iff (name : String) (entries : List (String × Value)) :
    (lookupEntry name entries).isSome = true ↔ name ∈ entries.map Prod.fst := by
  induction entries with
  | nil => simp [lookupEntry]
  | cons entry entries ih =>
    obtain ⟨k, v⟩ := entry
    rw [lookupEntry, List.map_cons, List.mem_cons]
    by_cases hk : k = name
    · simp [hk]
    · rw [if_neg hk, ih]
      simp [Ne.symm hk]

/-- The context of some fields has their names. -/
theorem names_contextOf (fields : Fields) :
    (contextOf fields).map Prod.fst = fields.keys.reverse := by
  rw [contextOf, List.map_reverse, List.map_map]
  rfl

/-- A field is in the context. -/
theorem isSome_contextOf {fields : Fields} {name : String} (h : fields.contains name = true) :
    ((contextOf fields).get? name).isSome = true := by
  rw [Fields.contains_iff_mem_keys] at h
  rw [Context.get?, isSome_lookupEntry_iff, names_contextOf, List.mem_reverse]
  exact h

/-- Filling names in leaves the others as they are. -/
theorem get?_fillNames_of_not_mem (context : Context) {names : List String} {name : String}
    (h : name ∉ names) : (fillNames context names).get? name = context.get? name := by
  induction names generalizing context with
  | nil => rfl
  | cons n names ih =>
    simp only [List.mem_cons, not_or] at h
    rw [fillNames, List.foldl_cons, ← fillNames, ih _ h.2]
    exact Context.get?_bind_of_ne _ _ (Ne.symm h.1)

/-- What is in a context stays there when names are filled in. -/
theorem isSome_fillNames {context : Context} {name : String} (names : List String)
    (h : (context.get? name).isSome = true) :
    ((fillNames context names).get? name).isSome = true := by
  induction names generalizing context with
  | nil => exact h
  | cons n names ih =>
    rw [fillNames, List.foldl_cons, ← fillNames]
    refine ih ?_
    by_cases hn : n = name
    · subst hn
      rw [Context.get?_bind_self]
      rfl
    · rw [Context.get?_bind_of_ne _ _ hn]
      exact h

/-! ## Mistakes -/

/-- A page fails in a context. -/
def FailsWith (engine : Engine) (context : Context) (fault : Fault) : Prop :=
  renderBodies engine context depthLimit (engine.chance.branch context.length) [.ofKind .page]
    engine.page.nodes = .error fault

/-- The messages of a failure of a page. -/
def messagesOf (engine : Engine) (fault : Fault) : Trace :=
  headline engine.page.name fault.site :: fault.trace

theorem render_eq_error_iff {engine : Engine} {context : Context} {trace : Trace} :
    engine.render context = .error trace ↔
      ∃ fault, FailsWith engine context fault ∧ trace = messagesOf engine fault := by
  unfold Engine.render FailsWith
  constructor
  · intro h
    split at h
    · cases h
    · rename_i fault hfault
      cases h
      exact ⟨fault, hfault, rfl⟩
  · rintro ⟨fault, hfault, rfl⟩
    rw [hfault]
    rfl

/-- A page fails in a context with messages that report a name, but none of its look-ups has missed
the name. -/
def Mistakes (engine : Engine) (context : Context) (name : String) : Prop :=
  ∃ fault, FailsWith engine context fault ∧ undefinedName? (messagesOf engine fault) = some name ∧
    ∀ u, Cause.unresolved u ∈ fault.causes → ¬ u.Misses name

/-- **A name that is defined is reported by mistake only.** -/
theorem mistakes_of_reports {engine : Engine} {context : Context} {trace : Trace} {name : String}
    (hrender : engine.render context = .error trace) (hname : undefinedName? trace = some name)
    (hdefined : (context.get? name).isSome = true) : Mistakes engine context name := by
  obtain ⟨fault, hfault, rfl⟩ := render_eq_error_iff.1 hrender
  refine ⟨fault, hfault, hname, fun u hu hmisses => ?_⟩
  have hnone := renderBodies_truthful engine context depthLimit _ _ _ fault hfault u hu name
    (no_point_of_undefinedName? hname) hmisses
  rw [hnone] at hdefined
  cases hdefined

/-- **An expansion keeps the fields exactly if none of its renders mistakes a field for a missing
name.** Its text is that of a single render with the fields and the names filled in, each once. -/
theorem expandText_keeps_fields_iff {registry : Registry} {around : Surroundings}
    {name text out : String} {fields : Fields}
    (h : expandText registry around name text fields = .ok out) :
    ∃ page, Page.read? (givenName name) text = some page ∧
      let engine : Engine := ⟨page, functionFor registry around, around.chance⟩
      let names := (renderFilled engine.render (contextOf fields)).names
      engine.render (fillNames (contextOf fields) names) = .ok out ∧ names.Nodup ∧
        ((∀ n ∈ names, fields.contains n = false) ↔
          ∀ earlier n later, names = earlier ++ n :: later → fields.contains n = true →
            ¬ Mistakes engine (fillNames (contextOf fields) earlier) n) := by
  unfold expandText at h
  dsimp only at h
  cases hpage : Page.read? (givenName name) text with
  | none =>
    rw [hpage] at h
    cases h
  | some page =>
    rw [hpage] at h
    dsimp only at h
    refine ⟨page, rfl, ?_⟩
    intro engine names
    obtain ⟨more, hnames, hnodup, hreports⟩ :=
      fillUndefined_reports engine.render (contextOf fields) fillLimit []
    rw [List.nil_append] at hnames hnodup
    have hmore : names = more := hnames
    refine ⟨?_, ?_, ?_, ?_⟩
    · have hresult := result_eq engine.render (contextOf fields)
      split at h
      · rename_i out' hout
        cases h
        exact hresult.symm.trans hout
      · cases h
    · rw [hmore]
      exact hnodup List.nodup_nil
    · intro hkept earlier n later hsplit hfield
      have hn : n ∈ names := by
        rw [hsplit]
        simp
      rw [hkept n hn] at hfield
      cases hfield
    · -- a field that is filled in would have been mistaken
      intro hright n hn
      cases hfield : fields.contains n with
      | false => rfl
      | true =>
        obtain ⟨earlier, later, hsplit⟩ := List.append_of_mem hn
        obtain ⟨trace, htrace, hreport⟩ := hreports earlier n later (hmore ▸ hsplit)
        rw [List.nil_append] at htrace
        have hdefined := isSome_fillNames earlier (isSome_contextOf hfield)
        exact absurd (mistakes_of_reports htrace hreport hdefined)
          (hright earlier n later hsplit hfield)

/-- Nothing on the disk, no environment, the clock at its beginning, and chance standing still. -/
def nowhere : Surroundings := ⟨⟨[], []⟩, [], 0, .still, fun _ _ => []⟩

/-- A name that is missing is filled in. -/
theorem expandText_keeps_fields_of_missing :
    expandText .empty nowhere "t" "\x7b\x7b y \x7d\x7d" .empty = .ok "" ∧
      ∃ page names, Page.read? (givenName "t") "\x7b\x7b y \x7d\x7d" = some page ∧
        (Engine.mk page (functionFor .empty nowhere) nowhere.chance).render
          (fillNames (contextOf .empty) names) = .ok "" := by
  have hok : expandText .empty nowhere "t" "\x7b\x7b y \x7d\x7d" .empty = .ok "" :=
    eq_ok_of_toOption (by decide +kernel)
  obtain ⟨page, hpage, hrender, -⟩ := expandText_keeps_fields_iff hok
  exact ⟨hok, page, _, hpage, hrender⟩

/-! ## A field that is overwritten -/

/-- A template that uses a text as a number, and only if it is not empty. -/
def probe : String :=
  "\x7b% if x %\x7d\x7b\x7b x + 1 \x7d\x7d\x7b% else %\x7dok\x7b% endif %\x7d"

/-- Whether nodes begin with the condition of the probe and the sum under it. -/
def startsLikeProbe : List Node → Bool
  | .cond (.mk _ (.mk (.name "x") false []) (.print _ (.mk (.math .add
      (.mk (.name "x") false []) (.mk (.int 1) false [])) false []) :: _) :: _) _ _ :: _ => true
  | _ => false

/-- The name `x` is looked up in the context if nothing has been assigned. -/
theorem resolve_x {scope : Scope} (hframes : scope.frames = [.ofKind .page]) {v : Value}
    (hx : scope.context.get? "x" = some v) : scope.resolve "x" = .ok v := by
  have hpath : splitPath "x" = ("x", none) := splitPath_of_no_point (by decide)
  have hframe : findInFrames "x" scope.frames = none := by
    rw [hframes, findInFrames, Frame.find?, hpath]
    rfl
  have hfind : scope.find? "x" = some v := by
    rw [Scope.find?, hframe, hpath]
    dsimp only
    rw [hx]
    rfl
  rw [Scope.resolve, if_neg (by decide), Scope.resolveAt, if_neg (by decide), hfind]

/-- In a context where `x` is a text that is not empty, such nodes cannot be rendered. -/
theorem render_ne_ok_of_startsLikeProbe {engine : Engine} {context : Context}
    (hnodes : startsLikeProbe engine.page.nodes = true)
    (hx : context.get? "x" = some (.string "abc")) (out : String) :
    engine.render context ≠ .ok out := by
  let env : Env :=
    ⟨engine.page, context, engine.function?, renderBodies engine context 999⟩
  have hresolve : (env.scope [.ofKind .page]).resolve "x" = .ok (.string "abc") :=
    resolve_x rfl hx
  -- the name counts as true, so that the branch is taken, but it is no number
  have htruth (chance : Chance) :
      Expr.truth env chance [.ofKind .page] (.mk (.name "x") false []) = .ok true := by
    rw [Expr.truth, nameValue, hresolve]
    rfl
  have hnumber (chance : Chance) :
      Expr.number env chance [.ofKind .page] (.mk (.name "x") false []) =
        (env.scope [.ofKind .page]).fail (.nameNotNumeric "x") := by
    rw [Expr.number, Operand.number, Scope.value, hresolve]
    rfl
  unfold startsLikeProbe at hnodes
  split at hnodes
  · rename_i edges edges' body branches otherwise closing rest hshape
    have hrender (chance : Chance) :
        renderBodies engine context depthLimit chance [.ofKind .page] engine.page.nodes =
          .error ⟨[.failure (.nameNotNumeric "x")], none⟩ := by
      rw [hshape]
      show renderNodes env chance [.ofKind .page] _ = _
      rw [renderNodes, renderNode, renderBranches, htruth]
      show (do let out ← renderNodes env _ [.ofKind .page] _; _) = _
      rw [renderNodes, renderNode, Expr.eval.eq_2 _ _ _ _ _ _ (fun _ h => by cases h), Operand.eval,
        hnumber]
      rfl
    rw [Engine.render, hrender]
    intro h
    cases h
  · cases hnodes

/-- **An expansion that succeeds only because it overwrites a field**: the field `x` is defined,
and no render that leaves it as it is succeeds. -/
theorem expandText_overwrites_field :
    expandText .empty nowhere "t" probe (.ofList [("x", .text "abc")]) = .ok "ok" ∧
      ∃ page, Page.read? (givenName "t") probe = some page ∧
        ∀ names : List String, "x" ∉ names → ∀ out,
          (Engine.mk page (functionFor .empty nowhere) nowhere.chance).render
            (fillNames (contextOf (.ofList [("x", .text "abc")])) names) ≠ .ok out := by
  refine ⟨eq_ok_of_toOption (by decide +kernel), ?_⟩
  have hprobe : (Page.read? (givenName "t") probe).any (startsLikeProbe ·.nodes) = true := by
    decide +kernel
  rw [Option.any_eq_true] at hprobe
  obtain ⟨page, hpage, hnodes⟩ := hprobe
  refine ⟨page, hpage, fun names hx => render_ne_ok_of_startsLikeProbe hnodes ?_⟩
  rw [get?_fillNames_of_not_mem _ hx]
  rfl

end Scaffold.Expansion
