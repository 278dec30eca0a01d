import Scaffold.Proofs.Expansion.Noninterference
import Scaffold.Proofs.Template.Labels

/-!
# Templates under other names

The name of a template is there to label errors, but an expansion searches the messages of a failed
render for the report of a missing name, and the first message shows the name of the template. The
key notion is `Interchangeable`, two names under which every template that stays within itself comes
to the same. Main facts:

* `reported?_relabel` : what a failed look-up reports does not depend on the name of the page;
* `interchangeable_iff` : names are interchangeable exactly if they report the same;
* `interchangeable_of_unmarked` : as all names without a marker do;
* `not_interchangeable_marked` : there is a name that makes a template fail.
-/

namespace Scaffold.Expansion

open Template

/-! ## Messages under other names -/

/-- **What a failed look-up reports** does not depend on the name of the page. -/
theorem reported?_relabel (page : String) (u : Unresolved) (before : List Char) :
    reported? (before ++ (u.relabel page).message.toList) =
      reported? (before ++ u.message.toList) := by
  induction u generalizing before with
  | name path own =>
    rw [Unresolved.relabel, toList_message_name, toList_message_name]
    exact reported?_wordsBefore before path _ _
  | element path own evaluated =>
    obtain ⟨rest, hrest⟩ := exists_message_element path evaluated
    rw [Unresolved.relabel, hrest, hrest]
    exact reported?_wordsBefore before path _ _
  | inIndex path cause ih =>
    have hmessage (cause : Unresolved) : (Unresolved.inIndex path cause).message.toList =
        ("Variable " ++ path ++ " can not be evaluated because: ").toList ++
          cause.message.toList := String.toList_append
    rw [Unresolved.relabel, hmessage, hmessage, ← List.append_assoc, ← List.append_assoc, ih]
  | indexKind index path => rfl

/-- The causes of a failure report the same up to the label. -/
theorem findSome?_relabel (other : String) (fault : Fault) :
    (fault.reword (·.relabel other)).trace.findSome? (fun message => reported? message.toList) =
      fault.trace.findSome? fun message => reported? message.toList := by
  have hcause (cause : Cause) : reported? (cause.reword (·.relabel other)).message.toList =
      reported? cause.message.toList := by
    cases cause with
    | unresolved u => exact reported?_relabel other u []
    | failure f => rfl
    | said message => rfl
  rw [Fault.trace, Fault.trace, Fault.reword, List.findSome?_map, List.findSome?_map,
    List.findSome?_map]
  exact congrArg (List.findSome? · fault.causes) (funext hcause)

/-! ## Rounds -/

/-- Two answers of renderers: the same text, or failures that report the same. -/
inductive ReportsAlike : Except Trace String → Except Trace String → Prop
  | ok (out : String) : ReportsAlike (.ok out) (.ok out)
  | error {trace trace' : Trace} (h : undefinedName? trace = undefinedName? trace') :
      ReportsAlike (.error trace) (.error trace')

/-- A page that stays within itself reports the same under names that do. -/
theorem render_reportsAlike {nodes : List Node} (hnodes : staysWithin nodes = true)
    {page other : String} (h : reported? page.toList = reported? other.toList)
    (function? : String → Option Function) (chance : Chance) (context : Context) :
    ReportsAlike ((Engine.mk ⟨page, nodes⟩ function? chance).render context)
      ((Engine.mk ⟨other, nodes⟩ function? chance).render context) := by
  have hrender := Engine.render_relabel hnodes page other function? chance context
  generalize (Engine.mk ⟨page, nodes⟩ function? chance).render context = answer,
    (Engine.mk ⟨other, nodes⟩ function? chance).render context = answer' at hrender
  cases hrender with
  | ok out => exact .ok out
  | error fault =>
    refine .error ?_
    rw [undefinedName?_eq, undefinedName?_eq, List.findSome?_cons, List.findSome?_cons,
      reported?_headline, reported?_headline, h, findSome?_relabel]

/-- **Renderers that report alike** end their rounds alike. -/
theorem fillUndefined_reportsAlike {render render' : Context → Except Trace String}
    (h : ∀ context, ReportsAlike (render context) (render' context)) (context : Context)
    (budget : Nat) (filled : List String) :
    ReportsAlike (fillUndefined render context budget filled).result
      (fillUndefined render' context budget filled).result := by
  induction budget generalizing filled with
  | zero => exact h _
  | succ budget ih =>
    have hround := h (fillNames context filled)
    rw [fillUndefined, fillUndefined]
    -- the same name is filled in, if any
    generalize render (fillNames context filled) = answer,
      render' (fillNames context filled) = answer' at hround
    cases hround with
    | ok out => exact .ok out
    | @error trace trace' hreport =>
      dsimp only
      rw [← hreport]
      cases hname : undefinedName? trace with
      | none => exact .error hreport
      | some name =>
        dsimp only
        split
        · exact .error hreport
        · exact ih _

/-! ## Names that are interchangeable -/

/-- A text is read as a template that stays within itself, if at all. -/
def StaysWithin (text : String) : Prop :=
  ∀ name page, Page.read? name text = some page → staysWithin page.nodes = true

/-- Two expansions came to the same text, or failed for a reason of the same kind. -/
inductive SameAnswer : Except Failure String → Except Failure String → Prop
  | ok (out : String) : SameAnswer (.ok out) (.ok out)
  | malformed (name name' : String) (complaint complaint' : Trace) :
      SameAnswer (.error (.malformed name complaint)) (.error (.malformed name' complaint'))
  | unrendered (name name' : String) (trace trace' : Trace) :
      SameAnswer (.error (.unrendered name trace)) (.error (.unrendered name' trace'))
  | unread (path path' : String) (cause cause' : Source.Fault) :
      SameAnswer (.error (.unread path cause)) (.error (.unread path' cause'))

/-- Whatever template that stays within itself goes by either of two names, with whatever functions
and fields: its expansions come to the same text, or fail for a reason of the same kind. -/
def Interchangeable (name other : String) : Prop :=
  ∀ (registry : Registry) (around : Surroundings) (text : String) (fields : Fields),
    StaysWithin text →
      SameAnswer (expandText registry around name text fields)
        (expandText registry around other text fields)

/-- The name that a template goes by reports what its own name does. -/
theorem reported?_givenName (name : String) :
    reported? (givenName name).toList = reported? name.toList := by
  unfold givenName
  split
  · rename_i hname
    subst hname
    decide
  · rfl

/-- Names that report the same are interchangeable. -/
theorem interchangeable_of_reported? {name other : String}
    (h : reported? name.toList = reported? other.toList) : Interchangeable name other := by
  intro registry around text fields hwithin
  have hgiven : reported? (givenName name).toList = reported? (givenName other).toList := by
    rw [reported?_givenName, reported?_givenName, h]
  have hname := Page.read?_name "" (givenName name) text
  have hother := Page.read?_name "" (givenName other) text
  cases hpage : Page.read? "" text with
  | none =>
    rw [hpage] at hname hother
    unfold expandText
    dsimp only
    rw [hname, hother]
    exact .malformed _ _ _ _
  | some page =>
    rw [hpage] at hname hother
    rw [expandText_of_page hname, expandText_of_page hother, renderFilled, renderFilled]
    have hresult := fillUndefined_reportsAlike
      (render_reportsAlike (hwithin _ page hpage) hgiven (functionFor registry around)
        around.chance)
      (contextOf fields) fillLimit []
    generalize (fillUndefined (Engine.mk ⟨givenName name, page.nodes⟩
        (functionFor registry around) around.chance).render (contextOf fields) fillLimit
        []).result = answer,
      (fillUndefined (Engine.mk ⟨givenName other, page.nodes⟩
        (functionFor registry around) around.chance).render (contextOf fields) fillLimit
        []).result = answer'
      at hresult
    cases hresult with
    | ok out => exact .ok out
    | error _ => exact .unrendered _ _ _ _

/-! ## Names that are told apart

What tells two names apart is a template that depends on what was filled in. A name that is reported
need not be one that templates can read, so the template shows its whole context to a function. -/

/-- What is shown of a context that has nothing but a name that is filled in. -/
def shownAlone (x : String) : String := Json.pretty (.ofEntries [(x, .string "")])

/-- Demands a name: fails with a report of it, unless it alone is shown to be filled in. -/
def demanding (x : String) : Args → Except Trace Value := fun args =>
  match lookupEntry "all" args with
  | some (.string all) =>
    if all = shownAlone x then .ok (.string "") else .error ["Variable `" ++ x ++ "`"]
  | _ => .error ["Variable `" ++ x ++ "`"]

/-- A template that shows its context to a function. -/
def demand : String := "\x7b\x7b demand(all=__tera_context) \x7d\x7d"

/-- The template as it is read. -/
def demandNodes : List Node :=
  [.print ⟨false, false⟩
    (.mk (.call (.mk "demand" [("all", .mk (.name Scope.contextName) false [])])) false [])]

theorem demanding_of_eq {x all : String} (h : all = shownAlone x) :
    demanding x [("all", .string all)] = .ok (.string "") := by
  rw [demanding, lookupEntry, if_pos rfl]
  dsimp only
  rw [if_pos h]

theorem demanding_of_ne {x all : String} (h : all ≠ shownAlone x) :
    demanding x [("all", .string all)] = .error ["Variable `" ++ x ++ "`"] := by
  rw [demanding, lookupEntry, if_pos rfl]
  dsimp only
  rw [if_neg h]

theorem reads_demand : Reads demand demandNodes := .of_spells (.literal _) (by decide +kernel)

theorem staysWithin_demand : StaysWithin demand := by
  intro name page hpage
  rw [reads_demand name] at hpage
  cases hpage
  rfl

/-- The template does what the function does with what is shown to it, if it leaves nothing to
chance. -/
theorem render_demand (page : String) {function? : String → Option Function}
    {function : Args → Except Trace Value}
    (hfunction : function? "demand" = some fun _ => function) (chance : Chance)
    (context : Context) :
    (Engine.mk ⟨page, demandNodes⟩ function? chance).render context =
      ((function [("all", .string (Json.pretty (.ofEntries context.reverse)))]).map
        Value.text).mapError fun trace =>
          headline page none :: "Function call 'demand' failed" :: trace := by
  let env : Env := ⟨⟨page, demandNodes⟩, context, function?,
    renderBodies ⟨⟨page, demandNodes⟩, function?, chance⟩ context 999⟩
  have hshown : (env.scope [.ofKind .page]).toValue = .ofEntries context.reverse :=
    congrArg Value.ofEntries (List.append_nil _)
  have hvalue (chance : Chance) :
      Expr.eval env chance [.ofKind .page] (.mk (.name Scope.contextName) false []) =
        .ok (.string (Json.pretty (.ofEntries context.reverse))) := by
    rw [Expr.eval, nameValue, Scope.resolve, if_pos rfl, hshown]
    rfl
  have hcall (chance : Chance) : Call.run env chance [.ofKind .page]
      (.mk "demand" [("all", .mk (.name Scope.contextName) false [])]) =
        (function [("all", .string (Json.pretty (.ofEntries context.reverse)))]).mapError
          fun trace => ⟨.failure (.functionFailed "demand") :: trace.map .said, none⟩ := by
    have hfound : env.function? "demand" = some fun _ => function := hfunction
    have harguments (order : Chance) : Result.causing (.functionFailed "demand")
        (arguments order [("all", .ok (.string (Json.pretty (.ofEntries context.reverse))))]) =
          .ok [("all", .string (Json.pretty (.ofEntries context.reverse)))] := by
      rw [arguments_of_ok order (by simp)]
      rfl
    rw [Call.run, namedValues, namedValues, hvalue, callFunction, hfound]
    dsimp only
    rw [harguments]
    dsimp only [bind, Except.bind]
    cases function [("all", .string (Json.pretty (.ofEntries context.reverse)))] <;> rfl
  have hbodies (drawn : Chance) :
      renderBodies ⟨⟨page, demandNodes⟩, function?, chance⟩ context depthLimit drawn
        [.ofKind .page] demandNodes = renderNodes env drawn [.ofKind .page] demandNodes := rfl
  rw [Engine.render, hbodies, demandNodes, renderNodes, renderNode,
    Expr.eval.eq_2 _ _ _ _ _ _ (fun _ h => by cases h), Operand.eval, hcall]
  cases function [("all", .string (Json.pretty (.ofEntries context.reverse)))] with
  | ok v => exact congrArg Except.ok String.append_empty
  | error trace =>
    have hsaid : (trace.map Cause.said).map Cause.message = trace := by
      rw [List.map_map]
      exact List.map_id trace
    show Except.error (headline page none :: "Function call 'demand' failed" ::
      (trace.map Cause.said).map Cause.message) = _
    rw [hsaid]
    rfl

/-! ### Showing a name -/

/-- Characters of names stand for themselves in quotes. -/
theorem quoted_of_isPlainName {x : String} (hx : isPlainName x.toList = true) :
    (Json.quoted x).toList = '"' :: x.toList ++ ['"'] := by
  have hescape : ∀ c ∈ x.toList, Json.escapeChar c = [c] := by
    intro c hc
    refine Json.escapeChar_of_plain ?_ ?_ ?_
    · rintro rfl
      exact not_mem_of_isPlainName hx (by decide) hc
    · rintro rfl
      exact not_mem_of_isPlainName hx (by decide) hc
    · by_contra hlow
      have hcontrol : ∀ n < 32, (Text.isAlphanumeric (Char.ofNat n) || Char.ofNat n == '_') =
          false := by decide
      have hc' := hcontrol c.toNat (by omega)
      rw [Char.ofNat_toNat] at hc'
      exact not_mem_of_isPlainName hx hc' hc
  rw [Json.quoted, String.toList_ofList, List.flatMap_congr hescape, List.flatMap_singleton']

theorem shownAlone_eq (x : String) : shownAlone x = "\x7b" ++ Json.newLine 1 ++
    (Json.quoted x ++ ": " ++ Json.quoted "") ++ Json.newLine 0 ++ "\x7d" :=
  rfl

/-- A context in which nothing is filled in is shown otherwise. -/
theorem ne_shownAlone (x : String) : Json.pretty (.ofEntries []) ≠ shownAlone x := by
  intro h
  have hlength := congrArg String.length h
  have hempty : (Json.pretty (.ofEntries [])).length = 2 := by decide
  have hline : (Json.newLine 1).length = 3 := by decide
  rw [shownAlone_eq] at hlength
  simp only [String.length_append] at hlength
  omega

/-- So is one in which another name is filled in. -/
theorem shownAlone_inj {x y : String} (hx : isPlainName x.toList = true)
    (hy : isPlainName y.toList = true) (h : shownAlone x = shownAlone y) : x = y := by
  rw [shownAlone_eq, shownAlone_eq] at h
  simp only [String.append_left_inj, String.append_right_inj] at h
  have hlist := congrArg String.toList h
  rw [quoted_of_isPlainName hx, quoted_of_isPlainName hy, List.cons_append, List.cons_append,
    List.cons_inj_right, List.append_left_inj, String.toList_inj] at hlist
  exact hlist

/-! ### Demanding a name -/

/-- The functions with one that demands a name. -/
def demandRegistry (x : String) : Registry := .ofList [("demand", fun _ => demanding x)]

/-- Whatever is reported of a name, or else the name that is demanded. -/
def reportFor (name x : String) : Option String := (reported? name.toList).getD (some x)

theorem isPlainName_of_reportFor {name x y : String} (hx : isPlainName x.toList = true)
    (h : reportFor name x = some y) : isPlainName y.toList = true := by
  unfold reportFor at h
  cases hreport : reported? name.toList with
  | none =>
    rw [hreport] at h
    cases h
    exact hx
  | some report =>
    rw [hreport] at h
    dsimp only [Option.getD_some] at h
    subst h
    exact isPlainName_of_reported? hreport

/-- The demand reports the name. -/
theorem reported?_demand {x : String} (hx : isPlainName x.toList = true) :
    reported? ("Variable `" ++ x ++ "`").toList = some (some x) := by
  have hmessage : ("Variable `" ++ x ++ "`").toList = marker ++ (x.toList ++ closing :: []) := by
    rw [String.toList_append, String.toList_append, List.append_assoc]
    rfl
  rw [hmessage]
  exact reported?_marker hx []

/-- The renders of the template under a name, with a name that is demanded. -/
def demandRender (name x : String) : Context → Except Trace String :=
  (Engine.mk ⟨givenName name, demandNodes⟩ (functionFor (demandRegistry x) nowhere)
    nowhere.chance).render

theorem functionFor_demand (x : String) :
    functionFor (demandRegistry x) nowhere "demand" = some fun _ => demanding x := by
  have hfind : (demandRegistry x).find? "demand" = some fun _ => demanding x := by
    rw [demandRegistry, Registry.ofList, List.foldl_cons, List.foldl_nil, Registry.find?_register,
      if_pos rfl]
  rw [functionFor, hfind]

/-- The name alone satisfies the demand. -/
theorem demandRender_alone (name x : String) :
    demandRender name x (fillNames (contextOf .empty) [x]) = .ok "" := by
  have hshown : Json.pretty (.ofEntries (fillNames (contextOf .empty) [x]).reverse) =
      shownAlone x := rfl
  rw [demandRender, render_demand _ (functionFor_demand x), demanding_of_eq hshown]
  rfl

/-- Whatever else is shown does not, and what is reported depends on the name of the template. -/
theorem demandRender_otherwise {x : String} (hx : isPlainName x.toList = true) (name : String)
    {context : Context} (hshown : Json.pretty (.ofEntries context.reverse) ≠ shownAlone x) :
    ∃ trace, demandRender name x context = .error trace ∧
      undefinedName? trace = reportFor name x := by
  have hheadline : reported? (headline (givenName name) none).toList = reported? name.toList := by
    have hbehind : reported? (wordsBehind none) = none := by decide
    rw [reported?_headline, reported?_givenName, hbehind, Option.or_none]
  have hcall : reported? "Function call 'demand' failed".toList = none := by decide
  refine ⟨[headline (givenName name) none, "Function call 'demand' failed",
    "Variable `" ++ x ++ "`"], ?_, ?_⟩
  · rw [demandRender, render_demand _ (functionFor_demand x), demanding_of_ne hshown]
    rfl
  · rw [undefinedName?_eq, List.findSome?_cons, List.findSome?_cons, List.findSome?_cons,
      hheadline, hcall, reported?_demand hx, reportFor]
    cases reported? name.toList with
    | none => rfl
    | some report => rfl

/-- **The demand is met** exactly if what is reported is the name that is demanded. -/
theorem expandText_demand {x : String} (hx : isPlainName x.toList = true) (name : String) :
    expandText (demandRegistry x) nowhere name demand .empty = .ok "" ↔
      reportFor name x = some x := by
  have hnothing : Json.pretty (.ofEntries (fillNames (contextOf .empty) []).reverse) ≠
      shownAlone x := ne_shownAlone x
  have hanother {y : String} (hy : isPlainName y.toList = true) (hne : y ≠ x) :
      Json.pretty (.ofEntries (fillNames (contextOf .empty) [y]).reverse) ≠ shownAlone x :=
    fun h => hne (shownAlone_inj hy hx h)
  -- the first round fails, since nothing is filled in yet
  obtain ⟨trace, hrender, hreport⟩ := demandRender_otherwise hx name hnothing
  rw [expandText_of_page (reads_demand (givenName name)), renderFilled]
  show (fillUndefined (demandRender name x) _ _ _).result.mapError _ = _ ↔ _
  rw [fillLimit, fillUndefined, hrender]
  dsimp only
  rw [hreport]
  cases hfirst : reportFor name x with
  | none =>
    constructor
    · intro h
      cases h
    · intro h
      cases h
  | some y =>
    have hy : isPlainName y.toList = true := isPlainName_of_reportFor hx hfirst
    dsimp only
    rw [if_neg (by simp), List.nil_append, fillUndefined]
    by_cases hyx : y = x
    · subst hyx
      rw [demandRender_alone]
      exact ⟨fun _ => rfl, fun _ => rfl⟩
    · -- the second round asks for the same name, which is filled in by then
      obtain ⟨trace', hrender', hreport'⟩ := demandRender_otherwise hx name (hanother hy hyx)
      rw [hrender']
      dsimp only
      rw [hreport', hfirst]
      dsimp only
      rw [if_pos (by simp)]
      constructor
      · intro h
        cases h
      · intro h
        exact absurd (Option.some.inj h) hyx

/-! ## The main results -/

theorem SameAnswer.ok_iff {a b : Except Failure String} (h : SameAnswer a b) (out : String) :
    a = .ok out ↔ b = .ok out := by
  cases h with
  | ok other => exact Iff.rfl
  | malformed name name' complaint complaint' => simp
  | unrendered name name' trace trace' => simp
  | unread path path' cause cause' => simp

/-- Interchangeable names report the same. -/
theorem reported?_of_interchangeable {name other : String} (h : Interchangeable name other) :
    reported? name.toList = reported? other.toList := by
  -- whatever name is demanded, both meet the demand or neither does
  have hdemand {x : String} (hx : isPlainName x.toList = true) :
      reportFor name x = some x ↔ reportFor other x = some x := by
    rw [← expandText_demand hx name, ← expandText_demand hx other]
    exact (h (demandRegistry x) nowhere demand .empty staysWithin_demand).ok_iff ""
  -- without a marker every demand is met, and no report meets two of them
  have hunmarked (report : Option String)
      (hall : ∀ x : String, isPlainName x.toList = true → report = some x) : False := by
    have ha := hall "a" (by decide)
    have hb := hall "b" (by decide)
    rw [ha] at hb
    exact absurd hb (by decide)
  unfold reportFor at hdemand
  cases hname : reported? name.toList with
  | none =>
    cases hother : reported? other.toList with
    | none => rfl
    | some report =>
      refine (hunmarked report fun x hx => ?_).elim
      have hmet := (hdemand hx).1
      rw [hname, hother] at hmet
      exact hmet rfl
  | some report =>
    cases hother : reported? other.toList with
    | none =>
      refine (hunmarked report fun x hx => ?_).elim
      have hmet := (hdemand hx).2
      rw [hname, hother] at hmet
      exact hmet rfl
    | some report' =>
      have hmet : ∀ x : String, isPlainName x.toList = true →
          (report = some x ↔ report' = some x) := by
        intro x hx
        have hiff := hdemand hx
        rwa [hname, hother] at hiff
      cases report with
      | some x => rw [(hmet x (isPlainName_of_reported? hname)).1 rfl]
      | none =>
        cases report' with
        | none => rfl
        | some y => cases (hmet y (isPlainName_of_reported? hother)).2 rfl

/-- **Names are interchangeable** exactly if they report the same: the name of a template labels its
errors and nothing more, unless it shows the marker. -/
theorem interchangeable_iff (name other : String) :
    Interchangeable name other ↔ reported? name.toList = reported? other.toList :=
  ⟨reported?_of_interchangeable, interchangeable_of_reported?⟩

/-- **Names without a marker are interchangeable.** -/
theorem interchangeable_of_unmarked {name other : String} (hname : ¬ marker <:+: name.toList)
    (hother : ¬ marker <:+: other.toList) : Interchangeable name other := by
  refine interchangeable_of_reported? ?_
  rw [reported?_eq_none_iff.2 hname, reported?_eq_none_iff.2 hother]

/-- **A name that makes a template fail**: its headline shows a marker without a name, so that a
missing variable is not filled in. -/
theorem not_interchangeable_marked :
    StaysWithin "\x7b\x7b x \x7d\x7d" ∧
      expandText .empty nowhere "t" "\x7b\x7b x \x7d\x7d" .empty = .ok "" ∧
      expandText .empty nowhere "Variable `" "\x7b\x7b x \x7d\x7d" .empty =
        .error (.unrendered "Variable `" ["Failed to render 'Variable `'",
          "Variable `x` not found in context while rendering 'Variable `'"]) ∧
      ¬ Interchangeable "t" "Variable `" := by
  have hreads : Reads "\x7b\x7b x \x7d\x7d" [.print ⟨false, false⟩ (.mk (.name "x") false [])] :=
    .of_spells (.literal _) (by decide +kernel)
  have hwithin : StaysWithin "\x7b\x7b x \x7d\x7d" := by
    intro name page hpage
    rw [hreads name] at hpage
    cases hpage
    rfl
  have hfilled : expandText .empty nowhere "t" "\x7b\x7b x \x7d\x7d" .empty = .ok "" :=
    eq_ok_of_toOption (by decide +kernel)
  have hfails : expandText .empty nowhere "Variable `" "\x7b\x7b x \x7d\x7d" .empty =
      .error (.unrendered "Variable `" ["Failed to render 'Variable `'",
        "Variable `x` not found in context while rendering 'Variable `'"]) := by
    decide +kernel
  refine ⟨hwithin, hfilled, hfails, fun h => ?_⟩
  have hanswer := h .empty nowhere "\x7b\x7b x \x7d\x7d" .empty hwithin
  rw [hfilled, hfails] at hanswer
  cases hanswer

end Scaffold.Expansion
