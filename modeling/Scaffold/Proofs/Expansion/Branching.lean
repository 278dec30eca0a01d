import Scaffold.Proofs.Expansion.Simple
import Scaffold.Proofs.Template.Branching.Pass
import Scaffold.Proofs.Template.Branching.Rendering

/-!
# Expanding branching templates

A missing name in a condition is false by itself and an empty text in a comparison for being equal,
where it is filled in; a comparison by size has no use for an empty text, and the template cannot be
rendered. Main facts:

* `reportsMissing_branching` : the page of a template reports the names that a pass over it misses,
  one after the other;
* `expandText_of_pieces` : a template is expanded to the text of what a pass over it meets, unless
  it misses more names than are filled in;
* `exists_unrendered` : a template whose names are all missing cannot be rendered where a pass over
  it gets stuck;
* `expandText_branching` : so these templates are rendered unless a comparison by size is reached;
* `expandText_size` : a comparison of a missing name by size is enough for a template to fail.
-/

namespace Scaffold.Expansion

open Template

section Branching

variable {t : Branching} {data : Fields} {ps : List Piece} {name : String}

/-- **The page of a template reports the names that a pass over it misses**, one after the other. -/
theorem reportsMissing_branching (hread : t.Readable []) (hpieces : t.pieces data = some ps)
    {page : String} (hpage : ¬ marker <:+: page.toList) (function? : String → Option Function)
    (chance : Chance) :
    ReportsMissing (Engine.mk ⟨page, t.nodes⟩ function? chance).render (contextOf data)
      (missingOf ps) (Evaluation.ofPieces (missingOf ps) ps).text := by
  have hcontext : ∀ filled : List String, (∀ n ∈ filled, n ∈ missingOf ps) →
      ∀ x ∈ t.names, FillsAt data filled (fillNames (contextOf data) filled) x := by
    intro filled hfilled x _
    apply fillsAt_fillNames
    intro hx
    exact (Branching.of_mem_missingOf hpieces (hfilled x hx)).2
  constructor
  · intro filled hfilled hfind
    have hmem : ∀ x, x ∈ filled ↔ x ∈ missingOf ps := by
      intro x
      constructor
      · exact hfilled x
      · intro hx
        simpa using List.find?_eq_none.1 hfind x hx
    rw [render_pieces hread (hcontext filled hfilled) hpieces, hfind,
      Evaluation.ofPieces_congr hmem]
  · intro filled x hfilled hfind
    have hx : x ∈ t.names :=
      (Branching.of_mem_missingOf hpieces (List.mem_of_find?_eq_some hfind)).1
    refine ⟨_, ?_, undefinedName?_name hpage (Branching.isVariable_of_mem hread hx)⟩
    rw [render_pieces hread (hcontext filled hfilled) hpieces, hfind]

/-- **A template is expanded to the text of what a pass over it meets**, if it misses no more names
than are filled in. -/
theorem expandText_of_pieces (hread : t.Readable []) (hpieces : t.pieces data = some ps)
    (hcount : (missingOf ps).dedup.length ≤ 64) (hname : ¬ marker <:+: name.toList)
    (registry : Registry) (around : Surroundings) :
    expandText registry around name t.source data =
      .ok (Evaluation.ofPieces (missingOf ps) ps).text := by
  have hreports := reportsMissing_branching hread hpieces (not_isInfix_givenName hname)
    (functionFor registry around) around.chance
  obtain ⟨hle, -⟩ :=
    hreports.result_fillUndefined fillLimit [] fun n hn => absurd hn List.not_mem_nil
  have hremaining : remaining (missingOf ps) [] ≤ fillLimit := by
    rw [remaining, List.toFinset_nil, Finset.sdiff_empty, List.card_toFinset]
    exact hcount
  rw [expandText_of_page (Branching.read?_source hread (givenName name)), renderFilled,
    hle hremaining]
  rfl

/-- **A template whose names are all missing cannot be rendered** where a pass over it gets stuck:
whatever is filled in, the last render fails. -/
theorem exists_unrendered (hread : t.Readable []) (hnone : ∀ x ∈ t.names, data.get? x = none)
    (hpieces : t.pieces data = none) (name : String) (registry : Registry)
    (around : Surroundings) :
    ∃ trace, expandText registry around name t.source data =
      .error (.unrendered (givenName name) trace) := by
  let engine : Engine := ⟨⟨givenName name, t.nodes⟩, functionFor registry around, around.chance⟩
  have hrender : ∃ trace, (renderFilled engine.render (contextOf data)).result = .error trace := by
    rw [result_eq]
    have hcontext : ∀ x ∈ t.names, FillsAt data (renderFilled engine.render (contextOf data)).names
        (fillNames (contextOf data) (renderFilled engine.render (contextOf data)).names) x := by
      intro x hx
      exact fillsAt_fillNames fun _ => hnone x hx
    exact exists_error_render hread hcontext hpieces _ _ _
  obtain ⟨trace, htrace⟩ := hrender
  refine ⟨trace, ?_⟩
  rw [expandText_of_page (Branching.read?_source hread (givenName name)), htrace]
  rfl

/-- **Missing names make a template fail only where a comparison by size is reached.** Otherwise a
missing name in a condition is false, or an empty text if it is compared, and the template is
expanded to the text of a single pass over it; then it cannot be rendered. -/
theorem expandText_branching (hread : t.Readable []) (hnone : ∀ x ∈ t.names, data.get? x = none)
    (hcount : t.names.dedup.length ≤ 64) (hname : ¬ marker <:+: name.toList) (registry : Registry)
    (around : Surroundings) :
    (∀ ps, t.pieces data = some ps → expandText registry around name t.source data =
      .ok (Evaluation.ofPieces (missingOf ps) ps).text) ∧
    (t.pieces data = none → ∃ trace, expandText registry around name t.source data =
      .error (.unrendered (givenName name) trace)) := by
  constructor
  · intro ps hpieces
    have hsubset : (missingOf ps).dedup ⊆ t.names.dedup := by
      intro x hx
      rw [List.mem_dedup] at hx ⊢
      exact (Branching.of_mem_missingOf hpieces hx).1
    have hle := ((missingOf ps).nodup_dedup.subperm hsubset).length_le
    exact expandText_of_pieces hread hpieces (hle.trans hcount) hname registry around
  · intro hpieces
    exact exists_unrendered hread hnone hpieces name registry around

end Branching

/-- A template with comparisons, of which the one by size is not reached if no name is known. -/
def sidestep : Branching :=
  .cond "" (.logic .and
      (.group (.logic .or (.name false "a") (.compare false .eq (.name "b") (.text '"' ""))))
      (.name true "c"))
    (.print "<" "d" none (.done ">"))
    (.cond "" (.compare false .lt (.name "d") (.int "1")) (.done "x") (.done "y") (.done ""))
    (.done "!")

/-- The first body is chosen, where a name is missed again. -/
theorem expandText_branching_sidestep :
    sidestep.source =
        "\x7b% if (a or b == \"\") and not c %\x7d<\x7b\x7b d \x7d\x7d>\x7b% else %\x7d" ++
          "\x7b% if d < 1 %\x7dx\x7b% else %\x7dy\x7b% endif %\x7d\x7b% endif %\x7d!" ∧
      expandText .empty nowhere "t" sidestep.source .empty = .ok "<>!" := by
  have hread : sidestep.Readable [] := by decide +kernel
  have hpieces : sidestep.pieces .empty =
      some [.shown "", .missed "b", .shown "<", .missed "d", .shown ">", .shown "!"] := by
    decide +kernel
  have hname : ¬ marker <:+: "t".toList := by decide
  have hnone : ∀ x ∈ sidestep.names, Fields.empty.get? x = none := by decide
  obtain ⟨hexpand, -⟩ := expandText_branching hread hnone (by decide) hname .empty nowhere
  exact ⟨by decide +kernel, hexpand _ hpieces⟩

/-! ## Comparisons by size -/

/-- A template that compares a name by size. -/
def bySize : Branching :=
  .cond "" (.compare false .lt (.name "x") (.int "1")) (.done "a") (.done "b") (.done "")

/-- **A comparison of a missing name by size makes a template fail**, where the missing name should
be false. -/
theorem expandText_size :
    bySize.source = "\x7b% if x < 1 %\x7da\x7b% else %\x7db\x7b% endif %\x7d" ∧
      ∃ trace, expandText .empty nowhere "t" bySize.source .empty =
        .error (.unrendered "t" trace) := by
  have hread : bySize.Readable [] := by decide +kernel
  have hnone : ∀ x ∈ bySize.names, Fields.empty.get? x = none := by decide
  obtain ⟨trace, htrace⟩ := exists_unrendered hread hnone rfl "t" .empty nowhere
  exact ⟨by decide +kernel, trace, htrace⟩

end Scaffold.Expansion
