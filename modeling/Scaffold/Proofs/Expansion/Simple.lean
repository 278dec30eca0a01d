import Scaffold.Proofs.Expansion.Reporting

/-!
# Expanding simple templates

A simple template is rendered again and again, each time with one more of its missing names filled
in, and yet comes to what a single pass over it gives. Main facts:

* `reportsMissing_nodes` : the page of a template reports the names that its evaluation misses, one
  after the other;
* `expandText_source` : a template is expanded to what it is evaluated to, unless it misses more
  names than are filled in;
* `expandText_literal` : there is a name that cannot be printed, for it begins like a truth value.
-/

namespace Scaffold.Expansion

open Template
open Grammar (isIdentifier literals)

/-- The name that a template goes by shows the marker only if its own name does. -/
theorem not_isInfix_givenName {name : String} (h : ¬ marker <:+: name.toList) :
    ¬ marker <:+: (givenName name).toList := by
  unfold givenName
  split
  · decide
  · exact h

/-- **The page of a template reports the names that its evaluation misses**, one after the other. -/
theorem reportsMissing_nodes {t : Simple} (hread : t.Readable) {data : Fields}
    (hloops : t.LoopsOverLists data []) {page : String} (hpage : ¬ marker <:+: page.toList)
    (function? : String → Option Function) (chance : Chance) :
    ReportsMissing (Engine.mk ⟨page, t.nodes ""⟩ function? chance).render (contextOf data)
      (t.evaluate data []).missing (t.evaluate data []).text where
  fills filled hfilled hfind := by
    have hfills := fills_fillNames fun n hn => (Simple.of_mem_missing hread (hfilled n hn)).2
    rw [render_nodes hread hloops hfills, hfind]
  reports filled x hfilled hfind := by
    have hfills := fills_fillNames fun n hn => (Simple.of_mem_missing hread (hfilled n hn)).2
    have hx : x ∈ (t.evaluate data []).missing := List.mem_of_find?_eq_some hfind
    refine ⟨_, ?_, undefinedName?_name hpage (Simple.of_mem_missing hread hx).1⟩
    rw [render_nodes hread hloops hfills, hfind]

/-- **A template of texts, printed names, conditions and loops is expanded to what it is evaluated
to**, its missing names read as empty texts, if no more than 64 of them are missed where they are
printed or looped over; otherwise it cannot be rendered. -/
theorem expandText_source {t : Simple} (hread : t.Readable) {data : Fields}
    (hloops : t.LoopsOverLists data []) {name : String} (hname : ¬ marker <:+: name.toList)
    (registry : Registry) (around : Surroundings) :
    ((t.evaluate data []).missing.dedup.length ≤ 64 →
      expandText registry around name t.source data = .ok (t.evaluate data []).text) ∧
    (64 < (t.evaluate data []).missing.dedup.length →
      ∃ trace, expandText registry around name t.source data =
        .error (.unrendered (givenName name) trace)) := by
  have hreports := reportsMissing_nodes hread hloops (not_isInfix_givenName hname)
    (functionFor registry around) around.chance
  obtain ⟨hle, hlt⟩ :=
    hreports.result_fillUndefined fillLimit [] fun n hn => absurd hn List.not_mem_nil
  have hcount : remaining (t.evaluate data []).missing [] =
      (t.evaluate data []).missing.dedup.length := by
    rw [remaining, List.toFinset_nil, Finset.sdiff_empty, List.card_toFinset]
  rw [hcount] at hle hlt
  rw [expandText_of_page (Simple.read?_source hread (givenName name)), renderFilled]
  refine ⟨fun h => ?_, fun h => ?_⟩
  · rw [hle h]
    rfl
  · obtain ⟨trace, htrace⟩ := hlt h
    refine ⟨trace, ?_⟩
    rw [htrace]
    rfl

/-- A template with a loop that hides a field, a condition, and a name that is missing. -/
def roundTrip : Simple :=
  .loop "v" "items" (.print "v" (.text "-" (.print "gone" .done)))
    (.cond "on" (.print "v" .done) (.text "off" .done) (.print "gone" .done))

/-- The data of this template. -/
def roundTripData : Fields :=
  .ofList [("v", .text "field"), ("items", .list ["a", "b"]), ("on", .flag true)]

/-- The name that is missing is filled in once, for all rounds of the loop and what is behind it. -/
theorem expandText_source_of_loop :
    roundTrip.evaluate roundTripData [] = ⟨"a-b-field", ["gone", "gone", "gone"]⟩ ∧
      expandText .empty nowhere "t" roundTrip.source roundTripData = .ok "a-b-field" := by
  have hbody : (Simple.print "v" (.text "-" (.print "gone" .done))).Readable :=
    ⟨by decide, by decide, by decide, trivial⟩
  have hafter : (Simple.cond "on" (.print "v" .done) (.text "off" .done)
      (.print "gone" .done)).Readable :=
    ⟨by decide, ⟨by decide, trivial⟩, ⟨by decide, trivial⟩, ⟨by decide, trivial⟩⟩
  have hread : roundTrip.Readable := ⟨by decide, by decide, hbody, hafter⟩
  have hloops : roundTrip.LoopsOverLists roundTripData [] :=
    ⟨by decide, .inr ⟨["a", "b"], rfl⟩, trivial, trivial, trivial, trivial⟩
  have hname : ¬ marker <:+: "t".toList := by decide
  have hevaluate : roundTrip.evaluate roundTripData [] =
      ⟨"a-b-field", ["gone", "gone", "gone"]⟩ := by decide +kernel
  obtain ⟨hexpand, -⟩ := expandText_source hread hloops hname .empty nowhere
  rw [hevaluate] at hexpand
  exact ⟨hevaluate, hexpand (by decide)⟩

/-! ## Names that begin like truth values -/

/-- **A name that begins like a truth value cannot be printed**, although it is none, and has no
other meaning of its own. -/
theorem expandText_literal :
    isIdentifier "trueish" = true ∧ "trueish" ∉ literals ∧
      "trueish" ∉ ["and", "or", "not", "in", "is", "loop", "__tera_context"] ∧
      ¬ marker <:+: "t".toList ∧
      (Simple.print "trueish" .done).evaluate .empty [] = ⟨"", ["trueish"]⟩ ∧
      expandText .empty nowhere "t" (Simple.print "trueish" .done).source .empty =
        .error (.malformed "t"
          (nowhere.complaint "t" (Simple.print "trueish" .done).source)) := by
  refine ⟨by decide, by decide, by decide, by decide, rfl, ?_⟩
  have hpage : Page.read? (givenName "t") (Simple.print "trueish" .done).source = none := by
    rw [← Option.isNone_iff_eq_none]
    decide +kernel
  unfold expandText
  dsimp only
  rw [hpage]
  rfl

end Scaffold.Expansion
