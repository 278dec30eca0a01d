import Scaffold.Expansion.Fields
import Scaffold.Proofs.Expansion.Reporting
import Scaffold.Proofs.Template.Alike
import Scaffold.Proofs.Template.Noninterference

/-!
# Fields that an expansion does not read

An expansion of a template that does not read a field has the same outcome whatever the value of
this field is, on success and on every failure. The key notions are `Ignores`, a template that does
not read a name, and `Fields.AgreeOff`, fields that differ in one of them at most. Main facts:

* `expandText_of_ignores` : the template is expanded to the same text, or fails in the same way;
* `expandFields_of_ignores` : definitions by such templates are resolved to fields that still differ
  in this one only, or fail in the same way.
-/

namespace Scaffold

/-- Two containers with the same names differ in the value of one of them at most. -/
structure Fields.AgreeOff (x : String) (fields fields' : Fields) : Prop where
  keys : fields.keys = fields'.keys
  get? : ∀ y, y ≠ x → fields.get? y = fields'.get? y

namespace Fields.AgreeOff

variable {x : String} {fields fields' : Fields}

theorem insert (h : Fields.AgreeOff x fields fields') (name : String) {value value' : Field}
    (hvalue : name ≠ x → value = value') :
    Fields.AgreeOff x (fields.insert name value) (fields'.insert name value') := by
  refine ⟨?_, fun y hy => ?_⟩
  · rw [keys_insert, keys_insert, h.keys]
  rw [get?_insert, get?_insert, h.get? y hy]
  by_cases hname : name = y
  · rw [if_pos hname, if_pos hname, hvalue (hname ▸ hy)]
  · rw [if_neg hname, if_neg hname]

theorem empty (x : String) : Fields.AgreeOff x .empty .empty :=
  ⟨rfl, fun _ _ => rfl⟩

/-- Fields that are written one after another, in the same order, with one of them in two ways. -/
theorem insertAll (h : Fields.AgreeOff x fields fields') {entries entries' : List (String × Field)}
    (hentries : List.Forall₂ (fun e e' => e.1 = e'.1 ∧ (e.1 ≠ x → e.2 = e'.2)) entries entries') :
    Fields.AgreeOff x (fields.insertAll entries) (fields'.insertAll entries') := by
  induction hentries generalizing fields fields' with
  | nil => exact h
  | @cons e e' entries entries' hfirst _ ih =>
    obtain ⟨name, value⟩ := e
    obtain ⟨name', value'⟩ := e'
    obtain ⟨rfl, hvalue⟩ := hfirst
    exact ih (h.insert name hvalue)

end Fields.AgreeOff

namespace Expansion

open Template

/-- A template is read as nodes that do not read a name. -/
def Ignores (x template : String) : Prop :=
  ∃ nodes, Reads template nodes ∧ nodesReadOnly (avoids x) nodes = true

variable {x : String} {fields fields' : Fields} {context context' : Context}

/-- The contexts of fields that differ in one of them differ in it only. -/
theorem agreeOff_contextOf (h : Fields.AgreeOff x fields fields') :
    Context.AgreeOff x (contextOf fields) (contextOf fields') := by
  refine ⟨?_, fun y hy => ?_⟩
  · rw [length_contextOf, length_contextOf, h.keys]
  · rw [get?_contextOf, get?_contextOf, h.get? y hy]

/-- Names that are filled in are the same in both contexts. -/
theorem agreeOff_fillNames (h : Context.AgreeOff x context context') (names : List String) :
    Context.AgreeOff x (fillNames context names) (fillNames context' names) := by
  induction names generalizing context context' with
  | nil => exact h
  | cons name names ih => exact ih (h.bind name (.string ""))

/-- A renderer that does not tell two contexts apart fills in the same names. -/
theorem fillUndefined_same {render : Context → Except Trace String}
    (h : ∀ names, render (fillNames context names) = render (fillNames context' names))
    (budget : Nat) (filled : List String) :
    fillUndefined render context budget filled = fillUndefined render context' budget filled := by
  induction budget generalizing filled with
  | zero => rw [fillUndefined, fillUndefined, h]
  | succ budget ih =>
    rw [fillUndefined, fillUndefined, h]
    simp only [ih]

/-- **A template that ignores a field** is expanded to the same text, or fails in the same way,
whatever the value of the field is. -/
theorem expandText_of_ignores {template : String} (hignores : Ignores x template)
    (h : Fields.AgreeOff x fields fields') (registry : Registry) (around : Surroundings)
    (name : String) :
    expandText registry around name template fields =
      expandText registry around name template fields' := by
  obtain ⟨nodes, hreads, hnodes⟩ := hignores
  rw [expandText_of_page (hreads (givenName name)), expandText_of_page (hreads (givenName name)),
    renderFilled, renderFilled]
  rw [fillUndefined_same fun names =>
    Engine.render_same _ (agreeOff_fillNames (agreeOff_contextOf h) names) hnodes]

/-- Definitions by templates that ignore a name. -/
def IgnoredBy (x : String) (definitions : List Definition) : Prop :=
  ∀ d ∈ definitions, ∃ template, d.body = .expression template ∧ Ignores x template

theorem ignores_of_reads {template : String} {nodes : List Node} (h : Reads template nodes)
    (hnodes : nodesReadOnly (avoids x) nodes = true) : Ignores x template :=
  ⟨nodes, h, hnodes⟩

theorem IgnoredBy.nil : IgnoredBy x [] := fun _ h => by cases h

theorem IgnoredBy.cons {name template : String} {rest : List Definition}
    (h : Ignores x template) (hrest : IgnoredBy x rest) :
    IgnoredBy x (⟨name, .expression template⟩ :: rest) := by
  intro d hd
  rcases List.mem_cons.1 hd with rfl | hd
  · exact ⟨template, rfl, h⟩
  · exact hrest d hd

/-- Two outcomes are fields that differ in one of them at most, or the same failure. -/
inductive SameOutcome (x : String) :
    Except FieldFailure Fields → Except FieldFailure Fields → Prop
  | ok {fields fields' : Fields} (h : Fields.AgreeOff x fields fields') :
      SameOutcome x (.ok fields) (.ok fields')
  | error (failure : FieldFailure) : SameOutcome x (.error failure) (.error failure)

/-- **Definitions that ignore a field** are resolved to fields that differ in this one only, or fail
in the same way. -/
theorem expandFields_of_ignores {definitions : List Definition}
    (hignored : IgnoredBy x definitions) (h : Fields.AgreeOff x fields fields')
    (registry : Registry) (around : Surroundings) :
    SameOutcome x (expandFields registry around fields definitions)
      (expandFields registry around fields' definitions) := by
  induction definitions generalizing fields fields' around with
  | nil => exact .ok h
  | cons d rest ih =>
    obtain ⟨template, hbody, hignores⟩ := hignored d (.head _)
    have hvalue : valueOf (expandText registry (around.part 0)) fields d =
        valueOf (expandText registry (around.part 0)) fields' d := by
      rw [valueOf, valueOf, hbody]
      dsimp only
      rw [expandText_of_ignores hignores h]
    rw [expandFields, expandFields, hvalue]
    cases valueOf (expandText registry (around.part 0)) fields' d with
    | error failure => exact .error failure
    | ok value =>
      exact ih (fun other hother => hignored other (.tail d hother)) (h.insert d.name fun _ => rfl)
        (around.later 1)

end Expansion

end Scaffold
