import Scaffold.Expansion.Fields
import Scaffold.Proofs.Expansion.Reporting
import Scaffold.Proofs.Template.Alike
import Scaffold.Proofs.Template.Printing

/-!
# Expanding templates whose names are all there

A template that is put together from fields that there are is expanded by its first render. The key
notion is `Supplies`, the entries that fields are known to have. Main facts:

* `Supplies.insert` : a field that is written is known, and the others keep their values;
* `expandText_of_writes` : a template that writes a text with the entries as its view, drawing from
  the branch that is the number of the fields, is expanded to this text;
* `Resolves.cons` : what a definition by a template adds to the entries.
-/

namespace Scaffold.Expansion

open Template
open Grammar (IsVariable)

/-- Fields have the names of some entries, which are names of variables, and of each name the value
of the latest entry. The latest entry comes first. -/
structure Supplies (fields : Fields) (entries : List (String × Field)) : Prop where
  names : ∀ x, x ∈ fields.keys ↔ x ∈ entries.map Prod.fst
  held : ∀ x field, Field.find x entries = some field →
    IsVariable x ∧ fields.get? x = some field

theorem Supplies.empty : Supplies .empty [] :=
  ⟨fun _ => Iff.rfl, fun _ _ h => by cases h⟩

/-- The number of names of entries. -/
def nameCount (entries : List (String × Field)) : Nat := (entries.map Prod.fst).dedup.length

/-- The values of entries. -/
def viewOf (entries : List (String × Field)) : View :=
  entries.map fun (x, field) => (x, field.toValue)

variable {fields : Fields} {entries : List (String × Field)}

/-- A field that is written is known, and the others keep their values. -/
theorem Supplies.insert (h : Supplies fields entries) {x : String} (hx : IsVariable x)
    (field : Field) : Supplies (fields.insert x field) ((x, field) :: entries) := by
  constructor
  · intro y
    rw [Fields.keys_insert, List.map_cons, List.mem_cons, ← h.names]
    split
    · rename_i hthere
      exact ⟨.inr, fun hy => hy.elim (fun hname => hname ▸ hthere) id⟩
    · rw [List.mem_append, List.mem_singleton, or_comm]
  · intro y other hy
    rw [Field.find] at hy
    rw [Fields.get?_insert]
    by_cases hname : x = y
    · rw [if_pos hname] at hy ⊢
      exact ⟨hname ▸ hx, hy⟩
    · rw [if_neg hname] at hy ⊢
      exact h.held y other hy

/-- Of fields that are written one after another, all are known. -/
theorem Supplies.insertAll (h : Supplies fields entries) {more : List (String × Field)}
    (hmore : ∀ x ∈ more.map (·.1), IsVariable x) :
    Supplies (fields.insertAll more) (more.reverse ++ entries) := by
  induction more generalizing fields entries with
  | nil => exact h
  | cons e more ih =>
    obtain ⟨x, field⟩ := e
    have hfirst : Supplies (fields.insert x field) ((x, field) :: entries) :=
      h.insert (hmore x (.head _)) field
    have hlast := ih hfirst fun y hy => hmore y (.tail x hy)
    rw [List.reverse_cons, List.append_assoc]
    exact hlast

/-- The context of fields is as large as their entries have names. -/
theorem Supplies.length_contextOf (h : Supplies fields entries) :
    (contextOf fields).length = nameCount entries := by
  have hperm : fields.keys.Perm (entries.map Prod.fst).dedup := by
    rw [List.perm_ext_iff_of_nodup fields.nodup_keys (List.nodup_dedup _)]
    intro x
    rw [h.names, List.mem_dedup]
  rw [Expansion.length_contextOf, hperm.length_eq, nameCount]

theorem lookupEntry_viewOf (x : String) (entries : List (String × Field)) :
    lookupEntry x (viewOf entries) = (Field.find x entries).map Field.toValue := by
  induction entries with
  | nil => rfl
  | cons e entries ih =>
    obtain ⟨y, field⟩ := e
    rw [viewOf, List.map_cons, lookupEntry, Field.find]
    split
    · rfl
    · exact ih

/-- At the top of a page the entries are known. -/
theorem Supplies.knows (h : Supplies fields entries) {env : Env}
    (hcontext : env.context = contextOf fields) : Knows env (viewOf entries) pageFrames := by
  constructor
  · intro hempty
    cases hempty
  · intro x v hx
    rw [lookupEntry_viewOf] at hx
    obtain ⟨field, hfield, rfl⟩ := Option.map_eq_some_iff.1 hx
    obtain ⟨hvariable, hget⟩ := h.held x field hfield
    refine ⟨hvariable, toValue_ne_null field, ?_⟩
    have hpath : splitPath x = (x, none) := splitPath_of_no_point (hvariable.not_mem rfl)
    have hframes : findInFrames x pageFrames = none := by
      rw [pageFrames, findInFrames, Frame.find?, hpath]
      rfl
    rw [Env.scope, Scope.find?, hframes, hpath]
    dsimp only
    rw [hcontext, get?_contextOf, hget]
    rfl

/-- A render that succeeds is the only one. -/
theorem result_of_ok {render : Context → Except Trace String} {context : Context} {out : String}
    (h : render context = .ok out) : (renderFilled render context).result = .ok out := by
  have hrender : render (fillNames context []) = .ok out := h
  rw [renderFilled, fillLimit, fillUndefined, hrender]

/-- A template that writes a text with a view that is known is expanded to this text. -/
theorem expandText_of_knows {registry : Registry} {around : Surroundings} {view : View}
    {text out : String} {nodes : List Node} (hreads : Reads text nodes)
    (hknows : ∀ env, env.context = contextOf fields → Knows env view pageFrames)
    (hwrites : ∀ env, env.function? = functionFor registry around →
      Writes env (around.chance.branch (contextOf fields).length) view nodes out)
    (name : String) : expandText registry around name text fields = .ok out := by
  obtain ⟨env, -, hcontext, hfunction, hrender⟩ := render_eq
    ⟨⟨givenName name, nodes⟩, functionFor registry around, around.chance⟩ (contextOf fields)
  obtain ⟨after, hafter⟩ := hwrites env hfunction pageFrames (hknows env hcontext)
  dsimp only at hrender
  rw [hafter] at hrender
  rw [expandText_of_page (hreads (givenName name)), result_of_ok hrender]
  rfl

/-- **A template that writes a text** with the entries as its view is expanded to this text. -/
theorem expandText_of_writes (h : Supplies fields entries) {registry : Registry}
    {around : Surroundings} {text out : String} {nodes : List Node} (hreads : Reads text nodes)
    (hwrites : ∀ env, env.function? = functionFor registry around →
      Writes env (around.chance.branch (nameCount entries)) (viewOf entries) nodes out)
    (name : String) : expandText registry around name text fields = .ok out := by
  rw [← h.length_contextOf] at hwrites
  exact expandText_of_knows hreads (fun _ hcontext => h.knows hcontext) hwrites name

/-! ## Definitions -/

/-- On top of any fields that have some entries, definitions are resolved to fields that have
others, whatever they draw. -/
def Resolves (registry : Registry) (around : Surroundings) (entries : List (String × Field))
    (definitions : List Definition) (last : List (String × Field)) : Prop :=
  ∀ chance fields, Supplies fields entries →
    ∃ final, expandFields registry (around.drawing chance) fields definitions = .ok final ∧
      Supplies final last

namespace Resolves

variable {registry : Registry} {around : Surroundings}

theorem nil : Resolves registry around entries [] entries := fun _ fields h => ⟨fields, rfl, h⟩

/-- **A definition by a template** adds the text that the template writes; later ones know it. -/
theorem cons {definitions : List Definition} {last : List (String × Field)}
    {x template out : String} {nodes : List Node} (hx : IsVariable x)
    (hreads : Reads template nodes)
    (hwrites : ∀ env, env.function? = functionFor registry around → ∀ {chance : Chance},
      Writes env chance (viewOf entries) nodes out)
    (hrest : Resolves registry around ((x, .text out) :: entries) definitions last) :
    Resolves registry around entries (⟨x, .expression template⟩ :: definitions) last := by
  intro chance fields hfields
  obtain ⟨final, hfinal, hlast⟩ := hrest (chance.later 1) _ (hfields.insert hx (.text out))
  refine ⟨final, ?_, hlast⟩
  have hexpand : expandText registry (around.drawing (chance.branch 0)) x template fields =
      .ok out :=
    expandText_of_writes hfields hreads
      (fun env henv => hwrites env (henv.trans (functionFor_drawing registry around _))) x
  have hvalue : valueOf (expandText registry ((around.drawing chance).part 0)) fields
      ⟨x, .expression template⟩ = .ok (.text out) := by
    rw [valueOf, Surroundings.part_drawing]
    dsimp only
    rw [hexpand]
  rw [expandFields, hvalue]
  exact hfinal

end Resolves

end Scaffold.Expansion
