import Mathlib.Data.Finset.Card
import Mathlib.Data.Finset.Dedup
import Scaffold.Proofs.Expansion.Overwriting
import Scaffold.Proofs.Expansion.Reports
import Scaffold.Proofs.Template.Simple.Rendering

/-!
# Filling in all names that are missing

A missing variable is reported by name, and filled in for the next render. The key notions are
`ReportsMissing`, a renderer that reports its missing names one after the other, and `remaining`,
the number of those that are not filled in yet. Main facts:

* `undefinedName?_name` : the messages about a missing variable report it;
* `fills_fillNames` : filling in names that the data does not have leaves its fields;
* `ReportsMissing.result_fillUndefined` : the rounds end with the text of the renderer exactly if
  no more names remain than may be filled in.
-/

namespace Scaffold.Expansion

open Template

/-! ## Reports -/

theorem toNat_lt_of_isAlphanum {c : Char} (h : c.isAlphanum = true) : c.toNat < 128 := by
  rcases Bool.or_eq_true_iff.1 h with hletter | hdigit
  · have hle := (Grammar.toNat_of_isAlpha hletter).2
    omega
  · have hle := Grammar.toNat_of_isDigit hdigit
    omega

/-- Variables are names of the kind that is looked for in messages. -/
theorem isPlainName_of_isVariable {x : String} (hx : Grammar.IsVariable x) :
    isPlainName x.toList = true := by
  obtain ⟨c, cs, hcs, -, -⟩ := Grammar.exists_cons_of_isIdentifier hx.identifier
  rw [isPlainName, Bool.and_eq_true, List.all_eq_true]
  refine ⟨by simp [hcs], fun d hd => ?_⟩
  have hchar := Grammar.isNameChar_of_mem hx.identifier hd
  rw [Grammar.isNameChar, Bool.or_eq_true] at hchar
  rw [Bool.or_eq_true]
  rcases hchar with halnum | hunder
  · exact .inl (Text.isAlphanumeric_of_isAlphanum d halnum (toNat_lt_of_isAlphanum halnum))
  · exact .inr hunder

/-- **The messages about a missing name report the name.** -/
theorem undefinedName?_name {page x : String} (hpage : ¬ marker <:+: page.toList)
    (hx : Grammar.IsVariable x) :
    undefinedName? [headline page none, (Unresolved.name x page).message] = some x := by
  have hheadline : reported? (headline page none).toList = none := by
    rw [reported?_headline, reported?_eq_none_iff.2 hpage, Option.none_or]
    decide
  have hmessage : reported? (Unresolved.name x page).message.toList = some (some x) := by
    rw [toList_message_name, wordsBefore, List.append_assoc, List.append_assoc]
    exact reported?_marker (isPlainName_of_isVariable hx) _
  rw [undefinedName?_eq, List.findSome?_cons, hheadline, List.findSome?_cons, hmessage]
  rfl

/-! ## Filling in -/

/-- A name that is filled in is the empty text. -/
theorem get?_fillNames_of_mem (context : Context) {names : List String} {name : String}
    (h : name ∈ names) : (fillNames context names).get? name = some (.string "") := by
  induction names generalizing context with
  | nil => cases h
  | cons n names ih =>
    rw [fillNames, List.foldl_cons, ← fillNames]
    by_cases hmem : name ∈ names
    · exact ih _ hmem
    · obtain rfl : name = n := by
        rcases List.mem_cons.1 h with hn | hn
        · exact hn
        · exact absurd hn hmem
      rw [get?_fillNames_of_not_mem _ hmem, Context.get?_bind_self]

/-- Entries are looked up in order. -/
theorem lookupEntry_append (key : String) (first second : List (String × Value)) :
    lookupEntry key (first ++ second) = (lookupEntry key first).or (lookupEntry key second) := by
  induction first with
  | nil => rfl
  | cons e first ih =>
    obtain ⟨k, v⟩ := e
    rw [List.cons_append, lookupEntry, lookupEntry]
    split
    · rfl
    · exact ih

/-- A context has the values of the fields: as their names are distinct, none hides another. -/
theorem get?_contextOf (data : Fields) (x : String) :
    (contextOf data).get? x = (data.get? x).map Field.toValue := by
  obtain ⟨entries, hdistinct⟩ := data
  rw [contextOf, Context.get?, Fields.get?]
  dsimp only
  induction entries with
  | nil => rfl
  | cons e entries ih =>
    obtain ⟨k, field⟩ := e
    rw [List.map_cons, List.nodup_cons] at hdistinct
    rw [List.map_cons, List.reverse_cons, lookupEntry_append, ih hdistinct.2, Field.find,
      lookupEntry]
    by_cases hk : k = x
    · subst hk
      have hnone : Field.find k entries = none := by
        rw [← Option.not_isSome_iff_eq_none, Field.find_isSome_iff]
        exact hdistinct.1
      simp [hnone]
    · rw [if_neg hk, if_neg hk, lookupEntry, Option.or_none]

/-- The context of some fields is as large as they are many. -/
theorem length_contextOf (fields : Fields) : (contextOf fields).length = fields.keys.length := by
  rw [contextOf, List.length_reverse, List.length_map, Fields.keys, List.length_map]

/-- Filling in leaves the field of a name, unless it is the field that is filled in. -/
theorem fillsAt_fillNames {data : Fields} {filled : List String} {x : String}
    (hx : x ∈ filled → data.get? x = none) :
    FillsAt data filled (fillNames (contextOf data) filled) x := by
  rw [FillsAt]
  by_cases hmem : x ∈ filled
  · rw [get?_fillNames_of_mem _ hmem, hx hmem]
    dsimp only
    rw [if_pos hmem]
  · rw [get?_fillNames_of_not_mem _ hmem, get?_contextOf]
    cases data.get? x with
    | some field => rfl
    | none =>
      dsimp only [Option.map_none]
      rw [if_neg hmem]

/-- Filling in names that the data does not have leaves its fields. -/
theorem fills_fillNames {data : Fields} {filled : List String}
    (hfilled : ∀ n ∈ filled, data.get? n = none) :
    Fills data filled (fillNames (contextOf data) filled) :=
  fun x => fillsAt_fillNames (hfilled x)

/-- The expansion of a page is the last answer of its renderer. -/
theorem expandText_of_page {registry : Registry} {around : Surroundings} {name text : String}
    {fields : Fields} {page : Page} (hpage : Page.read? (givenName name) text = some page) :
    expandText registry around name text fields =
      (renderFilled (Engine.mk page (functionFor registry around) around.chance).render
        (contextOf fields)).result.mapError (.unrendered (givenName name)) := by
  unfold expandText
  dsimp only
  rw [hpage]
  dsimp only
  cases (renderFilled (Engine.mk page (functionFor registry around) around.chance).render
    (contextOf fields)).result with
  | ok out => rfl
  | error trace => rfl

/-! ## Rounds -/

/-- The number of distinct names that are not filled in yet. -/
def remaining (missing filled : List String) : Nat := (missing.toFinset \ filled.toFinset).card

/-- No name remains if none is found. -/
theorem remaining_eq_zero_iff {missing filled : List String} :
    remaining missing filled = 0 ↔ missing.find? (· ∉ filled) = none := by
  rw [remaining, Finset.card_eq_zero, Finset.sdiff_eq_empty_iff_subset, List.find?_eq_none]
  constructor
  · intro h x hx
    have hmem := h (List.mem_toFinset.2 hx)
    simpa using hmem
  · intro h x hx
    have hmem := h x (List.mem_toFinset.1 hx)
    simpa using hmem

/-- A name that is filled in counts no longer. -/
theorem remaining_concat {missing filled : List String} {x : String} (hx : x ∈ missing)
    (hnew : x ∉ filled) : remaining missing (filled ++ [x]) + 1 = remaining missing filled := by
  have hmem : x ∈ missing.toFinset \ filled.toFinset := by simp [hx, hnew]
  have hset : missing.toFinset \ (filled ++ [x]).toFinset =
      (missing.toFinset \ filled.toFinset).erase x := by
    ext y
    simp only [List.toFinset_append, List.toFinset_cons, List.toFinset_nil, Finset.mem_sdiff,
      Finset.mem_union, List.mem_toFinset, Finset.mem_insert, Finset.notMem_empty, or_false,
      Finset.mem_erase, not_or]
    tauto
  rw [remaining, remaining, hset, Finset.card_erase_add_one hmem]

/-- A renderer comes to a text once all its missing names are filled in, and until then reports the
first of them that is not. -/
structure ReportsMissing (render : Context → Except Trace String) (context : Context)
    (missing : List String) (text : String) : Prop where
  fills : ∀ filled, (∀ n ∈ filled, n ∈ missing) → missing.find? (· ∉ filled) = none →
    render (fillNames context filled) = .ok text
  reports : ∀ filled x, (∀ n ∈ filled, n ∈ missing) → missing.find? (· ∉ filled) = some x →
    ∃ trace, render (fillNames context filled) = .error trace ∧ undefinedName? trace = some x

/-- **Such a renderer comes to its text exactly if no more names remain than may be filled in.** The
induction is on how many may be; every round that fails fills in one name that remained. -/
theorem ReportsMissing.result_fillUndefined {render : Context → Except Trace String}
    {context : Context} {missing : List String} {text : String}
    (hrender : ReportsMissing render context missing text)
    (budget : Nat) (filled : List String) (hfilled : ∀ n ∈ filled, n ∈ missing) :
    (remaining missing filled ≤ budget →
      (fillUndefined render context budget filled).result = .ok text) ∧
    (budget < remaining missing filled →
      ∃ trace, (fillUndefined render context budget filled).result = .error trace) := by
  induction budget generalizing filled with
  | zero =>
    rw [fillUndefined]
    dsimp only
    cases hfind : missing.find? (· ∉ filled) with
    | none =>
      have hzero := remaining_eq_zero_iff.2 hfind
      exact ⟨fun _ => hrender.fills filled hfilled hfind, fun h => by omega⟩
    | some x =>
      have hpos : remaining missing filled ≠ 0 := by
        rw [Ne, remaining_eq_zero_iff, hfind]
        exact Option.some_ne_none x
      obtain ⟨trace, htrace, -⟩ := hrender.reports filled x hfilled hfind
      exact ⟨fun h => by omega, fun _ => ⟨trace, htrace⟩⟩
  | succ budget ih =>
    rw [fillUndefined]
    cases hfind : missing.find? (· ∉ filled) with
    | none =>
      have hzero := remaining_eq_zero_iff.2 hfind
      rw [hrender.fills filled hfilled hfind]
      exact ⟨fun _ => rfl, fun h => by omega⟩
    | some x =>
      obtain ⟨trace, htrace, hname⟩ := hrender.reports filled x hfilled hfind
      have hx : x ∈ missing := List.mem_of_find?_eq_some hfind
      have hnew : x ∉ filled := by simpa using List.find?_some hfind
      -- one name less remains, and one less may be filled in
      have hless := remaining_concat hx hnew
      have hmore : ∀ n ∈ filled ++ [x], n ∈ missing := by
        intro n hn
        rcases List.mem_append.1 hn with h | h
        · exact hfilled n h
        · rw [List.mem_singleton] at h
          exact h ▸ hx
      rw [htrace]
      dsimp only
      rw [hname]
      dsimp only
      rw [if_neg (by simpa using hnew)]
      obtain ⟨hle, hlt⟩ := ih (filled ++ [x]) hmore
      exact ⟨fun h => hle (by omega), fun h => hlt (by omega)⟩

end Scaffold.Expansion
