import Scaffold.Proofs.Template.Branching.Basic

/-!
# Passes over branching templates

What a single pass over a branching template can meet. Main facts:

* `Branching.isVariable_of_mem` : the names in a template are variables;
* `Branching.of_mem_missingOf` : a name that a pass misses is one of them, and no field of the data;
* `Branching.exists_pieces` : without comparisons by size a pass does not get stuck.
-/

namespace Scaffold.Template

open Grammar (IsVariable)

/-! ## Names -/

/-- The names in a condition are variables. -/
theorem Condition.isVariable_of_mem {c : Condition} (hc : c.Readable) {x : String}
    (hx : x ∈ c.names) : IsVariable x := by
  have hside : ∀ side : Side, side.Readable → x ∈ side.names → IsVariable x := by
    intro side hside hmem
    cases side with
    | name y =>
      obtain rfl := List.mem_singleton.1 hmem
      exact hside
    | text quote s => cases hmem
    | int digits => cases hmem
  induction c with
  | name negated y =>
    obtain rfl := List.mem_singleton.1 hx
    exact hc
  | compare negated op lhs rhs =>
    obtain ⟨hl, hr, -⟩ := hc
    rcases List.mem_append.1 hx with h | h
    · exact hside lhs hl h
    · exact hside rhs hr h
  | group inner ih => exact ih hc.2.2 hx
  | logic op lhs rhs ihl ihr =>
    obtain ⟨-, hl, hr⟩ := hc
    rcases List.mem_append.1 hx with h | h
    · exact ihl hl h
    · exact ihr hr h

/-- The names in a template are variables. -/
theorem Branching.isVariable_of_mem {t : Branching} {after : List Char} (ht : t.Readable after)
    {x : String} (hx : x ∈ t.names) : IsVariable x := by
  induction t generalizing after with
  | done last => cases hx
  | print before y fallback rest ih =>
    obtain ⟨-, hy, -, hrest⟩ := ht
    rcases List.mem_cons.1 hx with rfl | h
    · exact hy
    · exact ih hrest h
  | cond before c yes no rest ihyes ihno ih =>
    obtain ⟨-, hc, hyes, hno, hrest⟩ := ht
    simp only [names, List.mem_append, or_assoc] at hx
    rcases hx with h | h | h | h
    · exact Condition.isVariable_of_mem hc h
    · exact ihyes hyes h
    · exact ihno hno h
    · exact ih hrest h
  | when before c body rest ihbody ih =>
    obtain ⟨-, hc, hbody, hrest⟩ := ht
    simp only [names, List.mem_append, or_assoc] at hx
    rcases hx with h | h | h
    · exact Condition.isVariable_of_mem hc h
    · exact ihbody hbody h
    · exact ih hrest h

/-! ## Names that are missed -/

/-- **A name that a condition misses** is one of its names, and no field of the data. -/
theorem Condition.of_mem_missing {data : Fields} {c : Condition} {v : Verdict}
    (hv : c.judge data = some v) {x : String} (hx : x ∈ v.missing) :
    x ∈ c.names ∧ data.get? x = none := by
  have hside : ∀ side : Side, x ∈ side.missing data → x ∈ side.names ∧ data.get? x = none := by
    intro side h
    obtain ⟨hmem, hnone⟩ := List.mem_filter.1 h
    exact ⟨hmem, Option.isNone_iff_eq_none.1 hnone⟩
  induction c generalizing v with
  | name negated y =>
    cases hv
    cases hx
  | compare negated op lhs rhs =>
    rw [judge] at hv
    split at hv
    · cases hv
    · cases hv
      rcases List.mem_append.1 hx with hl | hr
      · obtain ⟨hmem, hnone⟩ := hside lhs hl
        exact ⟨List.mem_append_left _ hmem, hnone⟩
      · obtain ⟨hmem, hnone⟩ := hside rhs hr
        exact ⟨List.mem_append_right _ hmem, hnone⟩
  | group inner ih => exact ih hv hx
  | logic op lhs rhs ihl ihr =>
    obtain ⟨l, hl, hv⟩ := Option.bind_eq_some_iff.1 hv
    have hleft : x ∈ l.missing → x ∈ lhs.names ++ rhs.names ∧ data.get? x = none := by
      intro h
      obtain ⟨hmem, hnone⟩ := ihl hl h
      exact ⟨List.mem_append_left _ hmem, hnone⟩
    split at hv
    · cases hv
      exact hleft hx
    · cases hv
      exact hleft hx
    · obtain ⟨r, hr, rfl⟩ := Option.map_eq_some_iff.1 hv
      rcases List.mem_append.1 hx with h | h
      · exact hleft h
      · obtain ⟨hmem, hnone⟩ := ihr hr h
        exact ⟨List.mem_append_right _ hmem, hnone⟩

namespace Branching

variable {data : Fields}

theorem eq_of_chosenPieces {verdict : Option Verdict} {body : Bool → Option (List Piece)}
    {ps : List Piece} (h : chosenPieces verdict body = some ps) :
    ∃ v inner, verdict = some v ∧ body v.holds = some inner ∧
      ps = v.missing.map .missed ++ inner := by
  obtain ⟨v, hv, h⟩ := Option.bind_eq_some_iff.1 h
  obtain ⟨inner, hinner, h⟩ := Option.bind_eq_some_iff.1 h
  exact ⟨v, inner, hv, hinner, (Option.some.inj h).symm⟩

/-- What is missed at a tag is missed in its condition, in the body that is chosen, or behind it. -/
theorem of_mem_tag {before x : String} {c : Condition} {body : Bool → Option (List Piece)}
    {behind : Option (List Piece)} {ps : List Piece}
    (hps : (do
      let chosen ← chosenPieces (c.judge data) body
      let others ← behind
      some (.shown before :: (chosen ++ others))) = some ps)
    (hx : x ∈ missingOf ps) :
    (x ∈ c.names ∧ data.get? x = none) ∨
      (∃ holds inner, body holds = some inner ∧ x ∈ missingOf inner) ∨
      ∃ others, behind = some others ∧ x ∈ missingOf others := by
  obtain ⟨chosen, hchosen, h⟩ := Option.bind_eq_some_iff.1 hps
  obtain ⟨others, hothers, h⟩ := Option.bind_eq_some_iff.1 h
  cases h
  have hpiece : x ∈ missingOf chosen ∨ x ∈ missingOf others := by
    rw [← List.mem_append, ← missingOf_append]
    exact hx
  rcases hpiece with hmem | hmem
  · obtain ⟨v, inner, hv, hinner, rfl⟩ := eq_of_chosenPieces hchosen
    rw [missingOf_append, missingOf_map_missed] at hmem
    rcases List.mem_append.1 hmem with h | h
    · exact .inl (Condition.of_mem_missing hv h)
    · exact .inr (.inl ⟨v.holds, inner, hinner, h⟩)
  · exact .inr (.inr ⟨others, hothers, hmem⟩)

/-- **A name that a pass misses** is one of the template, and no field of the data. -/
theorem of_mem_missingOf {t : Branching} {ps : List Piece} (hps : t.pieces data = some ps)
    {x : String} (hx : x ∈ missingOf ps) : x ∈ t.names ∧ data.get? x = none := by
  induction t generalizing ps with
  | done last =>
    cases hps
    cases hx
  | print before y fallback rest ih =>
    obtain ⟨others, hothers, h⟩ := Option.bind_eq_some_iff.1 hps
    cases h
    have hpiece : x ∈ (printedPiece data y fallback).missing ∨ x ∈ missingOf others := by
      simpa [missingOf, Piece.missing] using hx
    rcases hpiece with h | h
    · unfold printedPiece at h
      split at h
      · cases h
      · rename_i hnone
        obtain rfl := List.mem_singleton.1 h
        exact ⟨List.mem_cons_self, hnone⟩
      · cases h
    · obtain ⟨hmem, hnone⟩ := ih hothers h
      exact ⟨List.mem_cons_of_mem _ hmem, hnone⟩
  | cond before c yes no rest ihyes ihno ih =>
    simp only [names, List.mem_append, or_assoc]
    rcases of_mem_tag hps hx with ⟨hmem, hnone⟩ | ⟨holds, inner, hinner, h⟩ | ⟨others, hothers, h⟩
    · exact ⟨.inl hmem, hnone⟩
    · cases holds with
      | true =>
        obtain ⟨hmem, hnone⟩ := ihyes hinner h
        exact ⟨.inr (.inl hmem), hnone⟩
      | false =>
        obtain ⟨hmem, hnone⟩ := ihno hinner h
        exact ⟨.inr (.inr (.inl hmem)), hnone⟩
    · obtain ⟨hmem, hnone⟩ := ih hothers h
      exact ⟨.inr (.inr (.inr hmem)), hnone⟩
  | when before c body rest ihbody ih =>
    simp only [names, List.mem_append, or_assoc]
    rcases of_mem_tag hps hx with ⟨hmem, hnone⟩ | ⟨holds, inner, hinner, h⟩ | ⟨others, hothers, h⟩
    · exact ⟨.inl hmem, hnone⟩
    · cases holds with
      | true =>
        obtain ⟨hmem, hnone⟩ := ihbody hinner h
        exact ⟨.inr (.inl hmem), hnone⟩
      | false =>
        cases hinner
        cases h
    · obtain ⟨hmem, hnone⟩ := ih hothers h
      exact ⟨.inr (.inr hmem), hnone⟩

end Branching

/-! ## Passes that do not get stuck -/

/-- A condition without comparisons by size has a verdict. -/
theorem Condition.exists_judge {c : Condition} (hc : c.OrderFree) (data : Fields) :
    ∃ v, c.judge data = some v := by
  induction c with
  | name negated x => exact ⟨_, rfl⟩
  | compare negated op lhs rhs =>
    have hop : op.isOrder = false := hc
    rw [judge, hop]
    exact ⟨_, rfl⟩
  | group inner ih => exact ih hc
  | logic op lhs rhs ihl ihr =>
    obtain ⟨l, hl⟩ := ihl hc.1
    obtain ⟨r, hr⟩ := ihr hc.2
    rw [judge, hl, hr, Option.bind_eq_bind, Option.bind_some]
    split
    · exact ⟨_, rfl⟩
    · exact ⟨_, rfl⟩
    · exact ⟨_, rfl⟩

theorem Branching.exists_chosenPieces {verdict : Option Verdict}
    {body : Bool → Option (List Piece)} (hverdict : ∃ v, verdict = some v)
    (hbody : ∀ holds, ∃ ps, body holds = some ps) : ∃ ps, chosenPieces verdict body = some ps := by
  obtain ⟨v, rfl⟩ := hverdict
  obtain ⟨inner, hinner⟩ := hbody v.holds
  refine ⟨v.missing.map .missed ++ inner, ?_⟩
  rw [chosenPieces, Option.bind_eq_bind, Option.bind_some, hinner]
  rfl

/-- **A pass over a template without comparisons by size** does not get stuck. -/
theorem Branching.exists_pieces {t : Branching} (ht : t.OrderFree) (data : Fields) :
    ∃ ps, t.pieces data = some ps := by
  induction t with
  | done last => exact ⟨_, rfl⟩
  | print before x fallback rest ih =>
    obtain ⟨others, hothers⟩ := ih ht
    rw [pieces, hothers]
    exact ⟨_, rfl⟩
  | cond before c yes no rest ihyes ihno ih =>
    obtain ⟨hc, hyes, hno, hrest⟩ := ht
    obtain ⟨others, hothers⟩ := ih hrest
    have hbodies : ∀ holds : Bool,
        ∃ ps, (if holds then yes.pieces data else no.pieces data) = some ps := by
      intro holds
      cases holds with
      | true => exact ihyes hyes
      | false => exact ihno hno
    obtain ⟨chosen, hchosen⟩ := exists_chosenPieces (Condition.exists_judge hc data) hbodies
    rw [pieces, hothers, hchosen]
    exact ⟨_, rfl⟩
  | when before c body rest ihbody ih =>
    obtain ⟨hc, hbody, hrest⟩ := ht
    obtain ⟨others, hothers⟩ := ih hrest
    have hbodies : ∀ holds : Bool,
        ∃ ps, (if holds then body.pieces data else some []) = some ps := by
      intro holds
      cases holds with
      | true => exact ihbody hbody
      | false => exact ⟨_, rfl⟩
    obtain ⟨chosen, hchosen⟩ := exists_chosenPieces (Condition.exists_judge hc data) hbodies
    rw [pieces, hothers, hchosen]
    exact ⟨_, rfl⟩

end Scaffold.Template
