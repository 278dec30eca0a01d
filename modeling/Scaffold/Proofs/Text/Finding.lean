import Mathlib.Data.List.Infix
import Scaffold.Text.Search

/-!
# Finding a text in a text

Where a text is cut by another one. Main facts:

* `cutFirst?_eq_none_iff` : a text is cut unless what cuts it does not occur;
* `cutFirst?_append_cons` : an occurrence does not reach over a character that it does not have, so
  that the text in front of the character is looked through before the text behind it.
-/

namespace Scaffold.Text

/-- What precedes the end of a text is what is left of it without this end. -/
theorem stripEnd?_eq_some_iff {pat cs rest : List Char} :
    stripEnd? pat cs = some rest ↔ cs = rest ++ pat := by
  rw [stripEnd?, Option.map_eq_some_iff]
  constructor
  · rintro ⟨reversed, hstrip, rfl⟩
    rw [← List.reverse_reverse cs, stripStart?_eq_some_iff.1 hstrip]
    simp
  · rintro rfl
    exact ⟨rest.reverse, stripStart?_eq_some_iff.2 (by simp), by simp⟩

/-- A text is cut where it begins with what cuts it. -/
theorem cutFirst?_append_self (pat rest : List Char) :
    cutFirst? pat (pat ++ rest) = some ([], rest) := by
  have hstrip := stripStart?_append pat rest
  cases hcs : pat ++ rest with
  | nil =>
    rw [hcs] at hstrip
    rw [cutFirst?, hstrip]
    rfl
  | cons c cs =>
    rw [hcs] at hstrip
    rw [cutFirst?, hstrip]

/-- A text is cut at the first place of a character. -/
theorem cutFirst?_of_not_mem {c : Char} {cs : List Char} (h : c ∉ cs) (rest : List Char) :
    cutFirst? [c] (cs ++ c :: rest) = some (cs, rest) := by
  induction cs with
  | nil => exact cutFirst?_append_self [c] rest
  | cons d cs ih =>
    simp only [List.mem_cons, not_or] at h
    rw [List.cons_append, cutFirst?, stripStart?, if_neg h.1]
    dsimp only
    rw [ih h.2]
    rfl

/-- A text is cut unless what cuts it does not occur. -/
theorem cutFirst?_eq_none_iff {pat cs : List Char} :
    cutFirst? pat cs = none ↔ ¬ pat <:+: cs := by
  constructor
  · rintro h ⟨before, rest, rfl⟩
    rw [List.append_assoc] at h
    induction before with
    | nil =>
      rw [List.nil_append, cutFirst?_append_self] at h
      cases h
    | cons c before ih =>
      rw [List.cons_append, cutFirst?] at h
      split at h
      · cases h
      · rw [Option.map_eq_none_iff] at h
        exact ih h
  · intro h
    cases hcut : cutFirst? pat cs with
    | none => rfl
    | some r =>
      obtain ⟨before, rest⟩ := r
      exact absurd ⟨before, rest, (eq_append_of_cutFirst? hcut).symm⟩ h

/-- A pattern does not reach over a character that it does not have. -/
theorem stripStart?_append_cons {pat : List Char} {c : Char} (hc : c ∉ pat) (as ds : List Char) :
    stripStart? pat (as ++ c :: ds) = (stripStart? pat as).map (· ++ c :: ds) := by
  induction pat generalizing as with
  | nil => rfl
  | cons p pat ih =>
    simp only [List.mem_cons, not_or] at hc
    cases as with
    | nil =>
      rw [List.nil_append, stripStart?, stripStart?, if_neg (Ne.symm hc.1)]
      rfl
    | cons a as =>
      rw [List.cons_append, stripStart?, stripStart?]
      by_cases hp : p = a
      · rw [if_pos hp, if_pos hp, ih hc.2]
      · rw [if_neg hp, if_neg hp]
        rfl

/-- A text is cut in front of a character that the pattern does not have, or else behind it. -/
theorem cutFirst?_append_cons {pat : List Char} {c : Char} (hc : c ∉ pat) (as ds : List Char) :
    cutFirst? pat (as ++ c :: ds) =
      ((cutFirst? pat as).map fun (before, rest) => (before, rest ++ c :: ds)).or
        ((cutFirst? pat ds).map fun (before, rest) => (as ++ c :: before, rest)) := by
  induction as with
  | nil =>
    rw [List.nil_append, cutFirst?, cutFirst?]
    have hstrip := stripStart?_append_cons hc [] ds
    rw [List.nil_append] at hstrip
    rw [hstrip]
    cases stripStart? pat [] with
    | some rest => rfl
    | none => rfl
  | cons a as ih =>
    rw [List.cons_append, cutFirst?, cutFirst?, ← List.cons_append,
      stripStart?_append_cons hc, ih]
    cases stripStart? pat (a :: as) with
    | some rest => rfl
    | none =>
      cases cutFirst? pat as with
      | some r => rfl
      | none => cases cutFirst? pat ds <;> rfl

/-- A character has no last occurrence only in a text without it. -/
theorem afterLast?_eq_none_iff {c : Char} {cs : List Char} :
    afterLast? [c] cs = none ↔ c ∉ cs := by
  induction cs with
  | nil => simp [afterLast?, stripStart?]
  | cons d cs ih =>
    rw [afterLast?]
    cases hrest : afterLast? [c] cs with
    | some rest =>
      have hmem : c ∈ cs := by
        by_contra hmem
        rw [ih.2 hmem] at hrest
        cases hrest
      simp [hmem]
    | none =>
      have hmem : c ∉ cs := ih.1 hrest
      by_cases hd : c = d <;> simp [stripStart?, hd, hmem]

/-- What follows the last occurrence of a character follows it without another one. -/
theorem exists_of_afterLast?_singleton {c : Char} {cs rest : List Char}
    (h : afterLast? [c] cs = some rest) : (∃ front, cs = front ++ c :: rest) ∧ c ∉ rest := by
  induction cs with
  | nil => cases h
  | cons d cs ih =>
    rw [afterLast?] at h
    cases hrest : afterLast? [c] cs with
    | some more =>
      rw [hrest] at h
      cases h
      obtain ⟨⟨front, rfl⟩, hmem⟩ := ih hrest
      exact ⟨⟨d :: front, rfl⟩, hmem⟩
    | none =>
      rw [hrest] at h
      have hcs : d :: cs = c :: rest := eq_append_of_stripStart? h
      cases hcs
      exact ⟨⟨[], rfl⟩, afterLast?_eq_none_iff.1 hrest⟩

end Scaffold.Text
