import Scaffold.Proofs.Text.Reading
import Scaffold.Template.Tags

/-!
# Text between tags

Text goes on up to the next opening delimiter. It may hold braces, if none of them begins a
delimiter, be it with what stands behind the text. The key notions are `holdsTag`, a delimiter
somewhere in a text, and `EndsText`, where a text ends. Main facts:

* `plainText_append_of_endsText` : a text without delimiters is taken as a whole;
* `holdsTag_append` : where two texts meet no delimiter comes up unless the first one ends with a
  brace;
* `delimiter_of_not_opens` : where no delimiter starts, none is read.
-/

namespace Scaffold.Template.Tags

open Reader

/-- Whether an opening delimiter starts somewhere in a text. -/
def holdsTag : List Char → Bool
  | [] => false
  | c :: cs => opensTag (c :: cs) || holdsTag cs

/-- Where a text ends: at the end of the page or at a tag. -/
def EndsText (cs : List Char) : Prop := cs = [] ∨ opensTag cs = true

/-- Every delimiter begins with a brace. -/
theorem opensTag_of_ne {c : Char} (hc : c ≠ '{') (cs : List Char) : opensTag (c :: cs) = false := by
  unfold opensTag
  split
  · rename_i heq
    exact absurd (List.cons.inj heq).1 hc
  · rfl

/-- The first two characters decide whether a delimiter starts. -/
theorem opensTag_cons_cons (c d : Char) (cs : List Char) :
    opensTag (c :: d :: cs) = opensTag [c, d] := by
  by_cases hc : c = '{'
  · subst hc
    rfl
  · rw [opensTag_of_ne hc, opensTag_of_ne hc]

/-- A single character is no delimiter. -/
theorem opensTag_singleton (c : Char) : opensTag [c] = false := by
  unfold opensTag
  split
  · rename_i heq
    cases heq
  · rfl

/-- Only the next character decides whether a delimiter starts with a character. -/
theorem opensTag_cons (c : Char) (cs ds : List Char) :
    opensTag (c :: (cs ++ ds)) = opensTag (c :: (cs ++ ds.take 1)) := by
  cases cs with
  | cons d cs =>
    rw [List.cons_append, List.cons_append, opensTag_cons_cons, opensTag_cons_cons c d (cs ++ _)]
  | nil =>
    cases ds with
    | nil => rfl
    | cons d ds => exact opensTag_cons_cons c d ds

/-- **A text without delimiters is taken as a whole**, up to where it ends. -/
theorem plainText_append_of_endsText {ts cs : List Char}
    (hts : holdsTag (ts ++ cs.take 1) = false) (hcs : EndsText cs) :
    plainText (ts ++ cs) = (ts, cs) := by
  induction ts with
  | nil =>
    rcases hcs with rfl | hcs
    · rfl
    · cases cs with
      | nil => rfl
      | cons c cs => rw [List.nil_append, plainText, if_pos hcs]
  | cons t ts ih =>
    rw [List.cons_append, holdsTag, Bool.or_eq_false_iff, ← opensTag_cons] at hts
    rw [List.cons_append, plainText, if_neg (by simp [hts.1]), ih hts.2]

/-- A delimiter in the first part of a text is one in the text. -/
theorem holdsTag_of_append {ts cs : List Char} (h : holdsTag (ts ++ cs) = false) :
    holdsTag ts = false := by
  induction ts with
  | nil => rfl
  | cons t ts ih =>
    rw [List.cons_append, holdsTag, Bool.or_eq_false_iff] at h
    rw [holdsTag, ih h.2, Bool.or_false]
    cases ts with
    | cons s ts =>
      rw [List.cons_append, opensTag_cons_cons] at h
      rw [opensTag_cons_cons]
      exact h.1
    | nil => exact opensTag_singleton t

/-- **Texts without delimiters** hold none one after the other, if the first one does not end with a
brace. -/
theorem holdsTag_append {ts cs : List Char} (hts : holdsTag ts = false)
    (hend : ts.getLast? ≠ some '{') (hcs : holdsTag cs = false) : holdsTag (ts ++ cs) = false := by
  induction ts with
  | nil => exact hcs
  | cons t ts ih =>
    rw [holdsTag, Bool.or_eq_false_iff] at hts
    obtain ⟨hopens, hholds⟩ := hts
    rw [List.cons_append, holdsTag, Bool.or_eq_false_iff]
    cases ts with
    | nil =>
      have ht : t ≠ '{' := by
        intro h
        apply hend
        rw [h]
        rfl
      exact ⟨opensTag_of_ne ht _, hcs⟩
    | cons s ts =>
      rw [List.getLast?_cons_cons] at hend
      constructor
      · rw [opensTag_cons_cons] at hopens
        rw [List.cons_append, opensTag_cons_cons]
        exact hopens
      · exact ih hholds hend

theorem holdsTag_concat_of_not_mem {ts : List Char} (hts : '{' ∉ ts) (c : Char) :
    holdsTag (ts ++ [c]) = false := by
  induction ts with
  | nil =>
    rw [List.nil_append, holdsTag, holdsTag, Bool.or_false]
    exact opensTag_singleton c
  | cons t ts ih =>
    simp only [List.mem_cons, not_or] at hts
    rw [List.cons_append, holdsTag, ih hts.2, Bool.or_false]
    exact opensTag_of_ne (Ne.symm hts.1) _

/-- A text without braces holds no delimiter, whatever stands behind it. -/
theorem holdsTag_of_not_mem {ts : List Char} (hts : '{' ∉ ts) (cs : List Char) :
    holdsTag (ts ++ cs.take 1) = false := by
  cases cs with
  | nil =>
    rw [List.take_nil, List.append_nil]
    exact holdsTag_of_append (holdsTag_concat_of_not_mem hts ' ')
  | cons c cs => exact holdsTag_concat_of_not_mem hts c

theorem literal_of_not_opens {d : Char} (hd : d ∈ ['{', '%', '#']) (ks : List Char)
    {cs : List Char} (h : opensTag cs = false) : literal ('{' :: d :: ks) cs = none := by
  cases cs with
  | nil => rfl
  | cons b cs =>
    by_cases hb : '{' = b
    · subst hb
      cases cs with
      | nil => rfl
      | cons e cs =>
        have hne : d ≠ e := by
          rintro rfl
          simp only [List.mem_cons, List.not_mem_nil, or_false] at hd
          rcases hd with rfl | rfl | rfl <;> cases h
        simp [literal, Text.stripStart?, hne]
    · simp [literal, Text.stripStart?, hb]

/-- **Where no delimiter starts, none is read.** -/
theorem delimiter_of_not_opens {d : Char} (hd : d ∈ ['{', '%', '#']) {trimming plain : String}
    {ks ls : List Char} (htrimming : trimming.toList = '{' :: d :: ks)
    (hplain : plain.toList = '{' :: d :: ls) {cs : List Char} (h : opensTag cs = false) :
    delimiter trimming plain cs = none := by
  rw [delimiter, htrimming, hplain,
    orElse_of_none (bind_of_none (literal_of_not_opens hd ks h))]
  exact bind_of_none (literal_of_not_opens hd ls h)

end Scaffold.Template.Tags
