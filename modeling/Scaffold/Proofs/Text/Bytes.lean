import Mathlib.Data.String.Basic

/-!
# The order of texts by bytes

Texts are ordered by their characters, which is the order of their bytes too: of two characters the
smaller one has the smaller bytes, and neither begins with the other. Main facts:

* `utf8EncodeChar_append_lt` : the first character in which two texts differ decides;
* `toUTF8_lt_iff` : bytes and characters give the same order.
-/

namespace Scaffold.Text

open String (utf8EncodeChar)

/-! ## Characters -/

/-- The bytes of a character, by the number of them. -/
theorem utf8EncodeChar_cases (c : Char) :
    (c.toNat < 128 ∧ utf8EncodeChar c = [UInt8.ofNat c.toNat]) ∨
    (128 ≤ c.toNat ∧ c.toNat < 2048 ∧
      utf8EncodeChar c =
        [UInt8.ofNat (c.toNat / 64 % 32 + 192), UInt8.ofNat (c.toNat % 64 + 128)]) ∨
    (2048 ≤ c.toNat ∧ c.toNat < 65536 ∧
      utf8EncodeChar c = [UInt8.ofNat (c.toNat / 4096 % 16 + 224),
        UInt8.ofNat (c.toNat / 64 % 64 + 128), UInt8.ofNat (c.toNat % 64 + 128)]) ∨
    (65536 ≤ c.toNat ∧ c.toNat < 1114112 ∧
      utf8EncodeChar c = [UInt8.ofNat (c.toNat / 262144 % 8 + 240),
        UInt8.ofNat (c.toNat / 4096 % 64 + 128), UInt8.ofNat (c.toNat / 64 % 64 + 128),
        UInt8.ofNat (c.toNat % 64 + 128)]) := by
  have hbound : c.toNat < 1114112 := by
    rcases c.valid with h | ⟨-, h⟩
    · exact Nat.lt_trans h (by decide)
    · exact h
  by_cases h1 : c.toNat ≤ 127
  · exact .inl ⟨by omega, if_pos h1⟩
  by_cases h2 : c.toNat ≤ 2047
  · exact .inr (.inl ⟨by omega, by omega, (if_neg h1).trans (if_pos h2)⟩)
  by_cases h3 : c.toNat ≤ 65535
  · exact .inr (.inr (.inl ⟨by omega, by omega,
      (if_neg h1).trans ((if_neg h2).trans (if_pos h3))⟩))
  · exact .inr (.inr (.inr ⟨by omega, hbound,
      (if_neg h1).trans ((if_neg h2).trans (if_neg h3))⟩))

/-- The first byte decides, or what follows if it is the same. -/
theorem byte_cons_lt {n m : Nat} {x y : List UInt8} (hle : n ≤ m) (hm : m < 256)
    (h : n = m → x < y) : UInt8.ofNat n :: x < UInt8.ofNat m :: y := by
  rw [List.cons_lt_cons_iff, UInt8.lt_iff_toNat_lt, ← UInt8.toNat_inj, UInt8.toNat_ofNat',
    UInt8.toNat_ofNat', Nat.mod_eq_of_lt hm, Nat.mod_eq_of_lt (Nat.lt_of_le_of_lt hle hm)]
  rcases Nat.lt_or_eq_of_le hle with hlt | heq
  · exact .inl hlt
  · exact .inr ⟨heq, h heq⟩

/-- **The first character in which two texts differ decides**, whatever follows. -/
theorem utf8EncodeChar_append_lt {c d : Char} (h : c < d) (x y : List UInt8) :
    utf8EncodeChar c ++ x < utf8EncodeChar d ++ y := by
  have hlt : c.toNat < d.toNat := h
  rcases utf8EncodeChar_cases c with ⟨hc, ec⟩ | ⟨hc, hc', ec⟩ | ⟨hc, hc', ec⟩ | ⟨hc, hc', ec⟩ <;>
    rcases utf8EncodeChar_cases d with ⟨hd, ed⟩ | ⟨hd, hd', ed⟩ | ⟨hd, hd', ed⟩ | ⟨hd, hd', ed⟩ <;>
    rw [ec, ed]
  -- The bytes are compared in turn; if none of them differed, the characters would be the same.
  all_goals
    repeat first
      | omega
      | refine byte_cons_lt (by omega) (by omega) fun _ => ?_

/-! ## Texts -/

theorem flatMap_utf8EncodeChar_lt {cs ds : List Char} (h : cs < ds) :
    cs.flatMap utf8EncodeChar < ds.flatMap utf8EncodeChar := by
  induction h with
  | @nil d ds =>
    obtain ⟨b, bs, hb⟩ := List.exists_cons_of_ne_nil (String.utf8EncodeChar_ne_nil (c := d))
    rw [List.flatMap_cons, hb]
    exact List.nil_lt_cons _ _
  | rel hcd =>
    rw [List.flatMap_cons, List.flatMap_cons]
    exact utf8EncodeChar_append_lt hcd _ _
  | cons hrest ih =>
    rw [List.flatMap_cons, List.flatMap_cons]
    exact List.append_left_lt ih

/-- **Bytes and characters give the same order.** -/
theorem toUTF8_lt_iff (s t : String) : s.toUTF8.data < t.toUTF8.data ↔ s < t := by
  have hlist : ∀ u : String, u.toUTF8.data.toList = u.toList.flatMap utf8EncodeChar := fun u => by
    rw [String.toUTF8_eq_toByteArray, ← String.utf8Encode_toList]
    exact List.toList_data_toByteArray
  have hmono : ∀ {u v : String}, u < v → u.toUTF8.data < v.toUTF8.data := fun {u v} h => by
    rw [← Array.lt_toList, hlist, hlist]
    exact flatMap_utf8EncodeChar_lt (String.lt_iff_toList_lt.1 h)
  refine ⟨fun h => ?_, hmono⟩
  rcases lt_trichotomy s t with hlt | rfl | hgt
  · exact hlt
  · exact absurd h (Array.lt_irrefl _)
  · exact absurd (hmono hgt) (Array.lt_asymm h)

end Scaffold.Text
