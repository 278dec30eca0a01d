import Mathlib.Tactic.IntervalCases
import Scaffold.Value.Basic

/-!
# Whole numbers as doubles

Templates compare whole numbers as doubles, which are not exact for large numbers. A small number is
told from all others nevertheless. The key notion is `IsLarge`, a double of four or more, in the
form that rounding leaves it in. Main facts:

* `isLarge_round` : rounding does not bring a number of four or more below four;
* `isLarge_ofNat` : whole numbers from four on are large as doubles;
* `ofNat_beq_two` : a whole number equals two as a double only if it is two.
-/

namespace Scaffold.Decimal

open Float.Model (Format totalExponent)
open Float.Model.UnpackedFloat

/-- A double of four or more: infinite, or with a full mantissa and an exponent to go with it. -/
def IsLarge : Float.Model.UnpackedFloat → Prop
  | .infinity .positive => True
  | .finite .positive m e _ => 2 ^ 52 ≤ m ∧ m < 2 ^ 53 ∧ -50 ≤ e
  | _ => False

theorem isLarge_finite {s : Sign} {m : Nat} {e : Int} {h : 0 < m} (hs : s = .positive)
    (hlow : 2 ^ 52 ≤ m) (hhigh : m < 2 ^ 53) (he : -50 ≤ e) : IsLarge (.finite s m e h) := by
  rw [hs]
  exact ⟨hlow, hhigh, he⟩

/-! ## Rounding -/

/-- Shifting to the right divides the mantissa. -/
theorem mantissa_shiftRight (em : ExtendedMantissa) (k : Nat) :
    (em >>> k).mantissa = em.mantissa / 2 ^ k := by
  induction k with
  | zero => simp [HShiftRight.hShiftRight, Nat.repeat]
  | succ k ih =>
    have hstep : (em >>> (k + 1)).mantissa = (em >>> k).mantissa / 2 := rfl
    rw [hstep, ih, Nat.div_div_eq_div_mul, Nat.pow_succ]

/-- Rounding adds one at most. -/
theorem roundedMantissa_bounds (em : ExtendedMantissa) :
    em.mantissa ≤ em.roundedMantissa ∧ em.roundedMantissa ≤ em.mantissa + 1 := by
  obtain ⟨m, roundBit, stickyBit⟩ := em
  cases roundBit <;> cases stickyBit <;>
    simp [ExtendedMantissa.roundedMantissa, ExtendedMantissa.accuracy, Accuracy.roundToNearestEven]
  omega

/-- The exponent that goes with a full mantissa, unless it is the least one. -/
theorem targetExponent_binary64 (e : Int) :
    Format.binary64.targetExponent e = max (e - 53) (-1074) := rfl

/-- A mantissa with at least as many bits as are kept is shifted to exactly that many. -/
theorem shiftToTargetExponent_of_log2 {m : Nat} {e : Int} (hm : 52 ≤ m.log2)
    (he : 3 ≤ totalExponent m e) :
    (shiftToTargetExponent .binary64 m e .exact).1.mantissa = m / 2 ^ (m.log2 - 52) ∧
      (shiftToTargetExponent .binary64 m e .exact).2 = totalExponent m e - 53 := by
  have htarget : Format.binary64.targetExponent (totalExponent m e) = totalExponent m e - 53 := by
    rw [targetExponent_binary64]
    omega
  have hshift : (totalExponent m e - 53 - e).toNat = m.log2 - 52 := by
    simp only [totalExponent]
    omega
  rw [shiftToTargetExponent, htarget, shiftToExponent, hshift]
  constructor
  · rw [mantissa_shiftRight]
    rfl
  · simp only [totalExponent]
    omega

/-- The leading bits of a number. -/
theorem leadingBits_bounds {m : Nat} (hm : 52 ≤ m.log2) :
    2 ^ 52 ≤ m / 2 ^ (m.log2 - 52) ∧ m / 2 ^ (m.log2 - 52) < 2 ^ 53 := by
  have hne : m ≠ 0 := by
    rintro rfl
    simp at hm
  have hbits : 52 + (m.log2 - 52) = m.log2 := by omega
  constructor
  · rw [Nat.le_div_iff_mul_le (Nat.two_pow_pos _), ← Nat.pow_add, hbits]
    exact Nat.log2_self_le hne
  · rw [Nat.div_lt_iff_lt_mul (Nat.two_pow_pos _), ← Nat.pow_add]
    have hsucc : 53 + (m.log2 - 52) = m.log2 + 1 := by omega
    rw [hsucc]
    exact Nat.lt_log2_self

/-- **Rounding does not bring a number of four or more below four.** -/
theorem isLarge_round {m : Nat} {e : Int} (hm : 52 ≤ m.log2) (he : 3 ≤ totalExponent m e) :
    IsLarge (roundWithAccuracy .binary64 .positive m e .exact) := by
  obtain ⟨hfirst, hexponent⟩ := shiftToTargetExponent_of_log2 hm he
  obtain ⟨hlow, hhigh⟩ := leadingBits_bounds hm
  obtain ⟨hrounded, -⟩ :=
    roundedMantissa_bounds (shiftToTargetExponent .binary64 m e .exact).1
  rw [roundWithAccuracy]
  rcases hshift : shiftToTargetExponent .binary64 m e .exact with ⟨em, e'⟩
  rw [hshift] at hfirst hexponent hrounded
  dsimp only at hfirst hexponent hrounded ⊢
  -- Rounding up may add a bit, which a second shift takes away.
  have hlog : 52 ≤ em.roundedMantissa.log2 := by
    rw [Nat.le_log2 (by omega)]
    omega
  have htotal : 3 ≤ totalExponent em.roundedMantissa e' := by
    simp only [totalExponent] at he hexponent ⊢
    omega
  obtain ⟨hsecond, hlast⟩ := shiftToTargetExponent_of_log2 hlog htotal
  obtain ⟨hlow', hhigh'⟩ := leadingBits_bounds hlog
  rcases hshift' : shiftToTargetExponent .binary64 em.roundedMantissa e' .exact with ⟨em', e''⟩
  rw [hshift'] at hsecond hlast
  dsimp only at hsecond hlast ⊢
  rw [← hsecond] at hlow' hhigh'
  rw [dif_neg (by omega)]
  exact ⟨hlow', hhigh', by omega⟩

/-! ## Storing and multiplying -/

/-- What is stored with an exponent of four or more is read as a large number. -/
theorem isLarge_unpack_packComponents {b : BitVec 11} (v : BitVec 52) (hlow : 1025 ≤ b.toNat)
    (hhigh : b.toNat < 2047) :
    IsLarge (unpack .binary64 (packComponents .binary64 .positive b v)) := by
  -- the exponent is that of a normal number, whose leading one is not stored
  have htop : b ≠ -1#11 := by
    rintro rfl
    exact absurd hhigh (by decide)
  have hbottom : b ≠ 0#11 := by
    rintro rfl
    exact absurd hlow (by decide)
  have hmantissa : (1#1 ++ v).toNat = 2 ^ 52 + v.toNat := by
    rw [BitVec.toNat_append]
    show 1 <<< 52 ||| v.toNat = _
    rw [Nat.shiftLeft_eq, Nat.one_mul, Nat.or_comm, Nat.or_two_pow_eq_add_of_lt v.isLt,
      Nat.add_comm]
  have hsign : unpackSign (packComponents .binary64 .positive b v) = 0#1 := by
    show (Sign.positive.toBitVec ++ b ++ v).extractLsb' 63 1 = 0#1
    rw [BitVec.extractLsb'_append_eq_of_le (by decide),
      BitVec.extractLsb'_append_eq_of_le (by decide)]
    rfl
  have hfraction : unpackMantissa (packComponents .binary64 .positive b v) = v :=
    unpackMantissa_packComponents
  have hexponent : unpackExponent (packComponents .binary64 .positive b v) = b :=
    unpackExponent_packComponents
  have hv : v.toNat < 2 ^ 52 := v.isLt
  unfold unpack
  rw [if_neg (by rw [hexponent]; exact htop), if_neg (by rw [hexponent]; exact hbottom)]
  apply isLarge_finite
  · rw [hsign]
    rfl
  · rw [hfraction]
    show 2 ^ 52 ≤ (1#1 ++ v).toNat
    omega
  · rw [hfraction]
    show (1#1 ++ v).toNat < 2 ^ 53
    omega
  · rw [hexponent]
    show -50 ≤ (b.toNat : Int) - (1023 + 52)
    omega

/-- A large number is large when it is read from the bits that it is stored as. -/
theorem isLarge_unpack_pack {u : Float.Model.UnpackedFloat} (h : IsLarge u) :
    IsLarge (Float.Model.pack u).unpack := by
  have hinfinity : IsLarge (unpack .binary64 (packedInfinity .binary64 .positive)) := by
    have hunpack : unpack .binary64 (packedInfinity .binary64 .positive) = .infinity .positive := by
      rfl
    rw [hunpack]
    trivial
  cases u with
  | infinity s =>
    cases s with
    | positive => exact hinfinity
    | negative => cases h
  | notANumber => cases h
  | zero s => cases h
  | finite s m e hm =>
    cases s with
    | negative => cases h
    | positive =>
      obtain ⟨hlow, hhigh, he⟩ := h
      have hlog : m.log2 = 52 := (Nat.log2_eq_iff (by omega)).2 ⟨hlow, hhigh⟩
      show IsLarge (unpack .binary64 (pack .binary64 (.finite .positive m e hm)))
      unfold pack
      dsimp only
      split
      · -- an exponent that does not fit is packed as infinity, which is large
        exact hinfinity
      · rename_i hsmall
        replace hsmall : ¬ 2048 ≤ (e + 1023 + 52).toNat + 1 := hsmall
        have hstored : (BitVec.ofNat 11 (e + 1023 + 52).toNat).toNat = (e + 1023 + 52).toNat := by
          rw [BitVec.toNat_ofNat]
          exact Nat.mod_eq_of_lt (by omega)
        rw [hlog, if_pos (by rfl)]
        apply isLarge_unpack_packComponents
        · show 1025 ≤ (BitVec.ofNat 11 (e + 1023 + 52).toNat).toNat
          omega
        · show (BitVec.ofNat 11 (e + 1023 + 52).toNat).toNat < 2047
          omega

/-- The double of one. -/
theorem unpack_one : (Float.exactlyRepresentablePowersOfTen[0]).toModel.unpack =
    .finite .positive (2 ^ 52) (-52) (by decide) := by
  rfl

/-- A large number times one is large. -/
theorem isLarge_mul_one {u : Float.Model.UnpackedFloat} (h : IsLarge u) :
    IsLarge (mul .binary64 u (.finite .positive (2 ^ 52) (-52) (by decide))) := by
  cases u with
  | infinity s =>
    cases s with
    | positive => trivial
    | negative => cases h
  | notANumber => cases h
  | zero s => cases h
  | finite s m e hm =>
    cases s with
    | negative => cases h
    | positive =>
      obtain ⟨hlow, hhigh, he⟩ := h
      have hlog : (m * 2 ^ 52).log2 = 104 := by
        rw [Nat.log2_eq_iff (by omega)]
        omega
      apply isLarge_round
      · omega
      · simp only [totalExponent]
        omega

/-! ## Whole numbers -/

/-- Multiplying by a power of two adds bits. -/
theorem log2_shiftLeft {n : Nat} (hn : n ≠ 0) (k : Nat) : (n <<< k).log2 = n.log2 + k := by
  have hlow := Nat.mul_le_mul_right (2 ^ k) (Nat.log2_self_le hn)
  have hhigh := Nat.mul_lt_mul_of_pos_right (Nat.lt_log2_self (n := n)) (Nat.two_pow_pos k)
  rw [← Nat.pow_add] at hlow hhigh
  have hpos : 0 < n * 2 ^ k := Nat.mul_pos (Nat.pos_of_ne_zero hn) (Nat.two_pow_pos k)
  rw [Nat.shiftLeft_eq, Nat.log2_eq_iff (Nat.ne_of_gt hpos)]
  exact ⟨hlow, by rwa [Nat.add_right_comm] at hhigh⟩

/-- A whole number from four on that fits the mantissa. -/
theorem isLarge_ofNat_of_lt {n : Nat} (hn : 4 ≤ n) (hlt : n < 2 ^ 53) :
    IsLarge (ofNat .binary64 n) := by
  have hlog : 2 ≤ n.log2 := (Nat.le_log2 (by omega)).2 hn
  have hlog' : n.log2 < 53 := (Nat.log2_lt (by omega)).2 hlt
  have htarget : Format.binary64.targetExponent (totalExponent n 0) = n.log2 - 52 := by
    rw [targetExponent_binary64]
    simp only [totalExponent]
    omega
  have hshift : (0 - ((n.log2 : Int) - 52)).toNat = 52 - n.log2 := by omega
  rw [ofNat, ofInt, Float.Model.UnpackedFloat.normalize, Int.compare_eq_gt.2 (by omega)]
  simp only [Int.toNat_natCast, Float.Model.UnpackedFloat.round, htarget, decreaseExponent, hshift]
  have hbits := log2_shiftLeft (n := n) (by omega) (52 - n.log2)
  apply isLarge_round
  · omega
  · simp only [totalExponent]
    omega

/-- A whole number is rounded with as many bits behind it as are kept. -/
theorem ofScientific_zero {n : Nat} (hn : n ≠ 0) : ofScientific .binary64 n 0 =
    roundWithAccuracy .binary64 .positive (n <<< 53) (-53) .exact := by
  have hlow : ¬ (0 : Int) > 2 ^ Format.binary64.exponentBits := by decide
  have hhigh : ¬ (0 : Int) < -(2 ^ Format.binary64.exponentBits + (n.log2 : Int)) := by
    have hpower : (0 : Int) < 2 ^ Format.binary64.exponentBits := by decide
    omega
  have hpower : 10 ^ (0 : Int).toNat = 1 := by rfl
  rw [ofScientific, dif_neg hn, if_neg hlow, if_neg hhigh, if_pos (Int.le_refl 0)]
  show roundWithAccuracy .binary64 (.positive * .positive) (n <<< 53 * 10 ^ (0 : Int).toNat)
    (-53 + 0) .exact = _
  rw [hpower, Nat.mul_one]
  rfl

/-- A whole number from four on, however large it is. -/
theorem isLarge_ofScientific {n : Nat} (hn : 4 ≤ n) : IsLarge (ofScientific .binary64 n 0) := by
  have hne : n ≠ 0 := by omega
  have hlog : 2 ≤ n.log2 := (Nat.le_log2 hne).2 hn
  have hbits := log2_shiftLeft hne 53
  rw [ofScientific_zero hne]
  generalize n <<< 53 = m at hbits ⊢
  apply isLarge_round
  · omega
  · rw [totalExponent]
    omega

/-- **Whole numbers from four on are large as doubles.** -/
theorem isLarge_ofNat {n : Nat} (hn : 4 ≤ n) : IsLarge (Float.ofNat n).toModel.unpack := by
  rw [Float.ofNat]
  show IsLarge (Float.ofScientific n false 0).toModel.unpack
  rw [Float.ofScientific]
  split
  · rename_i hlt
    have hsmall : n.toUInt64.toNat = n := by
      rw [Nat.toUInt64_eq, UInt64.toNat_ofNat']
      exact Nat.mod_eq_of_lt (by omega)
    have hfirst : IsLarge (Float.Model.ofUInt64 n.toUInt64).unpack := by
      rw [Float.Model.ofUInt64, ofUInt64, hsmall]
      exact isLarge_unpack_pack (isLarge_ofNat_of_lt hn hlt.1)
    show IsLarge (Float.Model.pack (mul .binary64 (Float.Model.ofUInt64 n.toUInt64).unpack
      (Float.exactlyRepresentablePowersOfTen[0]).toModel.unpack)).unpack
    rw [unpack_one]
    exact isLarge_unpack_pack (isLarge_mul_one hfirst)
  · exact isLarge_unpack_pack (isLarge_ofScientific hn)

/-- A large number is not two. -/
theorem beq_two_of_isLarge {x : Float} (h : IsLarge x.toModel.unpack) :
    (x == Float.ofInt 2) = false := by
  have htwo : (Float.ofInt 2).toModel.unpack = .finite .positive (2 ^ 52) (-51) (by decide) := by
    rfl
  show x.toModel.unpack.beq (Float.ofInt 2).toModel.unpack = false
  rw [htwo]
  rcases hx : x.toModel.unpack with s | _ | s | ⟨s, m, e, hm⟩ <;> rw [hx] at h
  · cases s with
    | positive => rfl
    | negative => cases h
  · cases h
  · cases h
  · cases s with
    | negative => cases h
    | positive =>
      have hexponent : compare e (-51) = .gt := Int.compare_eq_gt.2 (by have := h.2.2; omega)
      show (some ((compare e (-51)).then (compare m (2 ^ 52))) == some Ordering.eq) = false
      rw [hexponent]
      rfl

/-- **A whole number equals two as a double only if it is two.** -/
theorem ofNat_beq_two (n : Nat) : (Float.ofInt n == Float.ofInt 2) = (n == 2) := by
  by_cases hn : n < 4
  · interval_cases n <;> decide
  · have hlarge : IsLarge (Float.ofInt n).toModel.unpack := isLarge_ofNat (by omega)
    rw [beq_two_of_isLarge hlarge]
    symm
    rw [beq_eq_false_iff_ne]
    omega

end Scaffold.Decimal
