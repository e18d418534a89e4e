/-
# Beatsheet.Proofs.Number.Half — shares above a half

A threshold above one half is reached only by shares above one half (`lt_of_reached`). Of the
numbers it is enough to know how they compare with one half. The bits of a share that is not above
are not above those of one half (`bits_le_half`), and then the number is zero, positive with a
smaller exponent, or one half itself.
-/
import Beatsheet.Number.Share
import Mathlib

set_option autoImplicit false

namespace Beatsheet.Share

open Float.Model Float.Model.UnpackedFloat

/-! ## Bits -/

/-- Rounding does not pass a whole number. -/
theorem roundHalfEven_le {n d m : Nat} (pos : 0 < d) (le : n ≤ d * m) : roundHalfEven n d ≤ m := by
  have floor : n / d ≤ m := Nat.div_le_of_le_mul le
  unfold roundHalfEven
  rcases Nat.lt_or_eq_of_le floor with less | rfl
  · split
    · exact less
    · exact floor
  · -- A whole quotient leaves no remainder to round up.
    have whole := Nat.div_add_mod n d
    have rest : n % d = 0 := by omega
    have noTie : (0 == d) = false := beq_false_of_ne (Nat.ne_of_lt pos)
    refine Nat.le_of_eq (if_neg ?_)
    simp [rest, noTie]

/-- The places that a significand of 53 bits needs; a number has 1074 of them at most. -/
theorem exists_places {a b : Nat} (pos : 0 < a) (le : a ≤ b) :
    ∃ p, places a b = min 1074 p ∧ 52 ≤ p ∧ p ≤ 53 + b.log2 ∧
      b * 2 ^ 52 ≤ a * 2 ^ p ∧ a * 2 ^ p < b * 2 ^ 53 := by
  have shorter : a.log2 ≤ b.log2 :=
    (Nat.le_log2 (by omega)).mpr (Nat.le_trans (Nat.log2_self_le (by omega)) le)
  have upper : a * 2 ^ (52 + (b.log2 - a.log2)) < b * 2 ^ 53 :=
    calc a * 2 ^ (52 + (b.log2 - a.log2))
      _ < 2 ^ (a.log2 + 1) * 2 ^ (52 + (b.log2 - a.log2)) :=
          Nat.mul_lt_mul_of_pos_right Nat.lt_log2_self (Nat.two_pow_pos _)
      _ = 2 ^ b.log2 * 2 ^ 53 := by
          rw [← Nat.pow_add, ← Nat.pow_add]
          congr 1
          omega
      _ ≤ b * 2 ^ 53 := Nat.mul_le_mul_right _ (Nat.log2_self_le (by omega))
  have lower : b * 2 ^ 52 ≤ a * 2 ^ (52 + (b.log2 - a.log2) + 1) :=
    calc b * 2 ^ 52
      _ ≤ 2 ^ (b.log2 + 1) * 2 ^ 52 := Nat.mul_le_mul_right _ (Nat.le_of_lt Nat.lt_log2_self)
      _ = 2 ^ a.log2 * 2 ^ (52 + (b.log2 - a.log2) + 1) := by
          rw [← Nat.pow_add, ← Nat.pow_add]
          congr 1
          omega
      _ ≤ a * 2 ^ (52 + (b.log2 - a.log2) + 1) :=
          Nat.mul_le_mul_right _ (Nat.log2_self_le (by omega))
  unfold places
  dsimp only
  rw [Nat.shiftLeft_eq, leadingBit]
  split
  · rename_i short
    refine ⟨_, rfl, by omega, by omega, lower, ?_⟩
    rw [Nat.pow_succ, ← Nat.mul_assoc]
    omega
  · rename_i enough
    exact ⟨_, rfl, by omega, by omega, Nat.le_of_not_lt enough, upper⟩

/-- The whole is at most as many binary places longer than the share as the significand has. -/
theorem shiftLeft_places_lt {a b : Nat} (pos : 0 < a) (le : a ≤ b) :
    a <<< places a b < b * 2 ^ 53 := by
  obtain ⟨p, places_, -, -, -, upper⟩ := exists_places pos le
  rw [places_, Nat.shiftLeft_eq]
  exact Nat.lt_of_le_of_lt
    (Nat.mul_le_mul_left a (Nat.pow_le_pow_right (by decide) (Nat.min_le_right 1074 p))) upper

theorem le_places {a b : Nat} (pos : 0 < a) (half : 2 * a ≤ b) : 53 ≤ places a b := by
  have shorter : a.log2 + 1 ≤ b.log2 := by
    rw [Nat.le_log2 (by omega), Nat.pow_succ]
    have low := Nat.log2_self_le (Nat.ne_of_gt pos)
    omega
  unfold places
  dsimp only
  split <;> omega

/-- The number of a share that is a half at most is not above a half, whose bits these are. -/
theorem bits_le_half {a b : Nat} (pos : 0 < a) (half : 2 * a ≤ b) :
    bits a b ≤ 0x3FE0000000000000 := by
  have below := shiftLeft_places_lt pos (by omega : a ≤ b)
  unfold bits
  rcases Nat.lt_or_eq_of_le (le_places pos half) with more | least
  · have rounded := roundHalfEven_le (by omega : 0 < b) (Nat.le_of_lt below)
    simp only [leadingBit]
    omega
  · rw [← least, Nat.shiftLeft_eq, leadingBit]
    have rounded : roundHalfEven (a * 2 ^ 53) b ≤ 2 ^ 52 := roundHalfEven_le (by omega) (by omega)
    omega

/-! ## Numbers -/

/-- One half, taken apart. -/
def half : UnpackedFloat := .finite .positive (2 ^ 52) (-53) (by decide)

theorem unpack_half : (0.5 : Float).toModel.unpack = half := rfl

/-- Zero, or a positive number with a smaller exponent than one half has. -/
def Small (u : UnpackedFloat) : Prop :=
  u = .zero .positive ∨ ∃ m e pos, u = .finite .positive m e pos ∧ e < -53

theorem small_unpack {b : BitVec 64} (positive : @unpackSign .binary64 b = 0#1)
    (below : (@unpackExponent .binary64 b).toNat < 1022) :
    Small (UnpackedFloat.unpack .binary64 b) := by
  have exponent : ∀ n : Nat, n < 1022 → (n : Int) - (1023 + 52) < -53 := by
    intro n below
    omega
  have sign : Sign.ofBitVec 0#1 = .positive := rfl
  unfold UnpackedFloat.unpack
  dsimp only
  rw [positive, sign]
  split
  · rename_i e
    rw [e] at below
    exact absurd below (by decide)
  · split
    · split
      · exact .inl rfl
      · rename_i e _
        refine .inr ⟨_, _, _, rfl, ?_⟩
        rw [e]
        decide
    · exact .inr ⟨_, _, _, rfl, exponent _ below⟩

theorem unpackSign_packComponents (e : BitVec 11) (m : BitVec 52) :
    @unpackSign .binary64 (packComponents .binary64 .positive e m) = 0#1 := by
  ext i hi
  obtain rfl : i = 0 := by omega
  have top : (0#1 ++ e ++ m).getLsbD 63 = false := by
    rw [BitVec.getLsbD_append, BitVec.getLsbD_append]
    rfl
  simp only [unpackSign, Nat.reduceAdd, Nat.reduceSub, packComponents, Sign.toBitVec,
    BitVec.cast_eq, BitVec.getElem_extract, Nat.add_zero, BitVec.getElem_zero]
  exact top

/-- Bits are read into a number by taking them apart, putting them together and, for a comparison,
taking them apart again; a small number stays small on the way. -/
theorem small_unpack_pack {u : UnpackedFloat} (small : Small u) :
    Small (UnpackedFloat.unpack .binary64 (UnpackedFloat.pack .binary64 u)) := by
  rcases small with rfl | ⟨m, e, pos, rfl, below⟩
  · exact .inl rfl
  · have biased : (e + 1023 + 52).toNat < 1022 := by omega
    unfold UnpackedFloat.pack
    dsimp only
    split
    · rename_i overflows
      have within : (e + 1023 + 52).toNat + 1 < 2 ^ 11 := by omega
      exact absurd overflows (Nat.not_le_of_lt within)
    · split
      · apply small_unpack (unpackSign_packComponents _ _)
        rw [unpackExponent_packComponents, BitVec.toNat_ofNat]
        exact Nat.lt_of_le_of_lt (Nat.mod_le _ _) biased
      · apply small_unpack (unpackSign_packComponents _ _)
        rw [unpackExponent_packComponents]
        decide

/-- What such a number reaches is not above one half either. -/
theorem not_half_lt_of_le {u v : UnpackedFloat} (small : Small v ∨ v = half) (le : u.le v = true) :
    half.lt u = false := by
  unfold UnpackedFloat.le at le
  unfold UnpackedFloat.lt
  cases u with
  | notANumber => rfl
  | infinity s =>
      cases s with
      | negative => rfl
      | positive => rcases small with (rfl | ⟨_, _, _, rfl, _⟩) | rfl <;> cases le
  | zero s => cases s <;> rfl
  | finite s m e pos =>
      cases s with
      | negative => rfl
      | positive =>
          have lower : e < -53 → half.compare (.finite .positive m e pos) = some .gt := by
            intro lower
            simp only [UnpackedFloat.compare, half, Int.compare_eq_gt.mpr lower, Ordering.then]
          rcases small with (rfl | ⟨n, f, _, rfl, small⟩) | rfl
          · cases le
          · have notGreater : ¬ f < e := by
              intro greater
              simp [UnpackedFloat.compare, Int.compare_eq_gt.mpr greater] at le
            rw [lower (by omega)]
            rfl
          · have notGreater : ¬ -53 < e := by
              intro greater
              simp [UnpackedFloat.compare, half, Int.compare_eq_gt.mpr greater] at le
            rcases Int.lt_or_eq_of_le (Int.not_lt.mp notGreater) with below | rfl
            · rw [lower below]
              rfl
            · simp [UnpackedFloat.compare, half] at le ⊢
              rw [Nat.isLE_compare] at le
              rw [Nat.compare_eq_lt]
              omega

theorem toNat_unpackSign (b : BitVec 64) :
    (@unpackSign .binary64 b).toNat = b.toNat / 2 ^ 63 % 2 := by
  rw [unpackSign, BitVec.toNat_cast, BitVec.extractLsb_toNat, Nat.shiftRight_eq_div_pow]
  rfl

theorem toNat_unpackExponent (b : BitVec 64) :
    (@unpackExponent .binary64 b).toNat = b.toNat / 2 ^ 52 % 2 ^ 11 := by
  rw [unpackExponent, BitVec.toNat_cast, BitVec.extractLsb_toNat, Nat.shiftRight_eq_div_pow]
  rfl

/-- The bits of a number that is not negative begin with a zero. -/
theorem unpackSign_eq_zero {b : BitVec 64} (less : b.toNat < 2 ^ 63) :
    @unpackSign .binary64 b = 0#1 := by
  refine BitVec.eq_of_toNat_eq ((toNat_unpackSign b).trans ?_)
  rw [BitVec.toNat_ofNat]
  omega

theorem unpackExponent_of_lt {b : BitVec 64} (less : b.toNat < 0x3FE0000000000000) :
    (@unpackExponent .binary64 b).toNat < 1022 := by
  rw [toNat_unpackExponent]
  omega

/-- Nothing above one half is reached by such bits. -/
theorem not_half_lt_ofBits {n : Nat} (le : n ≤ 0x3FE0000000000000) {t : Float}
    (reached : t ≤ Float.ofBits (UInt64.ofNat n)) : ¬ 0.5 < t := by
  have small : Small (Float.ofBits (UInt64.ofNat n)).toModel.unpack ∨
      (Float.ofBits (UInt64.ofNat n)).toModel.unpack = half := by
    rcases Nat.lt_or_eq_of_le le with less | rfl
    · have word : (UInt64.ofNat n).toBitVec.toNat < 0x3FE0000000000000 := by
        rw [UInt64.toNat_toBitVec, UInt64.toNat_ofNat']
        omega
      have read := small_unpack (unpackSign_eq_zero (by omega)) (unpackExponent_of_lt word)
      exact .inl (small_unpack_pack read)
    · exact .inr rfl
  have notLess := not_half_lt_of_le small (of_decide_eq_true reached)
  intro above
  have less : (0.5 : Float).toModel.unpack.lt t.toModel.unpack = true := of_decide_eq_true above
  rw [unpack_half, notLess] at less
  cases less

/-- **What reaches a threshold above one half is more than a half.** -/
theorem lt_of_reached {a b : Nat} (pos : 0 < a) {threshold : Float} (above : 0.5 < threshold)
    (reached : threshold ≤ toFloat a b) : b < 2 * a := by
  refine Nat.lt_of_not_le fun half => ?_
  exact not_half_lt_ofBits (bits_le_half pos half) reached above

end Beatsheet.Share
