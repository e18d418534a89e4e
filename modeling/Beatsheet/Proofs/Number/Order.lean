/-
# Beatsheet.Proofs.Number.Order — the order of shares

Shares of small numbers are told apart by the binary64 numbers nearest to them (`toFloat_lt_iff`):
different fractions with numbers up to `2 ^ 26` are further apart than two neighbouring numbers, so
they are not rounded to the same one. Of positive numbers the one with the larger bits is the larger
(`ofBits_lt_iff`), and the bits of a share are made of the number of its places, which are fewer for
a larger share, and of its significand, which is off by at most one half.
-/
import Beatsheet.Proofs.Number.Half

set_option autoImplicit false

namespace Beatsheet.Share

open Float.Model Float.Model.UnpackedFloat

/-! ## Rounding -/

/-- Rounding is off by at most one half. -/
theorem roundHalfEven_bounds (n : Nat) {d : Nat} (pos : 0 < d) :
    2 * n ≤ 2 * (d * roundHalfEven n d) + d ∧ 2 * (d * roundHalfEven n d) ≤ 2 * n + d := by
  have split := Nat.div_add_mod n d
  have rest := Nat.mod_lt n pos
  unfold roundHalfEven
  split
  · rename_i up
    have half : d ≤ 2 * (n % d) := by
      simp only [Bool.or_eq_true, decide_eq_true_eq, Bool.and_eq_true, beq_iff_eq] at up
      omega
    rw [Nat.mul_add, Nat.mul_one]
    omega
  · rename_i down
    have half : 2 * (n % d) ≤ d := by
      simp only [Bool.or_eq_true, decide_eq_true_eq, not_or] at down
      omega
    omega

/-- What is more than one apart is not rounded to the same number. -/
theorem roundHalfEven_lt {n m d e : Nat} (posD : 0 < d) (posE : 0 < e)
    (apart : n * e + d * e < m * d) : roundHalfEven n d < roundHalfEven m e := by
  have upper := (roundHalfEven_bounds n posD).2
  have lower := (roundHalfEven_bounds m posE).1
  by_contra notLess
  have le : d * e * roundHalfEven m e ≤ d * e * roundHalfEven n d :=
    Nat.mul_le_mul_left _ (Nat.le_of_not_lt notLess)
  have first := Nat.mul_le_mul_right e upper
  have second := Nat.mul_le_mul_right d lower
  nlinarith

theorem roundHalfEven_mul {k : Nat} (pos : 0 < k) (n d : Nat) :
    roundHalfEven (n * k) (d * k) = roundHalfEven n d := by
  have quotient : n * k / (d * k) = n / d := Nat.mul_div_mul_right n d pos
  have rest : n * k % (d * k) = n % d * k := Nat.mul_mod_mul_right k n d
  have more : d * k < 2 * (n % d * k) ↔ d < 2 * (n % d) := by
    rw [← Nat.mul_assoc, Nat.mul_lt_mul_right pos]
  have tie : 2 * (n % d * k) = d * k ↔ 2 * (n % d) = d := by
    rw [← Nat.mul_assoc, Nat.mul_left_inj pos.ne']
  simp only [roundHalfEven, quotient, rest, more, Bool.beq_eq_decide_eq, tie]

theorem le_roundHalfEven {n d m : Nat} (pos : 0 < d) (le : d * m ≤ n) : m ≤ roundHalfEven n d := by
  have floor : m ≤ n / d := (Nat.le_div_iff_mul_le pos).mpr (Nat.mul_comm d m ▸ le)
  unfold roundHalfEven
  split <;> omega

/-- Only the fraction counts. -/
theorem roundHalfEven_eq {n d m e : Nat} (posD : 0 < d) (posE : 0 < e) (same : n * e = m * d) :
    roundHalfEven n d = roundHalfEven m e := by
  rw [← roundHalfEven_mul posE n d, ← roundHalfEven_mul posD m e, same, Nat.mul_comm d e]

/-! ## Places -/

section Places

variable {a b c d : Nat}

/-- A share of a small number has a significand of 53 bits. -/
theorem places_bounds (pos : 0 < a) (le : a ≤ b) (small : b < 2 ^ 27) :
    b * 2 ^ 52 ≤ a * 2 ^ places a b ∧ a * 2 ^ places a b < b * 2 ^ 53 ∧
      52 ≤ places a b ∧ places a b ≤ 79 := by
  obtain ⟨p, places_, least, most, lower, upper⟩ := exists_places pos le
  have short : b.log2 < 27 := (Nat.log2_lt (by omega)).mpr small
  rw [places_, Nat.min_eq_right (by omega)]
  exact ⟨lower, upper, least, by omega⟩

/-- The larger of two shares has no more places. -/
theorem places_le (posA : 0 < a) (leA : a ≤ b) (posC : 0 < c) (leC : c ≤ d)
    (less : a * d ≤ c * b) : places c d ≤ places a b := by
  obtain ⟨p, placesA, -, -, lower, -⟩ := exists_places posA leA
  obtain ⟨q, placesC, -, -, -, upper⟩ := exists_places posC leC
  have fewer : q ≤ p := by
    by_contra more
    -- One more place would double the significand, which has 53 bits already.
    have twice : 2 ^ (p + 1) ≤ 2 ^ q := Nat.pow_le_pow_right (by decide) (by omega)
    rw [Nat.pow_succ] at twice
    generalize 2 ^ p = s at *
    generalize 2 ^ q = t at *
    have first : b * 2 ^ 52 * d * 2 ≤ a * s * d * 2 :=
      Nat.mul_le_mul_right _ (Nat.mul_le_mul_right d lower)
    have second : a * d * (s * 2) ≤ c * b * t := Nat.mul_le_mul less twice
    have third : c * t * b < d * 2 ^ 53 * b := Nat.mul_lt_mul_of_pos_right upper (by omega)
    nlinarith
  rw [placesA, placesC]
  omega

/-- A share that is no whole has more places than the significand needs. -/
theorem places_of_lt (pos : 0 < a) (less : a < b) (small : b < 2 ^ 27) : 53 ≤ places a b := by
  obtain ⟨lower, -, least, -⟩ := places_bounds pos less.le small
  refine Nat.lt_of_le_of_ne least fun same => ?_
  rw [← same] at lower
  omega

/-- The significand of such a share is not rounded up to one of 54 bits. -/
theorem roundHalfEven_places_lt (pos : 0 < a) (less : a < b) (small : b < 2 ^ 27) :
    roundHalfEven (a <<< places a b) b < 2 ^ 53 := by
  obtain ⟨-, upper, -, -⟩ := places_bounds pos less.le small
  obtain ⟨k, more⟩ := Nat.exists_eq_add_of_le (places_of_lt pos less small)
  have near := (roundHalfEven_bounds (a <<< places a b) (by omega : 0 < b)).2
  rw [Nat.shiftLeft_eq] at near ⊢
  have shifted : a * 2 ^ places a b = a * 2 ^ k * 2 ^ 53 := by
    rw [more, Nat.pow_add, Nat.mul_assoc, Nat.mul_comm (2 ^ 53)]
  rw [shifted] at upper near ⊢
  have below : a * 2 ^ k + 1 ≤ b := Nat.lt_of_mul_lt_mul_right upper
  by_contra rounded
  have all : b * 2 ^ 53 ≤ b * roundHalfEven (a * 2 ^ k * 2 ^ 53) b :=
    Nat.mul_le_mul_left b (Nat.le_of_not_lt rounded)
  omega

/-- The product of two wholes is not too large for their shares, which have as many places. -/
theorem mul_lt_two_pow_places (posA : 0 < a) (lessA : a < b) (smallA : a + b < 2 ^ 27)
    (posC : 0 < c) (leC : c ≤ d) (smallC : c + d < 2 ^ 27) (same : places c d = places a b) :
    b * d < 2 ^ places a b := by
  obtain ⟨lowerA, -, -, -⟩ := places_bounds posA lessA.le (by omega)
  obtain ⟨lowerC, -, -, -⟩ := places_bounds posC leC (by omega)
  rw [same] at lowerC
  rcases Nat.lt_or_eq_of_le (places_of_lt posA lessA (by omega)) with more | least
  · calc b * d
      _ < 2 ^ 27 * 2 ^ 27 := Nat.mul_lt_mul'' (by omega) (by omega)
      _ ≤ 2 ^ places a b := by
          rw [← Nat.pow_add]
          exact Nat.pow_le_pow_right (by decide) more
  · -- Both shares are at least one half, so the wholes are at most two thirds of what is in both.
    rw [← least] at lowerA lowerC ⊢
    calc b * d
      _ < 89478486 * 89478486 := Nat.mul_lt_mul'' (by omega) (by omega)
      _ ≤ 2 ^ 53 := by decide

/-- **The bits of a larger share are larger**, if the numbers are small enough. -/
theorem bits_lt (posA : 0 < a) (leA : a ≤ b) (smallA : a + b < 2 ^ 27) (posC : 0 < c) (leC : c ≤ d)
    (smallC : c + d < 2 ^ 27) (less : a * d < c * b) : bits a b < bits c d := by
  have noWhole : a < b :=
    Nat.lt_of_mul_lt_mul_right (less.trans_le (Nat.mul_comm b d ▸ Nat.mul_le_mul_right b leC))
  have fewer := places_le posA leA posC leC less.le
  obtain ⟨lower, -, -, most⟩ := places_bounds posC leC (by omega)
  rw [Nat.mul_comm, ← Nat.shiftLeft_eq] at lower
  unfold bits
  rcases Nat.lt_or_eq_of_le fewer with fewer | same
  · have significand := roundHalfEven_places_lt posA noWhole (by omega)
    have least := le_roundHalfEven (by omega : 0 < d) (Nat.mul_comm (2 ^ 52) d ▸ lower)
    obtain ⟨-, -, -, most⟩ := places_bounds posA leA (by omega)
    rw [leadingBit]
    omega
  · have product := mul_lt_two_pow_places posA noWhole smallA posC leC smallC same
    rw [same]
    refine Nat.add_lt_add_left (roundHalfEven_lt (by omega) (by omega) ?_) _
    rw [Nat.shiftLeft_eq, Nat.shiftLeft_eq]
    generalize 2 ^ places a b = p at *
    have apart : (a * d + 1) * p ≤ c * b * p := Nat.mul_le_mul_right p less
    nlinarith

/-- Only the fraction counts. -/
theorem bits_eq (posA : 0 < a) (leA : a ≤ b) (posC : 0 < c) (leC : c ≤ d) (same : a * d = c * b) :
    bits a b = bits c d := by
  have places_ : places a b = places c d := Nat.le_antisymm
    (places_le posC leC posA leA same.ge) (places_le posA leA posC leC same.le)
  have significand : roundHalfEven (a <<< places c d) b = roundHalfEven (c <<< places c d) d := by
    refine roundHalfEven_eq (by omega) (by omega) ?_
    rw [Nat.shiftLeft_eq, Nat.shiftLeft_eq, Nat.mul_right_comm, same, Nat.mul_right_comm]
  rw [bits, bits, places_, significand]

/-- They are those of a positive normal number that is one at most. -/
theorem bits_bounds (pos : 0 < a) (le : a ≤ b) (small : b < 2 ^ 27) :
    2 ^ 52 ≤ bits a b ∧ bits a b ≤ 0x3FF0000000000000 := by
  obtain ⟨lower, upper, least, most⟩ := places_bounds pos le small
  rcases Nat.lt_or_eq_of_le le with less | rfl
  · have more := places_of_lt pos less small
    have significand := roundHalfEven_places_lt pos less small
    unfold bits
    rw [leadingBit]
    omega
  · rw [bits_self pos]
    decide

end Places

/-! ## Numbers -/

theorem toNat_unpackMantissa (b : BitVec 64) :
    (@unpackMantissa .binary64 b).toNat = b.toNat % 2 ^ 52 := by
  rw [unpackMantissa, BitVec.toNat_cast, BitVec.extractLsb_toNat, Nat.shiftRight_zero]
  rfl

theorem toNat_packComponents (e : BitVec 11) (m : BitVec 52) :
    (packComponents .binary64 .positive e m).toNat = e.toNat * 2 ^ 52 + m.toNat := by
  have rest := m.isLt
  show (0#1 ++ e ++ m).toNat = _
  rw [BitVec.toNat_append, BitVec.toNat_append, ← Nat.shiftLeft_add_eq_or_of_lt rest]
  simp [Nat.shiftLeft_eq]

/-- A number with these bits, taken apart. -/
def normal (n : Nat) : UnpackedFloat :=
  .finite .positive (2 ^ 52 + n % 2 ^ 52) ((n / 2 ^ 52 : Nat) - 1075) (by omega)

theorem unpack_normal {b : BitVec 64} (least : 2 ^ 52 ≤ b.toNat)
    (most : b.toNat < 0x7FF0000000000000) : UnpackedFloat.unpack .binary64 b = normal b.toNat := by
  have exponent := toNat_unpackExponent b
  have mantissa := toNat_unpackMantissa b
  have sign : @unpackSign .binary64 b = 0#1 := unpackSign_eq_zero (by omega)
  have field : b.toNat / 2 ^ 52 % 2 ^ 11 = b.toNat / 2 ^ 52 := by omega
  rw [field] at exponent
  unfold UnpackedFloat.unpack
  dsimp only
  rw [sign]
  split
  · rename_i all
    rw [all] at exponent
    have largest : (-1#11).toNat = 2047 := rfl
    omega
  · split
    · rename_i zero
      rw [zero] at exponent
      have none_ : (0#11).toNat = 0 := rfl
      omega
    · have significand :
          (1#1 ++ @unpackMantissa .binary64 b).toNat = 2 ^ 52 + b.toNat % 2 ^ 52 := by
        have rest := (@unpackMantissa .binary64 b).isLt
        rw [BitVec.toNat_append, ← Nat.shiftLeft_add_eq_or_of_lt rest, mantissa]
        rfl
      simp only [significand, exponent, normal]
      rfl

theorem pack_finite {m : Nat} {e : Int} (pos : 0 < m) (whole : m.log2 = 52) (most : e < 972) :
    UnpackedFloat.pack .binary64 (.finite .positive m e pos) =
      packComponents .binary64 .positive (BitVec.ofNat 11 (e + 1023 + 52).toNat)
        (BitVec.ofNat 52 m) := by
  unfold UnpackedFloat.pack
  dsimp only
  split
  · rename_i overflows
    have within : (e + 1023 + 52).toNat + 1 < 2 ^ 11 := by omega
    exact absurd overflows (Nat.not_le_of_lt within)
  · have normal : m.log2 + 1 = Format.binary64.mantissaBits := congrArg (· + 1) whole
    rw [if_pos normal]
    rfl

/-- Putting it together again gives the same bits. -/
theorem pack_normal {b : BitVec 64} (least : 2 ^ 52 ≤ b.toNat)
    (most : b.toNat < 0x7FF0000000000000) : UnpackedFloat.pack .binary64 (normal b.toNat) = b := by
  have whole : (2 ^ 52 + b.toNat % 2 ^ 52).log2 = 52 := by
    rw [Nat.log2_eq_iff (by omega)]
    omega
  rw [normal, pack_finite _ whole (by omega)]
  apply BitVec.eq_of_toNat_eq
  rw [toNat_packComponents, BitVec.toNat_ofNat, BitVec.toNat_ofNat]
  omega

theorem unpack_ofBits {n : Nat} (least : 2 ^ 52 ≤ n) (most : n < 0x7FF0000000000000) :
    (Float.ofBits (UInt64.ofNat n)).toModel.unpack = normal n := by
  have word : (UInt64.ofNat n).toBitVec.toNat = n := by
    rw [UInt64.toNat_toBitVec, UInt64.toNat_ofNat']
    omega
  have whole := unpack_normal (b := (UInt64.ofNat n).toBitVec) (by rwa [word]) (by rwa [word])
  have packed := pack_normal (b := (UInt64.ofNat n).toBitVec) (by rwa [word]) (by rwa [word])
  show UnpackedFloat.unpack .binary64 (UnpackedFloat.pack .binary64
    (UnpackedFloat.unpack .binary64 (UInt64.ofNat n).toBitVec)) = _
  rw [whole, packed, whole, word]

/-- Bits are in the order of the numbers: of two exponents the larger one decides. -/
theorem compare_normal (n m : Nat) : (normal n).compare (normal m) = some (compare n m) := by
  rw [normal, normal, UnpackedFloat.compare, Option.some_inj]
  rcases Nat.lt_trichotomy (n / 2 ^ 52) (m / 2 ^ 52) with lower | same | higher
  · have less : n < m := by omega
    rw [Int.compare_eq_lt.mpr (by omega), Nat.compare_eq_lt.mpr less]
    rfl
  · rw [same, Int.compare_eq_eq.mpr rfl]
    show compare (2 ^ 52 + n % 2 ^ 52) (2 ^ 52 + m % 2 ^ 52) = compare n m
    rcases Nat.lt_trichotomy n m with less | equal | more
    · rw [Nat.compare_eq_lt.mpr less, Nat.compare_eq_lt.mpr (by omega)]
    · rw [equal, Nat.compare_eq_eq.mpr rfl, Nat.compare_eq_eq.mpr rfl]
    · rw [Nat.compare_eq_gt.mpr more, Nat.compare_eq_gt.mpr (by omega)]
  · have more : m < n := by omega
    rw [Int.compare_eq_gt.mpr (by omega), Nat.compare_eq_gt.mpr more]
    rfl

/-- **Of two positive normal numbers the one with the larger bits is the larger.** -/
theorem ofBits_lt_iff {n m : Nat} (leastN : 2 ^ 52 ≤ n) (mostN : n < 0x7FF0000000000000)
    (leastM : 2 ^ 52 ≤ m) (mostM : m < 0x7FF0000000000000) :
    Float.ofBits (UInt64.ofNat n) < Float.ofBits (UInt64.ofNat m) ↔ n < m := by
  have less : Float.ofBits (UInt64.ofNat n) < Float.ofBits (UInt64.ofNat m) ↔
      (Float.ofBits (UInt64.ofNat n)).toModel.unpack.lt
        (Float.ofBits (UInt64.ofNat m)).toModel.unpack = true :=
    ⟨of_decide_eq_true, decide_eq_true⟩
  rw [less, unpack_ofBits leastN mostN, unpack_ofBits leastM mostM, UnpackedFloat.lt,
    compare_normal, beq_iff_eq, Option.some_inj, Nat.compare_eq_lt]

/-! ## Comparing either way -/

theorem swap_compare (u v : UnpackedFloat) : (u.compare v).map Ordering.swap = v.compare u := by
  have finite : ∀ (m n : Nat) (e f : Int), ((compare e f).then (compare m n)).swap =
      (compare f e).then (compare n m) := by
    intro m n e f
    rw [Ordering.swap_then, Int.compare_swap, Nat.compare_swap]
  cases u with
  | notANumber => cases v <;> rfl
  | infinity s =>
      cases v with
      | infinity s' => cases s <;> cases s' <;> rfl
      | notANumber => rfl
      | zero s' => cases s <;> rfl
      | finite s' m e pos => cases s <;> cases s' <;> rfl
  | zero s =>
      cases v with
      | infinity s' => cases s' <;> rfl
      | notANumber | zero s' => rfl
      | finite s' m e pos => cases s' <;> rfl
  | finite s m e pos =>
      cases v with
      | infinity s' => cases s <;> cases s' <;> rfl
      | notANumber => rfl
      | zero s' => cases s <;> rfl
      | finite s' n f pos' =>
          cases s <;> cases s'
          · simp [UnpackedFloat.compare, ← finite m n e f]
          · rfl
          · rfl
          · simp [UnpackedFloat.compare, ← finite m n e f]

theorem exists_compare {u v : UnpackedFloat} (numberU : u.isNaN = false)
    (numberV : v.isNaN = false) : ∃ order, u.compare v = some order := by
  cases u with
  | notANumber => cases numberU
  | infinity s | zero s | finite s m e pos =>
      cases v with
      | notANumber => cases numberV
      | infinity s' | zero s' | finite s' n f pos' =>
          cases s <;> cases s' <;> exact ⟨_, rfl⟩

/-- What does not reach a number is less than it, unless it is no number. -/
theorem not_le_iff {t x : Float} (numberT : t.isNaN = false) (numberX : x.isNaN = false) :
    ¬ t ≤ x ↔ x < t := by
  have reaches : t ≤ x ↔ t.toModel.unpack.le x.toModel.unpack = true :=
    ⟨of_decide_eq_true, decide_eq_true⟩
  have less : x < t ↔ x.toModel.unpack.lt t.toModel.unpack = true :=
    ⟨of_decide_eq_true, decide_eq_true⟩
  obtain ⟨order, compared⟩ := exists_compare numberT numberX
  rw [reaches, less, UnpackedFloat.le, UnpackedFloat.lt,
    ← swap_compare t.toModel.unpack, compared]
  cases order <;> decide

/-! ## Shares -/

section

variable {a b c d : Nat}

/-- **The numbers are in the order of the shares.** -/
theorem toFloat_lt_iff (posA : 0 < a) (leA : a ≤ b) (smallA : a + b < 2 ^ 27) (posC : 0 < c)
    (leC : c ≤ d) (smallC : c + d < 2 ^ 27) : toFloat a b < toFloat c d ↔ a * d < c * b := by
  obtain ⟨leastA, mostA⟩ := bits_bounds posA leA (by omega)
  obtain ⟨leastC, mostC⟩ := bits_bounds posC leC (by omega)
  rw [toFloat, toFloat, ofBits_lt_iff leastA (by omega) leastC (by omega)]
  rcases Nat.lt_trichotomy (a * d) (c * b) with less | same | more
  · exact iff_of_true (bits_lt posA leA smallA posC leC smallC less) less
  · have bits := bits_eq posA leA posC leC same
    omega
  · have bits := bits_lt posC leC smallC posA leA smallA more
    omega

theorem isNaN_toFloat (pos : 0 < a) (le : a ≤ b) (small : b < 2 ^ 27) :
    (toFloat a b).isNaN = false := by
  obtain ⟨least, most⟩ := bits_bounds pos le small
  show (toFloat a b).toModel.unpack.isNaN = false
  rw [toFloat, unpack_ofBits least (by omega)]
  rfl

end

end Beatsheet.Share
