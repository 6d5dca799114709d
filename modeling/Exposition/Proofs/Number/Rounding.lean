import Exposition.Number.Rounding
import Mathlib

/-! # Doubles are among the decimals

Every finite double is a decimal, and rounding that decimal gives the double back. So there is a
numeral for each of them.
-/

namespace Exposition

theorem twoTo_eq (n : Nat) : twoTo n = 2 ^ n := rfl

theorem tenTo_eq (n : Nat) : tenTo n = 10 ^ n := rfl

theorem atLeast_iff {num den : Nat} (hd : 0 < den) (guess : Int) :
    (if 0 ≤ guess then decide (den * twoTo guess.toNat ≤ num)
      else decide (den ≤ num * twoTo (-guess).toNat)) = true ↔ (2 : ℚ) ^ guess ≤ num / den := by
  have denPos : (0 : ℚ) < den := by exact_mod_cast hd
  rw [le_div_iff₀ denPos]
  split
  · next natural =>
      obtain ⟨n, rfl⟩ := Int.eq_ofNat_of_zero_le natural
      rw [Int.toNat_natCast, zpow_natCast, twoTo_eq, mul_comm, decide_eq_true_eq]
      exact_mod_cast Iff.rfl
  · next negative =>
      obtain ⟨n, rfl⟩ : ∃ n : Nat, guess = -n := ⟨(-guess).toNat, by omega⟩
      rw [neg_neg, Int.toNat_natCast, zpow_neg, zpow_natCast, twoTo_eq,
        inv_mul_le_iff₀ (by positivity), mul_comm, decide_eq_true_eq]
      exact_mod_cast Iff.rfl

/-- The two logarithms give the one of the quotient, or one more. -/
theorem log2_sub_log2_bounds {num den : Nat} (hn : 0 < num) (hd : 0 < den) :
    (2 : ℚ) ^ ((Nat.log2 num : Int) - Nat.log2 den - 1) < num / den ∧
      (num : ℚ) / den < 2 ^ ((Nat.log2 num : Int) - Nat.log2 den + 1) := by
  have low : ∀ {n : Nat}, 0 < n → (2 : ℚ) ^ (Nat.log2 n : Int) ≤ n := fun hn => by
    rw [zpow_natCast]
    exact_mod_cast Nat.log2_self_le hn.ne'
  have high : ∀ n : Nat, (n : ℚ) < 2 ^ ((Nat.log2 n : Int) + 1) := fun n => by
    have := Nat.lt_log2_self (n := n)
    exact_mod_cast this
  have denPos : (0 : ℚ) < den := by exact_mod_cast hd
  have two : (2 : ℚ) ≠ 0 := by norm_num
  constructor
  · rw [lt_div_iff₀ denPos]
    calc (2 : ℚ) ^ ((Nat.log2 num : Int) - Nat.log2 den - 1) * den
        < 2 ^ ((Nat.log2 num : Int) - Nat.log2 den - 1) * 2 ^ ((Nat.log2 den : Int) + 1) :=
          mul_lt_mul_of_pos_left (high den) (by positivity)
      _ = 2 ^ (Nat.log2 num : Int) := by rw [← zpow_add₀ two]; congr 1; ring
      _ ≤ num := low hn
  · rw [div_lt_iff₀ denPos]
    calc (num : ℚ) < 2 ^ ((Nat.log2 num : Int) + 1) := high num
      _ = 2 ^ ((Nat.log2 num : Int) - Nat.log2 den + 1) * 2 ^ (Nat.log2 den : Int) := by
          rw [← zpow_add₀ two]; congr 1; ring
      _ ≤ 2 ^ ((Nat.log2 num : Int) - Nat.log2 den + 1) * den :=
          mul_le_mul_of_nonneg_left (low hd) (by positivity)

theorem floorLog2_eq {num den : Nat} (hn : 0 < num) (hd : 0 < den) {e : Int}
    (low : (2 : ℚ) ^ e ≤ num / den) (high : (num : ℚ) / den < 2 ^ (e + 1)) :
    floorLog2 num den = e := by
  have lt_of_pow : ∀ {a b : Int}, (2 : ℚ) ^ a < 2 ^ b → a < b := fun h =>
    (zpow_lt_zpow_iff_right₀ (by norm_num)).mp h
  obtain ⟨below, above⟩ := log2_sub_log2_bounds hn hd
  have least := lt_of_pow (low.trans_lt above)
  have most := lt_of_pow (below.trans high)
  unfold floorLog2
  simp only [atLeast_iff hd]
  split
  · next fits =>
      have := lt_of_pow (fits.trans_lt high)
      omega
  · next tooMuch =>
      have := lt_of_pow (low.trans_lt (not_le.mp tooMuch))
      omega

namespace Binary64

theorem isNegative_iff {x : Binary64} : x.isNegative = true ↔ x.bits.toNat / 2 ^ 63 = 1 :=
  decide_eq_true_iff

theorem ofParts_magnitudeBits (x : Binary64) : ofParts x.isNegative x.magnitudeBits = x := by
  have inside := x.bits.toNat_lt
  have together : (if x.isNegative then twoTo 63 else 0) + x.magnitudeBits = x.bits.toNat := by
    simp only [isNegative_iff, magnitudeBits, twoTo_eq]
    split <;> omega
  rw [ofParts, together, UInt64.ofNat_toNat]

theorem magnitudeBits_ofParts {magnitude : Nat} (h : magnitude < 2 ^ 63) (negative : Bool) :
    (ofParts negative magnitude).magnitudeBits = magnitude := by
  simp only [ofParts, magnitudeBits, UInt64.toNat_ofNat', twoTo_eq]
  cases negative with
  | true =>
      rw [if_pos rfl]
      omega
  | false =>
      rw [if_neg Bool.false_ne_true]
      omega

theorem magnitudeBits_eq (x : Binary64) :
    x.magnitudeBits = x.scale * twoTo 52 + x.significand := by
  have fields : twoTo 52 * x.exponentField + x.fractionField = x.magnitudeBits :=
    Nat.div_add_mod x.magnitudeBits (twoTo 52)
  by_cases subnormal : x.exponentField = 0
  · rw [scale, significand, if_pos subnormal, ← fields, subnormal]
    simp
  · rw [scale, significand, if_neg subnormal, ← fields]
    obtain ⟨e, exponent⟩ := Nat.exists_eq_succ_of_ne_zero subnormal
    rw [exponent]
    simp only [Nat.succ_eq_add_one, Nat.add_sub_cancel]
    ring

theorem significand_lt (x : Binary64) : x.significand < 2 ^ 53 := by
  have inside := Nat.mod_lt x.magnitudeBits (twoTo_pos 52)
  simp only [significand, fractionField, twoTo_eq] at inside ⊢
  split <;> omega

theorem le_significand {x : Binary64} (h : 0 < x.scale) : 2 ^ 52 ≤ x.significand := by
  simp only [scale, significand, twoTo_eq] at h ⊢
  split <;> omega

end Binary64

theorem roundHalfEven_mul (m : Nat) {d : Nat} (hd : 0 < d) : roundHalfEven (m * d) d = m := by
  simp [roundHalfEven, Nat.mul_div_cancel m hd, hd]

section Grid

variable {num den m j k : Nat}

/-- The quotient is `m` steps of `2 ^ (j - k)`. -/
theorem quotient_eq (hd : 0 < den) (same : num * 2 ^ k = m * 2 ^ j * den) :
    (num : ℚ) / den = m * 2 ^ ((j : Int) - k) := by
  have same : (num : ℚ) * 2 ^ k = m * 2 ^ j * den := by exact_mod_cast same
  have denPos : (0 : ℚ) < den := by exact_mod_cast hd
  rw [zpow_sub₀ (by norm_num), zpow_natCast, zpow_natCast, ← mul_div_assoc,
    div_eq_div_iff denPos.ne' (by positivity), same]

theorem floorLog2_steps (hd : 0 < den) (hm : 0 < m) (same : num * 2 ^ k = m * 2 ^ j * den) :
    floorLog2 num den = Nat.log2 m + (j - k) := by
  have hn : 0 < num := by
    have : 0 < num * 2 ^ k := same ▸ by positivity
    exact Nat.pos_of_mul_pos_right this
  have below : (2 : ℚ) ^ Nat.log2 m ≤ m := by exact_mod_cast Nat.log2_self_le hm.ne'
  have above : (m : ℚ) < 2 ^ (Nat.log2 m + 1) := by exact_mod_cast Nat.lt_log2_self (n := m)
  have shift : ∀ n : Nat, (2 : ℚ) ^ ((n : Int) + (j - k)) = 2 ^ n * 2 ^ ((j : Int) - k) := by
    intro n
    rw [zpow_add₀ (by norm_num), zpow_natCast]
  apply floorLog2_eq hn hd
  · rw [quotient_eq hd same, shift]
    exact mul_le_mul_of_nonneg_right below (by positivity)
  · rw [quotient_eq hd same, add_right_comm, ← Nat.cast_succ, shift]
    exact mul_lt_mul_of_pos_right above (by positivity)

theorem roundHalfEven_steps (hd : 0 < den) (same : num * 2 ^ k = m * 2 ^ j * den) :
    (if 0 ≤ (j : Int) - k then roundHalfEven num (den * twoTo ((j : Int) - k).toNat)
      else roundHalfEven (num * twoTo (-((j : Int) - k)).toNat) den) = m := by
  split
  · next natural =>
      obtain ⟨n, rfl⟩ : ∃ n, j = k + n := ⟨j - k, by omega⟩
      have whole : num = m * (den * 2 ^ n) := by
        apply Nat.eq_of_mul_eq_mul_right (Nat.two_pow_pos k)
        rw [same]
        ring
      have exponent : (((k + n : Nat) : Int) - k).toNat = n := by omega
      rw [exponent, twoTo_eq, whole]
      exact roundHalfEven_mul m (by positivity)
  · next negative =>
      obtain ⟨n, rfl⟩ : ∃ n, k = j + n := ⟨k - j, by omega⟩
      have whole : num * 2 ^ n = m * den := by
        apply Nat.eq_of_mul_eq_mul_right (Nat.two_pow_pos j)
        rw [mul_assoc, ← pow_add, add_comm n, same]
        ring
      have exponent : (-((j : Int) - (j + n : Nat))).toNat = n := by omega
      rw [exponent, twoTo_eq, whole]
      exact roundHalfEven_mul m hd

/-- A quotient that is a double on the grid of step `2 ^ (scale - 1074)` is not rounded. -/
theorem nearestMagnitude_eq {scale : Nat} (hd : 0 < den) (hm : 0 < m) (small : m < 2 ^ 53)
    (normal : 0 < scale → 2 ^ 52 ≤ m) (step : (j : Int) - k = scale - 1074)
    (same : num * 2 ^ k = m * 2 ^ j * den) :
    Binary64.nearestMagnitude num den = min Binary64.infinityBits (scale * twoTo 52 + m) := by
  have logarithm := floorLog2_steps hd hm same
  have atMost : Nat.log2 m ≤ 52 := by
    have := (Nat.log2_lt hm.ne').mpr small
    omega
  have atLeast : 0 < scale → 52 ≤ Nat.log2 m := fun pos =>
    (Nat.le_log2 hm.ne').mpr (normal pos)
  have grid : max (floorLog2 num den - 52) (-1074) = (j : Int) - k := by omega
  have bits : ((j : Int) - k + 1074).toNat = scale := by omega
  simp only [Binary64.nearestMagnitude, grid, bits]
  rw [roundHalfEven_steps hd same]

end Grid

theorem Decimal.magnitude_zero {d : Decimal} (zero : d.coefficient = 0) : d.magnitude = 0 :=
  if_pos zero

/-- Where the cut-offs for large and small powers of ten do not apply. -/
theorem Decimal.magnitude_fraction {negative : Bool} {coefficient k : Nat} (some : coefficient ≠ 0)
    (long : 3 * k < Nat.log2 coefficient + 1077) :
    magnitude ⟨negative, coefficient, -(k : Int)⟩ =
      Binary64.nearestMagnitude coefficient (tenTo k) := by
  have noTens : (-(k : Int)).toNat = 0 := by omega
  rw [magnitude, if_neg some]
  simp only [neg_neg, Int.toNat_natCast]
  rw [if_neg (by omega), if_neg (by omega), noTens, tenTo_zero, Nat.mul_one]

theorem Decimal.magnitude_le (d : Decimal) : d.magnitude ≤ Binary64.infinityBits := by
  simp only [magnitude]
  split_ifs
  · exact Nat.zero_le _
  · exact le_rfl
  · exact Nat.zero_le _
  · exact min_le_left _ _

theorem Decimal.isNaN_toBinary64 (d : Decimal) : d.toBinary64.isNaN = false := by
  have inside : Binary64.infinityBits < 2 ^ 63 := by decide
  have bits := Binary64.magnitudeBits_ofParts (d.magnitude_le.trans_lt inside) d.negative
  simp [toBinary64, Binary64.isNaN, bits, d.magnitude_le]

/-- The decimal that is equal to a finite double. -/
def Binary64.exact (x : Binary64) : Decimal :=
  ⟨x.isNegative, x.significand * 5 ^ (1074 - x.scale) * 2 ^ (x.scale - 1074),
    -((1074 - x.scale : Nat) : Int)⟩

theorem two_mul_le_log2 {m : Nat} (hm : 0 < m) (k j : Nat) :
    2 * k ≤ Nat.log2 (m * 5 ^ k * 2 ^ j) := by
  rw [Nat.le_log2 (by positivity), pow_mul]
  calc 4 ^ k ≤ 5 ^ k := Nat.pow_le_pow_left (by decide) k
    _ ≤ m * 5 ^ k := Nat.le_mul_of_pos_left _ hm
    _ ≤ m * 5 ^ k * 2 ^ j := Nat.le_mul_of_pos_right _ (Nat.two_pow_pos j)

theorem Binary64.magnitude_exact {x : Binary64} (finite : x.isFinite = true) :
    x.exact.magnitude = x.magnitudeBits := by
  have bits := x.magnitudeBits_eq
  by_cases zero : x.significand = 0
  · have subnormal : ¬ 0 < x.scale := fun pos => by
      have := le_significand pos
      omega
    have noScale : x.scale = 0 := by omega
    rw [Decimal.magnitude_zero (by simp [exact, zero]), bits, noScale, zero, Nat.zero_mul]
  · have positive : 0 < x.significand := Nat.pos_of_ne_zero zero
    have inside : x.magnitudeBits < infinityBits := by simpa [isFinite] using finite
    unfold exact
    generalize hk : 1074 - x.scale = k
    generalize hj : x.scale - 1074 = j
    have same : x.significand * 5 ^ k * 2 ^ j * 2 ^ k = x.significand * 2 ^ j * tenTo k := by
      rw [tenTo_eq, show 10 = 5 * 2 from rfl, mul_pow]
      ring
    have long := two_mul_le_log2 positive k j
    rw [Decimal.magnitude_fraction (by positivity) (by omega),
      nearestMagnitude_eq (tenTo_pos k) positive x.significand_lt le_significand (by omega) same,
      ← bits, min_eq_right inside.le]

theorem Binary64.toBinary64_exact {x : Binary64} (finite : x.isFinite = true) :
    x.exact.toBinary64 = x := by
  rw [Decimal.toBinary64, magnitude_exact finite]
  exact x.ofParts_magnitudeBits

end Exposition
