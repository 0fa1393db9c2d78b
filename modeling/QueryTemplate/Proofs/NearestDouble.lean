import Mathlib.Algebra.Order.Field.Basic
import Mathlib.Data.Nat.Cast.Order.Field
import Mathlib.Tactic.FieldSimp
import Mathlib.Tactic.NormNum
import Mathlib.Tactic.Positivity
import QueryTemplate.Number.Shortest

/-!
# The double nearest to a number

`nearestRank` rounds a quotient of natural numbers.  Which quotient stands for a number does not
matter (`nearestRank_congr`), so rounding may be spoken about by values: every magnitude of a double
is rounded to itself (`nearestRank_unitsOfRank`), a value of `2 ^ 1024` or more is beyond all finite
doubles, and a value below `2 ^ -1075` is rounded to zero.

A decimal number has a value as well (`Decimal.magnitude`).  `Decimal.nearest` decides very large
and very small numbers by their order of magnitude alone and rounds the others.  These shortcuts
never change the answer (`Decimal.nearest_eq_ofRatio`), so the double nearest to a decimal depends
on its sign and its value only (`Decimal.nearest_congr`).
-/

namespace QueryTemplate

/-! ## Rounding a quotient -/

theorem roundHalfEven_mul_right (a b : Nat) {c : Nat} (hc : 0 < c) :
    roundHalfEven (a * c) (b * c) = roundHalfEven a b := by
  have hbelow : 2 * (a % b * c) < b * c ↔ 2 * (a % b) < b := by
    rw [← Nat.mul_assoc, Nat.mul_lt_mul_right hc]
  have habove : b * c < 2 * (a % b * c) ↔ b < 2 * (a % b) := by
    rw [← Nat.mul_assoc, Nat.mul_lt_mul_right hc]
  rw [roundHalfEven, roundHalfEven, Nat.mul_div_mul_right _ _ hc, Nat.mul_mod_mul_right]
  simp only [hbelow, habove]

theorem nearestRank_mul_right (a b : Nat) {c : Nat} (hc : 0 < c) :
    nearestRank (a * c) (b * c) = nearestRank a b := by
  have hunits : a * c * unitsPerOne = a * unitsPerOne * c := Nat.mul_right_comm ..
  have hdenominator : ∀ p, b * c * p = b * p * c := fun p => Nat.mul_right_comm ..
  simp only [nearestRank, hunits, hdenominator, Nat.mul_div_mul_right _ _ hc,
    roundHalfEven_mul_right _ _ hc]

/-- **Rounding depends on the value only.** -/
theorem nearestRank_congr {a b a' b' : Nat} (hb : 0 < b) (hb' : 0 < b')
    (h : (a : ℚ) / b = a' / b') : nearestRank a b = nearestRank a' b' := by
  have hcross : a * b' = a' * b := by
    have hne : (b : ℚ) ≠ 0 := by exact_mod_cast hb.ne'
    have hne' : (b' : ℚ) ≠ 0 := by exact_mod_cast hb'.ne'
    exact_mod_cast (div_eq_div_iff hne hne').mp h
  rw [← nearestRank_mul_right a b hb', hcross, Nat.mul_comm b, nearestRank_mul_right a' b' hb]

/-! ## Magnitudes of doubles -/

theorem binadeSize_eq : binadeSize = 2 ^ 52 := by
  rw [binadeSize, Nat.pow_eq]

theorem binadeSize_pos : 0 < binadeSize := by
  rw [binadeSize_eq]
  exact Nat.two_pow_pos 52

theorem unitsPerOne_pos : 0 < unitsPerOne := by
  decide +kernel

/-- The value past all finite doubles, in units. -/
theorem two_pow_mul_unitsPerOne : 2 ^ 1024 * unitsPerOne = 2 ^ (52 + 2046) := by
  decide +kernel

theorem two_pow_1024_le : 2 ^ 1024 ≤ 10 ^ 400 := by
  decide +kernel

theorem two_mul_unitsPerOne_le : 2 * unitsPerOne ≤ 10 ^ 400 := by
  decide +kernel

/-- What a rank says about its magnitude: the significand is below two binades, and is at least one
if its last digit weighs more than a unit. -/
theorem significand_bounds (rank : Nat) :
    rankExponent rank * binadeSize ≤ rank ∧
      rank - rankExponent rank * binadeSize < 2 * binadeSize ∧
      (0 < rankExponent rank → binadeSize ≤ rank - rankExponent rank * binadeSize) := by
  have hsplit := Nat.div_add_mod rank binadeSize
  have hlow := Nat.mod_lt rank binadeSize_pos
  rw [Nat.mul_comm] at hsplit
  unfold rankExponent
  cases hbinade : rank / binadeSize with
  | zero =>
    rw [hbinade] at hsplit
    simp only [Nat.zero_sub, Nat.zero_mul]
    omega
  | succ k =>
    rw [hbinade, Nat.succ_mul] at hsplit
    rw [Nat.add_sub_cancel]
    omega

theorem le_log2_of_two_pow_le {n k : Nat} (h : 2 ^ k ≤ n) : k ≤ n.log2 :=
  (Nat.le_log2 (Nat.lt_of_lt_of_le (Nat.two_pow_pos k) h).ne').mpr h

theorem log2_mul_two_pow_sub {m e : Nat} (hlow : e = 0 ∨ 2 ^ 52 ≤ m) (hhigh : m < 2 ^ 53) :
    (m * 2 ^ e).log2 - 52 = e := by
  by_cases hzero : m * 2 ^ e = 0
  · have hm : m = 0 := (Nat.mul_eq_zero.mp hzero).resolve_right (Nat.two_pow_pos e).ne'
    rw [hzero, Nat.log2_zero]
    omega
  · rcases hlow with rfl | hlow
    · have hlt : (m * 2 ^ 0).log2 < 53 := (Nat.log2_lt hzero).mpr (by omega)
      omega
    · have hlog : (m * 2 ^ e).log2 = 52 + e := by
        rw [Nat.log2_eq_iff hzero]
        constructor
        · rw [Nat.pow_add]
          exact Nat.mul_le_mul_right _ hlow
        · rw [show 52 + e + 1 = 53 + e by omega, Nat.pow_add]
          exact Nat.mul_lt_mul_of_pos_right hhigh (Nat.two_pow_pos e)
      omega

/-- **Every magnitude of a double is rounded to itself.** -/
theorem nearestRank_unitsOfRank (rank : Nat) :
    nearestRank (unitsOfRank rank) unitsPerOne = rank := by
  obtain ⟨hle, hhigh, hlow⟩ := significand_bounds rank
  have hexponent : (unitsOfRank rank).log2 - 52 = rankExponent rank := by
    refine log2_mul_two_pow_sub ?_ hhigh
    exact (Nat.eq_zero_or_pos (rankExponent rank)).imp_right hlow
  have hround : roundHalfEven (unitsOfRank rank * unitsPerOne)
      (unitsPerOne * Nat.pow 2 (rankExponent rank)) =
        rank - rankExponent rank * binadeSize := by
    rw [unitsOfRank, Nat.mul_assoc, Nat.mul_comm unitsPerOne]
    exact roundHalfEven_mul_self (Nat.mul_pos (Nat.two_pow_pos _) unitsPerOne_pos) _
  rw [nearestRank]
  simp only [Nat.mul_div_cancel _ unitsPerOne_pos, hexponent, hround]
  omega

/-- A quotient of at least 53 binary digits keeps a significand of a full binade. -/
theorem binadeSize_le_roundHalfEven {units b : Nat} (h : 52 ≤ (units / b).log2) :
    binadeSize ≤ roundHalfEven units (b * Nat.pow 2 ((units / b).log2 - 52)) := by
  have hne : units / b ≠ 0 := by
    intro hzero
    rw [hzero, Nat.log2_zero] at h
    omega
  have hlead : binadeSize * 2 ^ ((units / b).log2 - 52) ≤ units / b := by
    rw [binadeSize_eq, ← Nat.pow_add, Nat.add_sub_cancel' h]
    exact Nat.log2_self_le hne
  refine Nat.le_trans ?_ (div_le_roundHalfEven ..)
  rw [← Nat.div_div_eq_div_mul]
  exact (Nat.le_div_iff_mul_le (Nat.two_pow_pos _)).mpr hlead

/-- Values of `2 ^ 1024` and more are beyond all finite doubles. -/
theorem rankLimit_le_nearestRank {a b : Nat} (hb : 0 < b) (h : 2 ^ 1024 * b ≤ a) :
    rankLimit ≤ nearestRank a b := by
  have hquotient : 2 ^ (52 + 2046) ≤ a * unitsPerOne / b := by
    rw [Nat.le_div_iff_mul_le hb, ← two_pow_mul_unitsPerOne, Nat.mul_right_comm]
    exact Nat.mul_le_mul_right _ h
  have hlog := le_log2_of_two_pow_le hquotient
  clear h hquotient
  have hround : binadeSize ≤ roundHalfEven (a * unitsPerOne)
      (b * Nat.pow 2 ((a * unitsPerOne / b).log2 - 52)) :=
    binadeSize_le_roundHalfEven (by omega)
  calc rankLimit = binadeSize + 2046 * binadeSize := by
        rw [rankLimit]
        omega
    _ ≤ nearestRank a b := Nat.add_le_add hround (Nat.mul_le_mul_right _ (by omega))

/-- Values below half a unit are rounded to zero. -/
theorem nearestRank_eq_zero {a b : Nat} (h : 2 * (a * unitsPerOne) < b) : nearestRank a b = 0 := by
  have hlt : a * unitsPerOne < b := by omega
  have hround : roundHalfEven (a * unitsPerOne) (b * Nat.pow 2 0) = 0 := by
    rw [show b * Nat.pow 2 0 = b from Nat.mul_one b, roundHalfEven, Nat.mod_eq_of_lt hlt,
      if_pos h, Nat.div_eq_of_lt hlt]
  rw [nearestRank]
  simp only [Nat.div_eq_of_lt hlt, Nat.log2_zero, Nat.zero_sub, Nat.zero_mul, Nat.add_zero, hround]

/-! ## Values of decimal numbers -/

/-- A value of one sign or the other. -/
def signedValue (negative : Bool) (magnitude : ℚ) : ℚ :=
  if negative then -magnitude else magnitude

namespace Decimal

/-- The value of the magnitude `digits · 10 ^ exponent`. -/
def magnitude (digits : Nat) (exponent : Int) : ℚ :=
  digits * 10 ^ exponent

theorem ratio_snd_pos (digits : Nat) (exponent : Int) : 0 < (ratio digits exponent).2 := by
  cases exponent with
  | ofNat k => exact Nat.one_pos
  | negSucc k => exact Nat.pow_pos (by decide)

theorem ratio_eq_magnitude (digits : Nat) (exponent : Int) :
    ((ratio digits exponent).1 : ℚ) / (ratio digits exponent).2 = magnitude digits exponent := by
  cases exponent with
  | ofNat k => simp [ratio, magnitude]
  | negSucc k => simp [ratio, magnitude, zpow_negSucc, div_eq_mul_inv]

theorem lt_pow_length_numeral (n : Nat) : n < 10 ^ (numeral n).length :=
  (Nat.length_toDigits_le_iff (by decide)
    (List.length_pos_iff.mpr (numeral_ne_nil n))).mp (Nat.le_refl _)

theorem pow_length_numeral_le {n : Nat} (h : n ≠ 0) : 10 ^ ((numeral n).length - 1) ≤ n := by
  by_contra hlt
  have hlength := List.length_pos_iff.mpr (numeral_ne_nil n)
  by_cases hone : (numeral n).length - 1 = 0
  · rw [hone] at hlt
    omega
  · have hle : (numeral n).length ≤ (numeral n).length - 1 :=
      (Nat.length_toDigits_le_iff (by decide) (by omega)).mpr (by omega)
    omega

/-- The count of digits and the exponent tell the order of magnitude. -/
theorem magnitude_bounds {digits : Nat} (h : digits ≠ 0) (exponent : Int) :
    (10 : ℚ) ^ ((numeral digits).length + exponent - 1) ≤ magnitude digits exponent ∧
      magnitude digits exponent < 10 ^ ((numeral digits).length + exponent) := by
  have hpos : (0 : ℚ) < 10 ^ exponent := zpow_pos (by norm_num) exponent
  have hten : (10 : ℚ) ≠ 0 := by norm_num
  have hlength := List.length_pos_iff.mpr (numeral_ne_nil digits)
  constructor
  · have hlow : ((10 : ℚ) ^ ((numeral digits).length - 1)) ≤ digits := by
      exact_mod_cast pow_length_numeral_le h
    rw [show ((numeral digits).length + exponent - 1 : Int) =
        ((numeral digits).length - 1 : Nat) + exponent by omega, zpow_add₀ hten, zpow_natCast]
    exact mul_le_mul_of_nonneg_right hlow hpos.le
  · have hhigh : (digits : ℚ) < 10 ^ (numeral digits).length := by
      exact_mod_cast lt_pow_length_numeral digits
    rw [zpow_add₀ hten, zpow_natCast]
    exact mul_lt_mul_of_pos_right hhigh hpos

/-- **The shortcuts of rounding are sound**: the double nearest to a decimal number is its exact
quotient rounded, however large or small the number is. -/
theorem nearest_eq_ofRatio (x : Decimal) :
    x.nearest =
      .ofRatio x.negative (ratio x.digits x.exponent).1 (ratio x.digits x.exponent).2 := by
  have hratio := ratio_eq_magnitude x.digits x.exponent
  have hpos := ratio_snd_pos x.digits x.exponent
  have hposCast : (0 : ℚ) < (ratio x.digits x.exponent).2 := by exact_mod_cast hpos
  have hten : (1 : ℚ) ≤ 10 := by norm_num
  rw [nearest]
  split_ifs with hzero hlarge hsmall
  · have hnumerator : (ratio x.digits x.exponent).1 = 0 := by
      rw [hzero]
      cases x.exponent <;> simp [ratio]
    rw [Binary64.ofRatio, hnumerator, nearestRank_eq_zero (by omega)]
    rfl
  · -- the value is at least `10 ^ 400`
    have hvalue : (2 : ℚ) ^ 1024 ≤ magnitude x.digits x.exponent := by
      calc (2 : ℚ) ^ 1024 ≤ 10 ^ 400 := by exact_mod_cast two_pow_1024_le
        _ = 10 ^ (400 : Int) := by rw [zpow_ofNat]
        _ ≤ 10 ^ ((numeral x.digits).length + x.exponent - 1) :=
          zpow_le_zpow_right₀ hten (by rw [outOfReach] at hlarge; omega)
        _ ≤ magnitude x.digits x.exponent := (magnitude_bounds hzero x.exponent).1
    rw [← hratio, le_div_iff₀ hposCast] at hvalue
    have hlimit := rankLimit_le_nearestRank hpos (by exact_mod_cast hvalue)
    rw [Binary64.ofRatio, Binary64.ofRank, dif_neg (Nat.not_lt.mpr hlimit)]
  · -- the value is below `10 ^ -400`
    have hvalue : magnitude x.digits x.exponent * (2 * unitsPerOne : Nat) < 1 := by
      calc magnitude x.digits x.exponent * (2 * unitsPerOne : Nat)
          < 10 ^ (-400 : Int) * (2 * unitsPerOne : Nat) := by
            refine mul_lt_mul_of_pos_right ?_
              (by exact_mod_cast Nat.mul_pos (by decide) unitsPerOne_pos)
            refine lt_of_lt_of_le (magnitude_bounds hzero x.exponent).2 ?_
            exact zpow_le_zpow_right₀ hten (by rw [outOfReach] at hsmall; omega)
        _ ≤ 10 ^ (-400 : Int) * (10 ^ 400 : Nat) := by
            refine mul_le_mul_of_nonneg_left ?_ (zpow_pos (by norm_num) _).le
            exact_mod_cast two_mul_unitsPerOne_le
        _ = 1 := by
            rw [Nat.cast_pow, Nat.cast_ofNat, zpow_neg, zpow_ofNat]
            exact inv_mul_cancel₀ (pow_pos (by norm_num) 400).ne'
    rw [← hratio, div_mul_eq_mul_div, div_lt_one hposCast] at hvalue
    have hrank := nearestRank_eq_zero (a := (ratio x.digits x.exponent).1)
      (b := (ratio x.digits x.exponent).2) (by
        rw [Nat.mul_left_comm]
        exact_mod_cast hvalue)
    rw [Binary64.ofRatio, hrank]
    rfl
  · rfl

/-- **The double nearest to a decimal number depends on its sign and its value only.** -/
theorem nearest_congr {x : Decimal} {a b : Nat} (hb : 0 < b)
    (h : magnitude x.digits x.exponent = a / b) :
    x.nearest = .ofRatio x.negative a b := by
  rw [nearest_eq_ofRatio, Binary64.ofRatio, Binary64.ofRatio,
    nearestRank_congr (ratio_snd_pos ..) hb ((ratio_eq_magnitude ..).trans h)]

end Decimal

end QueryTemplate
