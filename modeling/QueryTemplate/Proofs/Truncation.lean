import Mathlib.Data.Rat.Floor
import QueryTemplate.Proofs.DoubleOrder
import QueryTemplate.Template.Filling

/-!
# Doubles as integers

Where an integer is demanded, a double stands for its exact value rounded toward zero, if that is an
integer of 64 bits (`Conversion.int_float`).  It is found without exact values: the double is cut to
its whole part, which is a double again, the whole part is compared with the double `2 ^ 63` and its
opposite, and then it is cast.

Cutting is exact (`Binary64.exists_wholePart_eq`): a whole part of at most 53 binary digits is a
double, and a double with more digits before the point has none behind it.  The comparisons are
those of values, so they are passed by the integers from `-2 ^ 63` up to `2 ^ 63 - 1`, although the
greatest of these is no double (`Conversion.isOutOfRange_eq_false_iff`).  So the cast, which would
move any other number into the range, is never given one that it changes.
-/

namespace QueryTemplate

theorem fitsInt64_iff {i : Int} : FitsInt64 i ↔ -2 ^ 63 ≤ i ∧ i ≤ 2 ^ 63 - 1 := by
  have hmin : Int64.minValue.toInt = -2 ^ 63 := by decide
  have hmax : Int64.maxValue.toInt = 2 ^ 63 - 1 := by decide
  rw [FitsInt64, hmin, hmax]

/-! ## Rounding toward zero -/

/-- **Rounding toward zero.** -/
def towardZero (q : ℚ) : Int :=
  if q < 0 then ⌈q⌉ else ⌊q⌋

theorem towardZero_signedValue (negative : Bool) (a b : Nat) :
    towardZero (signedValue negative (a / b)) = signed negative (a / b) := by
  have hfloor : ⌊(a / b : ℚ)⌋ = (a / b : Nat) := by
    exact_mod_cast Rat.floor_natCast_div_natCast a b
  have hnonneg : (0 : ℚ) ≤ a / b := div_nonneg (Nat.cast_nonneg _) (Nat.cast_nonneg _)
  cases negative with
  | false =>
    show towardZero (a / b : ℚ) = (a / b : Nat)
    rw [towardZero, if_neg (not_lt.mpr hnonneg), hfloor]
  | true =>
    show towardZero (-(a / b : ℚ)) = -((a / b : Nat) : Int)
    by_cases hnegative : -(a / b : ℚ) < 0
    · rw [towardZero, if_pos hnegative, Int.ceil_neg, hfloor]
    · have hzero : (a / b : ℚ) = 0 := by linarith
      rw [hzero, Int.floor_zero] at hfloor
      rw [towardZero, if_neg hnegative, hzero, neg_zero, Int.floor_zero, ← hfloor, neg_zero]

namespace Binary64

namespace Finite

theorem truncate_eq_signed (x : Finite) :
    x.truncate = signed x.negative (x.units / unitsPerOne) := by
  rw [truncate, signedUnits, signed]
  split
  · rw [Int.neg_tdiv]
    rfl
  · rfl

/-- **Truncation is rounding toward zero.** -/
theorem truncate_eq_towardZero (x : Finite) : x.truncate = towardZero x.value := by
  rw [truncate_eq_signed, value, towardZero_signedValue]

/-- A double is an integer if it has no fractional part, and what remains of it is that integer. -/
theorem value_eq_intCast_iff {x : Finite} {i : Int} :
    x.value = i ↔ x.IsWhole ∧ x.truncate = i := by
  have hone : (unitsPerOne : Int) ≠ 0 := by exact_mod_cast unitsPerOne_pos.ne'
  rw [value_eq_iff_signedUnits_eq]
  constructor
  · intro h
    constructor
    · rw [IsWhole, ← natAbs_signedUnits, h, Int.natAbs_mul, Int.natAbs_natCast]
      exact Nat.mul_mod_left ..
    · rw [truncate, h]
      exact Int.mul_tdiv_cancel _ hone
  · rintro ⟨hwhole, rfl⟩
    have hdvd : (unitsPerOne : Int) ∣ x.signedUnits := by
      rw [← Int.natAbs_dvd_natAbs, Int.natAbs_natCast, natAbs_signedUnits]
      exact Nat.dvd_of_mod_eq_zero hwhole
    exact (Int.tdiv_mul_cancel hdvd).symm

end Finite

/-! ## Whole parts -/

/-- **The whole part of a magnitude is a magnitude.**  It has at most 53 binary digits, or the
magnitude has no digits behind the point. -/
theorem exists_rank_whole (rank : Nat) :
    ∃ whole ≤ rank, unitsOfRank whole = unitsOfRank rank / unitsPerOne * unitsPerOne := by
  suffices h : ∃ whole, unitsOfRank whole = unitsOfRank rank / unitsPerOne * unitsPerOne by
    obtain ⟨whole, hwhole⟩ := h
    refine ⟨whole, ?_, hwhole⟩
    rw [← unitsOfRank_strictMono.le_iff_le, hwhole]
    exact Nat.div_mul_le_self ..
  by_cases hsmall : unitsOfRank rank / unitsPerOne ≤ 2 * binadeSize
  · obtain ⟨whole, -, hwhole⟩ := exists_rank_mul_two_pow hsmall (Nat.zero_le 970)
    rw [Nat.pow_zero, Nat.mul_one] at hwhole
    exact ⟨whole, hwhole⟩
  · have hsignificand := (significand_bounds rank).2.1
    have hunits : unitsOfRank rank =
        (rank - rankExponent rank * binadeSize) * 2 ^ rankExponent rank := by
      rw [unitsOfRank, Nat.pow_eq]
    -- the last digit weighs at least one
    have hexponent : 1074 ≤ rankExponent rank := by
      by_contra hless
      apply hsmall
      refine Nat.div_le_of_le_mul ?_
      rw [hunits, Nat.mul_comm]
      exact Nat.mul_le_mul (two_pow_le_unitsPerOne (by omega)) hsignificand.le
    obtain ⟨e, he⟩ : ∃ e, rankExponent rank = e + 1074 := ⟨_, (Nat.sub_add_cancel hexponent).symm⟩
    have hdvd : unitsPerOne ∣ unitsOfRank rank := by
      rw [hunits, he, two_pow_add_1074]
      exact Dvd.dvd.mul_left (Nat.dvd_mul_left ..) _
    exact ⟨rank, (Nat.div_mul_cancel hdvd).symm⟩

/-- **Cutting off the fractional part is exact.** -/
theorem exists_wholePart_eq (x : Finite) :
    ∃ y, wholePart (.finite x) = .finite y ∧ y.value = x.truncate := by
  obtain ⟨whole, hle, hwhole⟩ := exists_rank_whole x.rank
  have hbound : whole < rankLimit := Nat.lt_of_le_of_lt hle x.bounded
  have hone : (unitsPerOne : ℚ) ≠ 0 := by exact_mod_cast unitsPerOne_pos.ne'
  have hvalue : (unitsOfRank whole / unitsPerOne : ℚ) = (x.units / unitsPerOne : Nat) := by
    rw [hwhole, Nat.cast_mul]
    exact mul_div_cancel_right₀ _ hone
  have hrank : nearestRank (x.units / unitsPerOne) 1 = whole := by
    rw [← nearestRank_unitsOfRank whole]
    refine nearestRank_congr Nat.one_pos unitsPerOne_pos ?_
    rw [hvalue, Nat.cast_one, div_one]
  refine ⟨⟨x.negative, whole, hbound⟩, ?_, ?_⟩
  · rw [wholePart, ofRatio, ofRank, hrank, dif_pos hbound]
  · rw [Finite.truncate_eq_signed]
    show signedValue x.negative (unitsOfRank whole / unitsPerOne) = _
    rw [hvalue, signedValue, signed]
    split <;> push_cast <;> rfl

/-- The cast of a number keeps its truncation, if that is in range. -/
theorem toInt_toInt64 {x : Finite} (h : FitsInt64 x.truncate) :
    (toInt64 (.finite x)).toInt = x.truncate := by
  rw [toInt64, Int64.ofIntClamp, dif_pos h.1, dif_pos h.2, Int64.toInt_ofIntLE]

end Binary64

/-! ## The conversion -/

/-- **The integer that a double stands for**: its exact value rounded toward zero, if that is an
integer of 64 bits. -/
def Binary64.StandsFor (x : Binary64) (i : Int) : Prop :=
  ∃ y, x = .finite y ∧ towardZero y.value = i ∧ -2 ^ 63 ≤ i ∧ i ≤ 2 ^ 63 - 1

namespace Conversion

theorem exists_int64Bound_eq :
    ∃ bound : Binary64.Finite, int64Bound = .finite bound ∧ bound.value = (2 ^ 63 : Int) := by
  obtain ⟨rank, hrank, hunits⟩ :=
    exists_rank_mul_two_pow (m := 1) (e := 63) (by decide +kernel) (by decide)
  let bound : Binary64.Finite := ⟨false, rank, hrank⟩
  have hvalue : bound.value = (9223372036854775808 : Int) := by
    have hone : (unitsPerOne : ℚ) ≠ 0 := by exact_mod_cast unitsPerOne_pos.ne'
    show (unitsOfRank rank / unitsPerOne : ℚ) = _
    rw [hunits, Nat.cast_mul, mul_div_cancel_right₀ _ hone]
    norm_num
  exact Binary64.exists_ofInt_eq_of_value_eq hvalue

/-- **The range check lets the integers of 64 bits pass.** -/
theorem isOutOfRange_eq_false_iff {x : Binary64.Finite} {i : Int} (h : x.value = i) :
    isOutOfRange (.finite x) = false ↔ FitsInt64 i := by
  obtain ⟨bound, hbound, hvalue⟩ := exists_int64Bound_eq
  have habove : int64Bound.atMost (.finite x) = true ↔ 2 ^ 63 ≤ i := by
    rw [hbound, Binary64.atMost_finite, hvalue, h, Int.cast_le]
  have hbelow : Binary64.below (.finite x) int64Bound.negate = true ↔ i < -2 ^ 63 := by
    rw [hbound]
    show Binary64.below (.finite x) (.finite bound.negate) = true ↔ _
    rw [Binary64.below_finite, Binary64.Finite.value_negate, hvalue, h, ← Int.cast_neg,
      Int.cast_lt]
  rw [fitsInt64_iff, isOutOfRange]
  show (false || int64Bound.atMost (.finite x) ||
    Binary64.below (.finite x) int64Bound.negate) = false ↔ _
  rw [Bool.false_or, Bool.or_eq_false_iff, ← Bool.not_eq_true, ← Bool.not_eq_true, habove, hbelow]
  omega

/-- The integer of a double is its truncation, if it is in range. -/
theorem truncated?_finite (x : Binary64.Finite) :
    truncated? (.finite x) = if FitsInt64 x.truncate then some x.truncate else none := by
  obtain ⟨y, hy, hvalue⟩ := Binary64.exists_wholePart_eq x
  have htruncate := (Binary64.Finite.value_eq_intCast_iff.mp hvalue).2
  have hrange := isOutOfRange_eq_false_iff hvalue
  rw [truncated?, hy]
  by_cases hfits : FitsInt64 x.truncate
  · have hcast := Binary64.toInt_toInt64 (htruncate.symm ▸ hfits)
    rw [hrange.mpr hfits, if_neg Bool.false_ne_true, if_pos hfits, hcast, htruncate]
  · have hout : isOutOfRange (.finite y) = true := by
      rw [← Bool.not_eq_false, hrange]
      exact hfits
    rw [hout, if_pos rfl, if_neg hfits]

/-- **Which integer is read from a double.** -/
theorem truncated?_eq_some_iff {x : Binary64} {i : Int} :
    truncated? x = some i ↔ x.StandsFor i := by
  constructor
  · intro h
    cases x with
    | finite y =>
      rw [truncated?_finite, Binary64.Finite.truncate_eq_towardZero] at h
      obtain ⟨hfits, hi⟩ := Option.ite_none_right_eq_some.mp h
      have hi := Option.some.inj hi
      exact ⟨y, rfl, hi, fitsInt64_iff.mp (hi ▸ hfits)⟩
    | infinite negative => cases h
    | nan => cases h
  · rintro ⟨y, rfl, rfl, hfits⟩
    rw [truncated?_finite, Binary64.Finite.truncate_eq_towardZero,
      if_pos (fitsInt64_iff.mpr hfits)]

/-- **The cast changes nothing**: a number that passes the range check is the whole part of a finite
double, and an integer of 64 bits. -/
theorem exists_toInt64_eq {x : Binary64} (h : isOutOfRange x.wholePart = false) :
    ∃ y, x.wholePart = .finite y ∧ y.value = x.wholePart.toInt64.toInt := by
  cases x with
  | finite x =>
    obtain ⟨y, hy, hvalue⟩ := Binary64.exists_wholePart_eq x
    have htruncate := (Binary64.Finite.value_eq_intCast_iff.mp hvalue).2
    rw [hy] at h ⊢
    have hfits := (isOutOfRange_eq_false_iff hvalue).mp h
    refine ⟨y, rfl, ?_⟩
    rw [Binary64.toInt_toInt64 (htruncate.symm ▸ hfits), htruncate, hvalue]
  | infinite negative => cases h
  | nan => cases h

theorem int_float_eq (x : Binary64) :
    int (.float x) =
      match truncated? x with
      | some i => .ok (signedNumeral i)
      | none => notNumeric .int x.toText := rfl

/-- **What a double is worth as an integer.**  The conversion succeeds exactly for the doubles that
stand for an integer, and gives its numeral.  Every other double is refused: the placeholder names
it with its own number and the kind of number demanded.  Nothing that passes the range check is
changed by the cast behind it. -/
theorem int_float (x : Binary64) :
    (∀ out, int (.float x) = .ok out ↔ ∃ i, x.StandsFor i ∧ out = signedNumeral i) ∧
    ((¬ ∃ i, x.StandsFor i) → ∀ (e : Escaper) strict rest supply unread,
      supply.unread = .float x :: unread →
      fillTokens e strict (.hole .int :: rest) supply =
        .error (.badArgument supply.nextIndex (.notNumeric .int x.toText))) ∧
    (isOutOfRange x.wholePart = false →
      ∃ y, x.wholePart = .finite y ∧ y.value = x.wholePart.toInt64.toInt) := by
  refine ⟨?_, ?_, exists_toInt64_eq⟩
  · intro out
    simp only [← truncated?_eq_some_iff]
    rw [int_float_eq]
    cases truncated? x with
    | none => exact ⟨nofun, fun ⟨_, h, _⟩ => nomatch h⟩
    | some i =>
      constructor
      · intro h
        cases h
        exact ⟨i, rfl, rfl⟩
      · rintro ⟨_, ⟨⟩, rfl⟩
        rfl
  · intro hno e strict rest supply unread hunread
    have hnone : truncated? x = none := by
      by_contra hsome
      obtain ⟨i, hi⟩ := Option.ne_none_iff_exists'.mp hsome
      exact hno ⟨i, truncated?_eq_some_iff.mp hi⟩
    have hrefused : Specifier.int.convert e (.float x) = notNumeric .int x.toText := by
      rw [Specifier.convert, int_float_eq, hnone]
    exact fillTokens_hole_of_fault hunread hrefused strict rest

/-- At the ends of the range: the double `-2 ^ 63` is written, the double `2 ^ 63` is refused. -/
theorem int_float_at_bounds :
    int (.float (.finite ⟨true, 4890909195324358656, by decide⟩)) =
        .ok "-9223372036854775808".toList ∧
      fillTokens Dialect.mysql.escaper true [.hole .int]
          (.start [.float (.finite ⟨false, 4890909195324358656, by decide⟩)]) =
        .error (.badArgument 1 (.notNumeric .int
          (Binary64.toText (.finite ⟨false, 4890909195324358656, by decide⟩)))) := by
  let low : Binary64.Finite := ⟨true, 4890909195324358656, by decide⟩
  let high : Binary64.Finite := ⟨false, 4890909195324358656, by decide⟩
  have hlow : low.truncate = -2 ^ 63 := by decide +kernel
  have hhigh : high.truncate = 2 ^ 63 := by decide +kernel
  rw [Binary64.Finite.truncate_eq_towardZero] at hlow hhigh
  constructor
  · exact ((int_float (.finite low)).1 _).mpr
      ⟨-2 ^ 63, ⟨low, rfl, hlow, by decide, by decide⟩, by decide +kernel⟩
  · refine (int_float (.finite high)).2.1 ?_ _ _ _ (.start [.float (.finite high)]) [] rfl
    rintro ⟨i, y, hy, hvalue, -, hmax⟩
    cases hy
    omega

end Conversion

end QueryTemplate
