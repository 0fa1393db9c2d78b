import QueryTemplate.Proofs.NearestRank

/-!
# Doubles in order

Rounding keeps the order of numbers: of two numbers the lesser one is never rounded to the greater
magnitude (`IsNearestRank.mono`).  With signs, finite doubles are ordered by their signed ranks, and
this is the order of their exact values (`Binary64.Finite.signedRank_le_iff`,
`Binary64.RoundsTo.signedRank_le`).  So two doubles can be compared without their values being
computed, as `Binary64.below` and `Binary64.atMost` do it; what these answer about finite doubles is
what holds of the values (`Binary64.below_finite`, `Binary64.atMost_finite`).
-/

namespace QueryTemplate

/-! ## Magnitudes -/

theorem unitsOfRank_zero : unitsOfRank 0 = 0 :=
  Nat.zero_mul _

theorem two_pow_add_1074 (e : Nat) : 2 ^ (e + 1074) = 2 ^ e * unitsPerOne := by
  have hone : unitsPerOne = 2 ^ 1074 := by decide +kernel
  rw [hone]
  exact pow_add 2 e 1074

theorem two_pow_le_unitsPerOne {e : Nat} (h : e ≤ 1074) : 2 ^ e ≤ unitsPerOne := by
  have hone : unitsPerOne = 2 ^ 1074 := by decide +kernel
  rw [hone]
  exact pow_le_pow_right₀ (by decide) h

/-- The lesser of two magnitudes is as near as the greater one exactly up to their midpoint. -/
theorem abs_sub_le_abs_sub_iff {u a b : ℚ} (h : a < b) :
    |u - a| ≤ |u - b| ↔ 2 * u ≤ a + b := by
  constructor
  · intro hnear
    rcases abs_cases (u - a) with ⟨ha, _⟩ | ⟨ha, _⟩ <;>
      rcases abs_cases (u - b) with ⟨hb, _⟩ | ⟨hb, _⟩ <;> linarith
  · intro hmid
    rcases abs_cases (u - a) with ⟨ha, _⟩ | ⟨ha, _⟩ <;>
      rcases abs_cases (u - b) with ⟨hb, _⟩ | ⟨hb, _⟩ <;> linarith

/-- **Rounding keeps the order.** -/
theorem IsNearestRank.mono {u u' : ℚ} {rank rank' : Nat} (h : IsNearestRank u rank)
    (h' : IsNearestRank u' rank') (hle : u ≤ u') : rank ≤ rank' := by
  by_contra hlt
  have hunits : (unitsOfRank rank' : ℚ) < unitsOfRank rank := by
    exact_mod_cast unitsOfRank_strictMono (Nat.not_le.mp hlt)
  have hbelow : 2 * u' ≤ unitsOfRank rank' + unitsOfRank rank :=
    (abs_sub_le_abs_sub_iff hunits).mp (h'.nearest rank)
  have habove : (unitsOfRank rank' + unitsOfRank rank : ℚ) ≤ 2 * u := by
    by_contra hmid
    have hnear := (abs_sub_le_abs_sub_iff hunits).mpr (not_le.mp hmid).le
    have hsame := le_antisymm hnear (h.nearest rank')
    rcases abs_cases (u - unitsOfRank rank') with ⟨ha, _⟩ | ⟨ha, _⟩ <;>
      rcases abs_cases (u - unitsOfRank rank) with ⟨hb, _⟩ | ⟨hb, _⟩ <;> linarith
  -- both numbers are the midpoint, and one number is rounded to one rank
  have hsame : u' = u := by linarith
  rw [hsame] at h'
  exact hlt (h.unique h').le

/-- **A significand times a power of two** is a magnitude, if the power is not too large. -/
theorem exists_rank_mul_two_pow {m e : Nat} (hm : m ≤ 2 * binadeSize) (he : e ≤ 970) :
    ∃ rank < rankLimit, unitsOfRank rank = m * 2 ^ e * unitsPerOne := by
  obtain ⟨rank, hle, hunits⟩ := exists_unitsOfRank_eq (e + 1074) hm
  refine ⟨rank, ?_, ?_⟩
  · have hpos := binadeSize_pos
    have hbinades : (e + 1074 + 2) * binadeSize ≤ 2046 * binadeSize :=
      Nat.mul_le_mul_right _ (by omega)
    rw [rankLimit]
    omega
  · rw [hunits, two_pow_add_1074, Nat.mul_assoc]

/-! ## Doubles of either sign -/

theorem signedValue_not (negative : Bool) (magnitude : ℚ) :
    signedValue (!negative) magnitude = -signedValue negative magnitude := by
  cases negative with
  | false => rfl
  | true => exact (neg_neg magnitude).symm

namespace Binary64

namespace Finite

/-- The exact value is a number of units. -/
theorem value_eq_signedUnits (x : Finite) : x.value = x.signedUnits / unitsPerOne := by
  rw [value, signedValue, signedUnits]
  split
  · push_cast
    rw [neg_div]
  · push_cast
    rfl

theorem natAbs_signedUnits (x : Finite) : x.signedUnits.natAbs = x.units := by
  rw [signedUnits]
  split <;> omega

/-- A double is an integer if it is so many times the units of one. -/
theorem value_eq_iff_signedUnits_eq {x : Finite} {i : Int} :
    x.value = i ↔ x.signedUnits = i * unitsPerOne := by
  have hone : (unitsPerOne : ℚ) ≠ 0 := by exact_mod_cast unitsPerOne_pos.ne'
  rw [value_eq_signedUnits, div_eq_iff hone]
  exact_mod_cast Iff.rfl

theorem signedRank_le_signedRank_iff {x y : Finite} :
    x.signedRank ≤ y.signedRank ↔ x.signedUnits ≤ y.signedUnits := by
  have hup : x.rank ≤ y.rank ↔ x.units ≤ y.units :=
    unitsOfRank_strictMono.le_iff_le.symm
  have hdown : y.rank ≤ x.rank ↔ y.units ≤ x.units :=
    unitsOfRank_strictMono.le_iff_le.symm
  have hzero : ∀ z : Finite, z.rank ≤ 0 ↔ z.units ≤ 0 := by
    intro z
    rw [units, ← unitsOfRank_strictMono.le_iff_le, unitsOfRank_zero]
  have hx := hzero x
  have hy := hzero y
  unfold signedRank signedUnits
  split <;> split <;> omega

/-- **The order of signed ranks is the order of values.** -/
theorem signedRank_le_iff {x y : Finite} : x.signedRank ≤ y.signedRank ↔ x.value ≤ y.value := by
  have hone : (0 : ℚ) < unitsPerOne := by exact_mod_cast unitsPerOne_pos
  rw [signedRank_le_signedRank_iff, value_eq_signedUnits, value_eq_signedUnits,
    div_le_div_iff_of_pos_right hone, Int.cast_le]

theorem value_negate (x : Finite) : x.negate.value = -x.value :=
  signedValue_not x.negative (x.units / unitsPerOne)

end Finite

/-- A number below another is below by value. -/
theorem below_finite (x y : Finite) :
    below (.finite x) (.finite y) = true ↔ x.value < y.value := by
  rw [← not_le, ← Finite.signedRank_le_iff, not_le]
  exact decide_eq_true_iff

theorem atMost_finite (x y : Finite) :
    atMost (.finite x) (.finite y) = true ↔ x.value ≤ y.value := by
  rw [← Finite.signedRank_le_iff]
  exact decide_eq_true_iff

/-- The sign of a double is that of the number rounded to it, unless it is a zero. -/
theorem RoundsTo.signedRank_eq {q : ℚ} {x : Finite} (h : RoundsTo q x) :
    x.signedRank = if q < 0 then -(x.rank : Int) else x.rank := by
  have hsign := h.sign
  unfold Finite.signedRank
  cases hnegative : x.negative with
  | false =>
    rw [hnegative] at hsign
    have hq : ¬ q < 0 := not_lt.mpr (hsign ▸ abs_nonneg q)
    rw [if_neg hq, if_neg Bool.false_ne_true]
  | true =>
    rw [hnegative] at hsign
    have hq : q = -|q| := hsign
    by_cases hzero : q = 0
    · have hnearest := h.nearest
      rw [hzero, abs_zero, zero_mul] at hnearest
      have hrank : x.rank = 0 :=
        hnearest.unique (by exact_mod_cast unitsOfRank_zero ▸ isNearestRank_unitsOfRank 0)
      simp [hrank]
    · have hlt : q < 0 := by
        rw [hq]
        exact neg_neg_of_pos (abs_pos.mpr hzero)
      rw [if_pos hlt, if_pos rfl]

/-- **Rounding keeps the order**, also across zero. -/
theorem RoundsTo.signedRank_le {q q' : ℚ} {x y : Finite} (hx : RoundsTo q x) (hy : RoundsTo q' y)
    (h : q ≤ q') : x.signedRank ≤ y.signedRank := by
  have hone : (0 : ℚ) ≤ unitsPerOne := Nat.cast_nonneg _
  rw [hx.signedRank_eq, hy.signedRank_eq]
  by_cases hq : q < 0
  · by_cases hq' : q' < 0
    · have habs : |q'| ≤ |q| := by
        rw [abs_of_neg hq, abs_of_neg hq']
        exact neg_le_neg h
      have hrank := hy.nearest.mono hx.nearest (mul_le_mul_of_nonneg_right habs hone)
      rw [if_pos hq, if_pos hq']
      omega
    · rw [if_pos hq, if_neg hq']
      omega
  · have hq' : ¬ q' < 0 := fun hlt => hq (lt_of_le_of_lt h hlt)
    have habs : |q| ≤ |q'| := by
      rw [abs_of_nonneg (not_lt.mp hq), abs_of_nonneg (not_lt.mp hq')]
      exact h
    have hrank := hx.nearest.mono hy.nearest (mul_le_mul_of_nonneg_right habs hone)
    rw [if_neg hq, if_neg hq']
    omega

/-! ## Integers -/

theorem signedValue_natAbs (i : Int) :
    signedValue (decide (i < 0)) (i.natAbs / (1 : Nat)) = i := by
  rw [signedValue, Nat.cast_one, div_one, Nat.cast_natAbs, Int.cast_abs]
  by_cases h : i < 0
  · have hcast : (i : ℚ) < 0 := by exact_mod_cast h
    rw [if_pos (decide_eq_true h), abs_of_neg hcast, neg_neg]
  · have hcast : (0 : ℚ) ≤ i := by exact_mod_cast Int.not_lt.mp h
    rw [if_neg (by simpa using h), abs_of_nonneg hcast]

/-- An integer is rounded to the nearest double. -/
theorem roundsTo_of_ofInt_eq {i : Int} {x : Finite} (h : ofInt i = .finite x) :
    RoundsTo i x :=
  signedValue_natAbs i ▸ roundsTo_of_ofRatio_eq Nat.one_pos h

/-- An integer that is a double is kept. -/
theorem exists_ofInt_eq_of_value_eq {i : Int} {x : Finite} (h : x.value = i) :
    ∃ y, ofInt i = .finite y ∧ y.value = i := by
  have hrounds : RoundsTo (signedValue (decide (i < 0)) (i.natAbs / (1 : Nat))) x := by
    rw [signedValue_natAbs, ← h]
    exact roundsTo_value x
  obtain ⟨y, hy⟩ := exists_ofRatio_eq_of_roundsTo Nat.one_pos hrounds
  refine ⟨y, hy, ?_⟩
  rw [← h]
  exact (roundsTo_of_ofInt_eq hy).value_eq (h ▸ roundsTo_value x)

end Binary64

end QueryTemplate
