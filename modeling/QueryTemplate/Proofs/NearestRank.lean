import Mathlib.Order.Monotone.Basic
import Mathlib.Tactic.Linarith
import QueryTemplate.Proofs.NearestDouble

/-!
# Rounding takes the nearest double

What a number is rounded to can be said without any digits: it is the magnitude that no other one is
nearer than, and of two that are equally near the one of even rank (`IsNearestRank`).  There is at
most one such rank (`IsNearestRank.unique`), and `nearestRank` finds it
(`isNearestRank_nearestRank`).

Ranks count all magnitudes in increasing order (`unitsOfRank_strictMono`), so a rank is the nearest
one if the number lies between the midpoints to its two neighbours
(`isNearestRank_of_midpoints`).  The neighbour above is as far away as one step of the significand.
So is the one below, except at the beginning of a binade, where it is nearer; but there the number
itself is not below the magnitude that it is rounded to.
-/

namespace QueryTemplate

/-! ## Magnitudes in order -/

/-- A rank that is put together from a significand and the weight of its last digit.  The
significand may be that of the next binade's first magnitude. -/
theorem unitsOfRank_add_mul {m e : Nat} (hlow : e = 0 ∨ binadeSize ≤ m)
    (hhigh : m ≤ 2 * binadeSize) :
    unitsOfRank (m + e * binadeSize) = m * 2 ^ e := by
  have hpos := binadeSize_pos
  have hdiv : (m + e * binadeSize) / binadeSize = m / binadeSize + e :=
    Nat.add_mul_div_right m e hpos
  have hexponent : ∀ k, m / binadeSize + e - 1 = k →
      unitsOfRank (m + e * binadeSize) = (m + e * binadeSize - k * binadeSize) * 2 ^ k := by
    rintro k rfl
    rw [unitsOfRank, rankExponent, hdiv, Nat.pow_eq]
  rcases Nat.lt_or_ge m binadeSize with hsmall | hlarge
  · -- the lowest binade
    have he : e = 0 := hlow.resolve_right (Nat.not_le.mpr hsmall)
    subst he
    rw [hexponent 0 (by rw [Nat.div_eq_of_lt hsmall])]
    omega
  · rcases Nat.lt_or_ge m (2 * binadeSize) with hlt | hge
    · have hone : m / binadeSize = 1 :=
        Nat.div_eq_of_lt_le (by omega) (by omega)
      rw [hexponent e (by omega), Nat.add_sub_cancel]
    · have htwo : m = 2 * binadeSize := Nat.le_antisymm hhigh hge
      have hquotient : m / binadeSize = 2 := by
        rw [htwo]
        exact Nat.mul_div_cancel 2 hpos
      have hrest : m + e * binadeSize - (e + 1) * binadeSize = binadeSize := by
        rw [htwo, Nat.add_mul]
        omega
      rw [hexponent (e + 1) (by omega), hrest, htwo, Nat.pow_succ, Nat.mul_comm 2 binadeSize,
        Nat.mul_assoc, Nat.mul_comm 2]

/-- **The step from one magnitude to the next** is the weight of its last digit. -/
theorem unitsOfRank_succ (rank : Nat) :
    unitsOfRank (rank + 1) = unitsOfRank rank + 2 ^ rankExponent rank := by
  obtain ⟨hle, hhigh, hlow⟩ := significand_bounds rank
  have hsplit : rank + 1 =
      rank - rankExponent rank * binadeSize + 1 + rankExponent rank * binadeSize := by
    omega
  have hcanonical : rankExponent rank = 0 ∨
      binadeSize ≤ rank - rankExponent rank * binadeSize + 1 := by
    rcases Nat.eq_zero_or_pos (rankExponent rank) with h | h
    · exact .inl h
    · exact .inr (Nat.le_succ_of_le (hlow h))
  conv_lhs => rw [hsplit]
  rw [unitsOfRank_add_mul hcanonical hhigh, Nat.succ_mul]
  rfl

theorem unitsOfRank_strictMono : StrictMono unitsOfRank := by
  refine strictMono_nat_of_lt_succ fun rank => ?_
  rw [unitsOfRank_succ]
  exact Nat.lt_add_of_pos_right (Nat.two_pow_pos _)

/-- **Every significand of any weight is a magnitude**, also a small one: it can be scaled up. -/
theorem exists_unitsOfRank_eq (e : Nat) {m : Nat} (hm : m ≤ 2 * binadeSize) :
    ∃ rank ≤ (e + 2) * binadeSize, unitsOfRank rank = m * 2 ^ e := by
  induction e generalizing m with
  | zero => exact ⟨m + 0 * binadeSize, by omega, unitsOfRank_add_mul (.inl rfl) hm⟩
  | succ e ih =>
    rcases Nat.lt_or_ge m binadeSize with hsmall | hlarge
    · obtain ⟨rank, hle, hunits⟩ := ih (m := 2 * m) (by omega)
      refine ⟨rank, Nat.le_trans hle (Nat.mul_le_mul_right _ (by omega)), ?_⟩
      rw [hunits, Nat.pow_succ, Nat.mul_comm (2 ^ e) 2, ← Nat.mul_assoc, Nat.mul_comm m 2]
    · refine ⟨m + (e + 1) * binadeSize, ?_, unitsOfRank_add_mul (.inr hlarge) hm⟩
      rw [Nat.add_mul (e + 1)]
      omega

/-! ## Nearest magnitudes -/

/-- **The rank that a number of units is rounded to**: no magnitude is nearer, and if another one is
equally near then the rank is even. -/
structure IsNearestRank (u : ℚ) (rank : Nat) : Prop where
  /-- No magnitude is nearer. -/
  nearest : ∀ other, |u - unitsOfRank rank| ≤ |u - unitsOfRank other|
  /-- A tie goes to the even rank. -/
  even : ∀ other, other ≠ rank → |u - unitsOfRank other| = |u - unitsOfRank rank| → rank % 2 = 0

/-- **A number is rounded to one rank only.** -/
theorem IsNearestRank.unique {u : ℚ} {rank rank' : Nat} (h : IsNearestRank u rank)
    (h' : IsNearestRank u rank') : rank = rank' := by
  -- of two ranks that are equally near, both even, a rank between them is nearer
  have hlt : ∀ {r r' : Nat}, IsNearestRank u r → IsNearestRank u r' → ¬ r < r' := by
    intro r r' hr hr' hlt
    have hsame : |u - unitsOfRank r| = |u - unitsOfRank r'| :=
      le_antisymm (hr.nearest r') (hr'.nearest r)
    have heven := hr.even r' (Nat.ne_of_gt hlt) hsame.symm
    have heven' := hr'.even r (Nat.ne_of_lt hlt) hsame
    have hfirst : (unitsOfRank r : ℚ) < unitsOfRank (r + 1) := by
      exact_mod_cast unitsOfRank_strictMono (Nat.lt_succ_self r)
    have hlast : (unitsOfRank (r + 1) : ℚ) < unitsOfRank r' := by
      exact_mod_cast unitsOfRank_strictMono (show r + 1 < r' by omega)
    have hbetween := hr.nearest (r + 1)
    have hbetween' := hr'.nearest (r + 1)
    rcases abs_cases (u - unitsOfRank r) with ⟨h1, _⟩ | ⟨h1, _⟩ <;>
      rcases abs_cases (u - unitsOfRank r') with ⟨h2, _⟩ | ⟨h2, _⟩ <;>
      rcases abs_cases (u - unitsOfRank (r + 1)) with ⟨h3, _⟩ | ⟨h3, _⟩ <;>
      linarith
  exact Nat.le_antisymm (Nat.not_lt.mp (hlt h' h)) (Nat.not_lt.mp (hlt h h'))

/-- **Between midpoints.**  A rank is the nearest one if the number is neither below the midpoint to
the magnitude before nor above the midpoint to the magnitude after, and on a midpoint only if the
rank is even. -/
theorem isNearestRank_of_midpoints {u : ℚ} {rank : Nat}
    (hbelow : ∀ s, rank = s + 1 → (unitsOfRank s + unitsOfRank rank : ℚ) ≤ 2 * u ∧
      ((unitsOfRank s + unitsOfRank rank : ℚ) = 2 * u → rank % 2 = 0))
    (habove : 2 * u ≤ (unitsOfRank rank + unitsOfRank (rank + 1) : ℚ) ∧
      (2 * u = (unitsOfRank rank + unitsOfRank (rank + 1) : ℚ) → rank % 2 = 0)) :
    IsNearestRank u rank := by
  have hmono : ∀ {r r' : Nat}, r ≤ r' → (unitsOfRank r : ℚ) ≤ unitsOfRank r' := fun h => by
    exact_mod_cast unitsOfRank_strictMono.monotone h
  constructor
  · intro other
    rcases Nat.lt_trichotomy other rank with hlt | rfl | hlt
    · obtain ⟨s, rfl⟩ : ∃ s, rank = s + 1 := ⟨rank - 1, by omega⟩
      have hmid := (hbelow s rfl).1
      have hother := hmono (Nat.le_of_lt_succ hlt)
      have hstep := hmono (Nat.le_succ s)
      rw [abs_le]
      constructor <;> rcases abs_cases (u - unitsOfRank other) with ⟨h, _⟩ | ⟨h, _⟩ <;> linarith
    · exact le_refl _
    · have hmid := habove.1
      have hother := hmono hlt
      have hstep := hmono (Nat.le_succ rank)
      rw [abs_le]
      constructor <;> rcases abs_cases (u - unitsOfRank other) with ⟨h, _⟩ | ⟨h, _⟩ <;> linarith
  · intro other hne hsame
    rcases Nat.lt_or_gt_of_ne hne with hlt | hlt
    · obtain ⟨s, rfl⟩ : ∃ s, rank = s + 1 := ⟨rank - 1, by omega⟩
      obtain ⟨hmid, heven⟩ := hbelow s rfl
      have hother := hmono (Nat.le_of_lt_succ hlt)
      have hstep : (unitsOfRank s : ℚ) < unitsOfRank (s + 1) := by
        exact_mod_cast unitsOfRank_strictMono (Nat.lt_succ_self s)
      refine heven (le_antisymm hmid ?_)
      rcases abs_cases (u - unitsOfRank other) with ⟨h, _⟩ | ⟨h, _⟩ <;>
        rcases abs_cases (u - unitsOfRank (s + 1)) with ⟨h', _⟩ | ⟨h', _⟩ <;> linarith
    · obtain ⟨hmid, heven⟩ := habove
      have hother := hmono hlt
      have hstep : (unitsOfRank rank : ℚ) < unitsOfRank (rank + 1) := by
        exact_mod_cast unitsOfRank_strictMono (Nat.lt_succ_self rank)
      refine heven (le_antisymm hmid ?_)
      rcases abs_cases (u - unitsOfRank other) with ⟨h, _⟩ | ⟨h, _⟩ <;>
        rcases abs_cases (u - unitsOfRank rank) with ⟨h', _⟩ | ⟨h', _⟩ <;> linarith

/-! ## Rounding a quotient -/

/-- **A quotient halfway** between two natural numbers is rounded to the even one. -/
theorem roundHalfEven_even_of_tie {a b : Nat} (hb : 0 < b)
    (h : 2 * a = 2 * (roundHalfEven a b * b) + b ∨ 2 * (roundHalfEven a b * b) = 2 * a + b) :
    roundHalfEven a b % 2 = 0 := by
  have hsplit : a / b * b + a % b = a := Nat.div_add_mod' a b
  have hsucc : (a / b + 1) * b = a / b * b + b := Nat.succ_mul ..
  have hmod := Nat.mod_lt a hb
  unfold roundHalfEven at h ⊢
  split
  · rename_i hless
    rw [if_pos hless] at h
    omega
  · rename_i hless
    rw [if_neg hless] at h
    split
    · rename_i hmore
      rw [if_pos hmore, hsucc] at h
      omega
    · split
      · assumption
      · omega

section Quotient
variable (units b : Nat)

/-- The weight of the last digit that a quotient keeps. -/
abbrev keptExponent : Nat := (units / b).log2 - 52

/-- What a quotient keeps: a significand of at most two binades. -/
theorem roundHalfEven_kept_le :
    roundHalfEven units (b * 2 ^ keptExponent units b) ≤ 2 * binadeSize := by
  have hquotient : units / b < 2 ^ (53 + keptExponent units b) := by
    by_cases hzero : units / b = 0
    · rw [hzero]
      exact Nat.two_pow_pos _
    · refine (Nat.log2_lt hzero).mp ?_
      unfold keptExponent
      omega
  have hlt : units / (b * 2 ^ keptExponent units b) < 2 * binadeSize := by
    rw [← Nat.div_div_eq_div_mul, Nat.div_lt_iff_lt_mul (Nat.two_pow_pos _), binadeSize_eq,
      ← Nat.pow_succ', ← Nat.pow_add]
    exact hquotient
  have hround := roundHalfEven_le_div_add_one units (b * 2 ^ keptExponent units b)
  omega

/-- Digits are only rounded away from a quotient of a full binade. -/
theorem binadeSize_mul_le_of_keptExponent_pos (h : 0 < keptExponent units b) :
    binadeSize * (b * 2 ^ keptExponent units b) ≤ units := by
  have hne : units / b ≠ 0 := by
    intro hzero
    rw [keptExponent, hzero, Nat.log2_zero] at h
    omega
  have hlead : 2 ^ (52 + keptExponent units b) ≤ units / b := by
    refine Nat.le_trans ?_ (Nat.log2_self_le hne)
    refine Nat.pow_le_pow_right (by decide) ?_
    unfold keptExponent at h ⊢
    omega
  calc binadeSize * (b * 2 ^ keptExponent units b)
      = 2 ^ (52 + keptExponent units b) * b := by
        rw [binadeSize_eq, Nat.pow_add, Nat.mul_assoc, Nat.mul_comm b]
    _ ≤ units / b * b := Nat.mul_le_mul_right _ hlead
    _ ≤ units := Nat.div_mul_le_self units b

end Quotient

/-- **A nearest significand makes a nearest rank.**  The significand `m`, whose last digit weighs
`2 ^ e`, is nearest to the quotient, and ties went to the even one; digits were only rounded away
from a quotient of a full binade. -/
theorem isNearestRank_of_significand {units b e m : Nat} (hb : 0 < b)
    (hlow : e = 0 ∨ binadeSize ≤ m) (hhigh : m ≤ 2 * binadeSize)
    (hfull : 0 < e → binadeSize * (b * 2 ^ e) ≤ units)
    (hdown : 2 * (m * (b * 2 ^ e)) ≤ 2 * units + b * 2 ^ e)
    (hup : 2 * units ≤ 2 * (m * (b * 2 ^ e)) + b * 2 ^ e)
    (htie : 2 * units = 2 * (m * (b * 2 ^ e)) + b * 2 ^ e ∨
      2 * (m * (b * 2 ^ e)) = 2 * units + b * 2 ^ e → m % 2 = 0) :
    IsNearestRank (units / b) (m + e * binadeSize) := by
  have hweight : 0 < b * 2 ^ e := Nat.mul_pos hb (Nat.two_pow_pos e)
  have hscaled : ∀ k, k * 2 ^ e * b = k * (b * 2 ^ e) := fun k => by
    rw [Nat.mul_assoc, Nat.mul_comm (2 ^ e)]
  have hunits := unitsOfRank_add_mul hlow hhigh
  have heven : m % 2 = 0 → (m + e * binadeSize) % 2 = 0 := by
    intro hm
    rw [show binadeSize = 2 * 2 ^ 51 from binadeSize_eq, Nat.mul_left_comm,
      Nat.add_mul_mod_self_left]
    exact hm
  -- the midpoint below, with the denominator multiplied out
  have hbelow : ∀ s, m + e * binadeSize = s + 1 →
      (unitsOfRank s + m * 2 ^ e) * b ≤ 2 * units ∧
        ((unitsOfRank s + m * 2 ^ e) * b = 2 * units → m % 2 = 0) := by
    intro s hs
    rw [Nat.add_mul, hscaled]
    rcases Nat.lt_or_ge units (m * (b * 2 ^ e)) with hless | hmore
    · -- the number is below, so this is not the beginning of a binade
      have hinside : e = 0 ∨ binadeSize ≤ m - 1 := by
        rcases Nat.eq_zero_or_pos e with he | he
        · exact .inl he
        · have hlt := Nat.lt_of_mul_lt_mul_right (Nat.lt_of_le_of_lt (hfull he) hless)
          exact .inr (by omega)
      have hpos : 0 < m := by
        rcases Nat.eq_zero_or_pos m with rfl | hm
        · rw [Nat.zero_mul] at hless
          cases hless
        · exact hm
      obtain ⟨k, rfl⟩ : ∃ k, m = k + 1 := ⟨m - 1, by omega⟩
      have hprevious : unitsOfRank s = k * 2 ^ e := by
        rw [show s = k + e * binadeSize by omega]
        exact unitsOfRank_add_mul hinside (by omega)
      have hsucc : (k + 1) * (b * 2 ^ e) = k * (b * 2 ^ e) + b * 2 ^ e := Nat.succ_mul ..
      rw [hprevious, hscaled]
      exact ⟨by omega, fun h => htie (.inr (by omega))⟩
    · have hstep : unitsOfRank s * b < m * (b * 2 ^ e) := by
        rw [← hscaled, ← hunits, hs]
        exact Nat.mul_lt_mul_of_pos_right (unitsOfRank_strictMono (Nat.lt_succ_self s)) hb
      exact ⟨by omega, fun h => absurd h (by omega)⟩
  -- the midpoint above: the step there is at least the weight of the last digit
  have habove : 2 * units ≤ (m * 2 ^ e + unitsOfRank (m + e * binadeSize + 1)) * b ∧
      (2 * units = (m * 2 ^ e + unitsOfRank (m + e * binadeSize + 1)) * b → m % 2 = 0) := by
    have hstep : m * (b * 2 ^ e) + b * 2 ^ e ≤ unitsOfRank (m + e * binadeSize + 1) * b := by
      have hexponent : e ≤ rankExponent (m + e * binadeSize) := by
        rcases hlow with rfl | hlow
        · exact Nat.zero_le _
        · have hquotient : 1 ≤ m / binadeSize := Nat.div_pos hlow binadeSize_pos
          rw [rankExponent, Nat.add_mul_div_right m e binadeSize_pos]
          omega
      rw [unitsOfRank_succ, hunits, Nat.add_mul, hscaled, Nat.mul_comm b]
      exact Nat.add_le_add_left
        (Nat.mul_le_mul_right b (Nat.pow_le_pow_right (by decide) hexponent)) _
    rw [Nat.add_mul, hscaled]
    exact ⟨by omega, fun h => htie (.inl (by omega))⟩
  have hpos : (0 : ℚ) < b := by exact_mod_cast hb
  rw [← hunits] at hbelow habove
  refine isNearestRank_of_midpoints (fun s hs => ?_) ?_
  · obtain ⟨hle, heq⟩ := hbelow s hs
    rw [← mul_div_assoc, le_div_iff₀ hpos, eq_div_iff hpos.ne']
    exact ⟨by exact_mod_cast hle, fun h => heven (heq (by exact_mod_cast h))⟩
  · obtain ⟨hle, heq⟩ := habove
    rw [← mul_div_assoc, div_le_iff₀ hpos, div_eq_iff hpos.ne']
    exact ⟨by exact_mod_cast hle, fun h => heven (heq (by exact_mod_cast h))⟩

/-- **Rounding a quotient takes the nearest magnitude**, and of two that are equally near the one of
even rank. -/
theorem isNearestRank_nearestRank (a : Nat) {b : Nat} (hb : 0 < b) :
    IsNearestRank ((a * unitsPerOne : Nat) / b) (nearestRank a b) := by
  have hweight : 0 < b * 2 ^ keptExponent (a * unitsPerOne) b :=
    Nat.mul_pos hb (Nat.two_pow_pos _)
  refine isNearestRank_of_significand hb ?_ (roundHalfEven_kept_le _ b)
    (binadeSize_mul_le_of_keptExponent_pos _ b) (two_mul_roundHalfEven_mul_le hweight)
    (le_two_mul_roundHalfEven_mul hweight) (roundHalfEven_even_of_tie hweight)
  rcases Nat.eq_zero_or_pos (keptExponent (a * unitsPerOne) b) with he | he
  · exact .inl he
  · refine .inr (binadeSize_le_roundHalfEven ?_)
    unfold keptExponent at he
    omega

/-- Every magnitude is nearest to itself. -/
theorem isNearestRank_unitsOfRank (rank : Nat) : IsNearestRank (unitsOfRank rank) rank := by
  constructor
  · intro other
    rw [sub_self, abs_zero]
    exact abs_nonneg _
  · intro other hne hsame
    rw [sub_self, abs_zero, abs_eq_zero, sub_eq_zero] at hsame
    exact absurd (unitsOfRank_strictMono.injective (by exact_mod_cast hsame.symm)) hne

/-! ## Doubles of either sign -/

theorem abs_signedValue (negative : Bool) {magnitude : ℚ} (h : 0 ≤ magnitude) :
    |signedValue negative magnitude| = magnitude := by
  cases negative with
  | false => exact abs_of_nonneg h
  | true => exact (abs_neg magnitude).trans (abs_of_nonneg h)

namespace Binary64

/-- **The exact value of a double.** -/
def Finite.value (x : Finite) : ℚ :=
  signedValue x.negative (x.units / unitsPerOne)

/-- **A number is rounded to a double**: the magnitude is the nearest one, and the sign is that of
the number.  Either zero may stand for a number that is zero. -/
structure RoundsTo (q : ℚ) (x : Finite) : Prop where
  /-- The magnitude is nearest. -/
  nearest : IsNearestRank (|q| * unitsPerOne) x.rank
  /-- The sign is the same. -/
  sign : q = signedValue x.negative |q|

theorem RoundsTo.rank_eq {q : ℚ} {x y : Finite} (hx : RoundsTo q x) (hy : RoundsTo q y) :
    x.rank = y.rank :=
  hx.nearest.unique hy.nearest

/-- **A number is rounded to one value only.** -/
theorem RoundsTo.value_eq {q : ℚ} {x y : Finite} (hx : RoundsTo q x) (hy : RoundsTo q y) :
    x.value = y.value := by
  have hrank := hx.rank_eq hy
  by_cases hsign : x.negative = y.negative
  · rw [Finite.value, Finite.value, Finite.units, Finite.units, hrank, hsign]
  · -- only zero is of both signs, and it is rounded to a zero
    have hzero : |q| = 0 := by
      have hxsign := hx.sign
      have hysign := hy.sign
      rw [Bool.eq_not_of_ne hsign] at hxsign
      cases hnegative : y.negative <;> simp only [hnegative, signedValue] at hxsign hysign <;>
        simp at hxsign hysign <;> linarith
    have hnearest := hx.nearest
    rw [hzero, zero_mul] at hnearest
    have hrankZero : x.rank = 0 := hnearest.unique (by exact_mod_cast isNearestRank_unitsOfRank 0)
    have hvalue : ∀ negative, signedValue negative ((unitsOfRank 0 : ℚ) / unitsPerOne) = 0 := by
      intro negative
      rw [show unitsOfRank 0 = 0 from Nat.zero_mul _, Nat.cast_zero, zero_div]
      cases negative with
      | false => rfl
      | true => exact neg_zero
    rw [Finite.value, Finite.value, Finite.units, Finite.units, ← hrank, hrankZero, hvalue, hvalue]

/-- Every double is rounded to itself. -/
theorem roundsTo_value (x : Finite) : RoundsTo x.value x := by
  have hone : (0 : ℚ) < unitsPerOne := by exact_mod_cast unitsPerOne_pos
  have habs : |x.value| = x.units / unitsPerOne :=
    abs_signedValue _ (div_nonneg (Nat.cast_nonneg _) hone.le)
  constructor
  · rw [habs, div_mul_cancel₀ _ hone.ne']
    exact isNearestRank_unitsOfRank x.rank
  · rw [habs]
    rfl

/-- **Quotients are rounded to the nearest double.** -/
theorem roundsTo_of_ofRatio_eq {negative : Bool} {a b : Nat} {x : Finite} (hb : 0 < b)
    (h : ofRatio negative a b = .finite x) : RoundsTo (signedValue negative (a / b)) x := by
  have hnonneg : (0 : ℚ) ≤ a / b := div_nonneg (Nat.cast_nonneg _) (Nat.cast_nonneg _)
  unfold ofRatio ofRank at h
  split at h
  · cases h
    constructor
    · rw [abs_signedValue _ hnonneg, div_mul_eq_mul_div]
      exact_mod_cast isNearestRank_nearestRank a hb
    · rw [abs_signedValue _ hnonneg]
  · cases h

/-- Conversely, a quotient that is rounded to a double gives a double of this value. -/
theorem exists_ofRatio_eq_of_roundsTo {negative : Bool} {a b : Nat} {x : Finite} (hb : 0 < b)
    (h : RoundsTo (signedValue negative (a / b)) x) :
    ∃ y, ofRatio negative a b = .finite y := by
  have hnonneg : (0 : ℚ) ≤ a / b := div_nonneg (Nat.cast_nonneg _) (Nat.cast_nonneg _)
  have hnearest := h.nearest
  rw [abs_signedValue _ hnonneg, div_mul_eq_mul_div] at hnearest
  have hrank : nearestRank a b = x.rank := by
    refine IsNearestRank.unique ?_ hnearest
    exact_mod_cast isNearestRank_nearestRank a hb
  refine ⟨⟨negative, x.rank, x.bounded⟩, ?_⟩
  rw [ofRatio, ofRank, hrank, dif_pos x.bounded]

/-- **Small integers are doubles.** -/
theorem exists_value_eq_intCast {i : Int} (h : i.natAbs ≤ 2 ^ 53) :
    ∃ x : Finite, x.value = i := by
  obtain ⟨rank, hle, hunits⟩ :
      ∃ rank ≤ (1074 + 2) * binadeSize, unitsOfRank rank = i.natAbs * unitsPerOne := by
    have hone : unitsPerOne = 2 ^ 1074 := by decide +kernel
    rw [hone]
    exact exists_unitsOfRank_eq 1074 (binadeSize_eq ▸ h)
  have hbound : rank < rankLimit := by
    have hpos := binadeSize_pos
    rw [rankLimit]
    omega
  refine ⟨⟨decide (i < 0), rank, hbound⟩, ?_⟩
  have hone : (unitsPerOne : ℚ) ≠ 0 := by exact_mod_cast unitsPerOne_pos.ne'
  have hmagnitude : (unitsOfRank rank : ℚ) / unitsPerOne = |(i : ℚ)| := by
    rw [hunits, Nat.cast_mul, Nat.cast_natAbs, Int.cast_abs]
    exact mul_div_cancel_right₀ _ hone
  rw [Finite.value, Finite.units, hmagnitude, signedValue]
  by_cases hnegative : i < 0
  · rw [if_pos (decide_eq_true hnegative), abs_of_neg (by exact_mod_cast hnegative), neg_neg]
  · rw [if_neg (by simpa using hnegative), abs_of_nonneg (by exact_mod_cast Int.not_lt.mp hnegative)]

end Binary64

end QueryTemplate
