import QueryTemplate.Proofs.DecimalLiterals
import QueryTemplate.Proofs.DoubleOrder

/-!
# What shortest decimals say

The shortest decimal of a double is found by a search through the counts of digits, and it need not
be the double's exact value.  Two things are known of its value all the same.

**It keeps the order.**  It is rounded to its double, and rounding keeps the order, so shortest
decimals are in the order of their doubles (`Binary64.Finite.value_shortest_le`).

**It is exact for whole numbers of at most `2 ^ 53`** (`Binary64.Finite.magnitude_shortest_whole`).
With as many digits as the whole number has, the cut is exact, so the search ends there at the
latest.  If it ended before, it would have found an even whole number of at most `2 ^ 54`; this is a
double itself, and no two doubles are rounded to each other.
-/

namespace QueryTemplate

/-! ## Digits -/

/-- Factors of ten add zeros to a numeral. -/
theorem length_numeral_mul_pow {n : Nat} (h : n ≠ 0) (zeros : Nat) :
    (numeral (n * 10 ^ zeros)).length = (numeral n).length + zeros := by
  have hlength := List.length_pos_iff.mpr (numeral_ne_nil n)
  have hpow : 0 < 10 ^ zeros := Nat.pow_pos (by decide)
  have hne : n * 10 ^ zeros ≠ 0 := Nat.mul_ne_zero h hpow.ne'
  apply Nat.le_antisymm
  · refine (Nat.length_toDigits_le_iff (by decide) (by omega)).mpr ?_
    rw [Nat.pow_add]
    exact Nat.mul_lt_mul_of_pos_right (Decimal.lt_pow_length_numeral n) hpow
  · by_contra hless
    have hlow : 10 ^ ((numeral n).length - 1 + zeros) ≤ n * 10 ^ zeros := by
      rw [Nat.pow_add]
      exact Nat.mul_le_mul_right _ (Decimal.pow_length_numeral_le h)
    have hhigh := Nat.lt_of_le_of_lt hlow (Decimal.lt_pow_length_numeral (n * 10 ^ zeros))
    have hexponent := (Nat.pow_lt_pow_iff_right (by decide)).mp hhigh
    omega

namespace Decimal

theorem magnitude_nonneg (digits : Nat) (exponent : Int) : 0 ≤ magnitude digits exponent :=
  mul_nonneg (Nat.cast_nonneg _) (zpow_nonneg (by norm_num) _)

/-- A whole number that is given by its digits and behind so many places. -/
theorem magnitude_sub_eq {digits places n weight : Nat}
    (h : digits * Nat.pow 10 places = n * Nat.pow 10 weight) :
    magnitude digits ((places : Int) - weight) = n := by
  have hweight : Nat.pow 10 weight ≠ 0 := (Nat.pow_pos (by decide)).ne'
  rw [magnitude_sub, h, Nat.cast_mul]
  exact mul_div_cancel_right₀ _ (Nat.cast_ne_zero.mpr hweight)

/-- No digit but zero remains of a fraction of zeros. -/
theorem trimZeros_replicate (n : Nat) : trimZeros (List.replicate n '0') = [] := by
  have hdrop : (List.replicate n '0').dropWhile (· = '0') = [] :=
    List.dropWhile_eq_nil_iff.mpr fun c hc => by simpa using List.eq_of_mem_replicate hc
  rw [trimZeros, List.reverse_replicate, hdrop, List.reverse_nil]

theorem paddedFraction_zero (places : Nat) :
    paddedFraction (places + 1) 0 = List.replicate (places + 1) '0' :=
  List.replicate_succ'.symm

/-- **A whole number is written as its numeral**, whichever digits and exponent it has. -/
theorem magnitudeText_of_magnitude_eq {digits n : Nat} {exponent : Int}
    (h : magnitude digits exponent = n) : magnitudeText digits exponent = numeral n := by
  cases exponent with
  | ofNat zeros =>
    rw [magnitude, Int.ofNat_eq_natCast, zpow_natCast] at h
    have hdigits : digits * 10 ^ zeros = n := by exact_mod_cast h
    exact congrArg numeral hdigits
  | negSucc places =>
    have hscale : 0 < 10 ^ (places + 1) := Nat.pow_pos (by decide)
    have hdigits : digits = n * 10 ^ (places + 1) := by
      rw [magnitude, zpow_negSucc, ← div_eq_mul_inv, div_eq_iff (by positivity)] at h
      exact_mod_cast h
    have hlow : digits % 10 ^ (places + 1) = 0 := hdigits ▸ Nat.mul_mod_left ..
    have hwhole : digits / 10 ^ (places + 1) = n := hdigits ▸ Nat.mul_div_cancel n hscale
    have hzeros : trimZeros (paddedFraction (places + 1) 0) = [] := by
      rw [paddedFraction_zero, trimZeros_replicate]
    rw [magnitudeText, Nat.pow_eq, hlow, hwhole]
    exact if_pos hzeros

end Decimal

/-! ## The search -/

/-- **The first hit of a search** comes no later than any other hit. -/
theorem exists_findSome?_range'_eq {α : Type} {f : Nat → Option α} {start n size : Nat} {a : α}
    (hn : n < size) (h : f (start + n) = some a) :
    ∃ m ≤ n, ∃ b, f (start + m) = some b ∧ (List.range' start size).findSome? f = some b := by
  induction size generalizing start n with
  | zero => cases hn
  | succ size ih =>
    have hnext : ∀ k, start + (k + 1) = start + 1 + k := fun k => by omega
    rw [List.range'_succ, List.findSome?_cons]
    cases hfirst : f start with
    | some b => exact ⟨0, Nat.zero_le n, b, hfirst, rfl⟩
    | none =>
      rcases n with _ | n
      · rw [Nat.add_zero, hfirst] at h
        cases h
      · rw [hnext] at h
        obtain ⟨m, hm, b, hb, hfound⟩ := ih (Nat.lt_of_succ_lt_succ hn) h
        exact ⟨m + 1, Nat.succ_le_succ hm, b, (hnext m).symm ▸ hb, hfound⟩

namespace Binary64.Finite

/-- **A grid that the exact value lies on** gives the exact value. -/
theorem neighbour?_of_dvd {rank grid : Nat} (hgrid : 0 < grid) (h : grid ∣ expansion rank) :
    neighbour? rank grid = some (expansion rank / grid) := by
  have hbelow : expansion rank / grid * grid = expansion rank := Nat.div_mul_cancel h
  have hrest : expansion rank % grid = 0 := Nat.mod_eq_zero_of_dvd h
  have hnear : 2 * (expansion rank % grid) < grid := by rwa [hrest, Nat.mul_zero]
  rw [neighbour?]
  rw [hbelow, decide_eq_true (readsAs_expansion rank), decide_eq_true hnear, Bool.or_true,
    Bool.and_true, if_pos rfl]

/-- A neighbour is not further above than one step of its grid. -/
theorem mul_le_of_neighbour? {rank grid digits : Nat} (h : neighbour? rank grid = some digits) :
    digits * grid ≤ expansion rank + grid := by
  have hbelow : expansion rank / grid * grid ≤ expansion rank := Nat.div_mul_le_self ..
  rw [neighbour?] at h
  split_ifs at h
  · cases h
    exact Nat.le_add_right_of_le hbelow
  · cases h
    rw [Nat.succ_mul]
    exact Nat.add_le_add_right hbelow grid

/-- **The search ends where the cut is exact**, or before. -/
theorem exists_shortestMagnitude_of_dvd {rank n : Nat} (hpos : 0 < n) (hn : n ≤ 17)
    (hdvd : Nat.pow 10 ((numeral (expansion rank)).length - n) ∣ expansion rank) :
    ∃ m ≤ n, 0 < m ∧ ∃ digits,
      neighbour? rank (Nat.pow 10 ((numeral (expansion rank)).length - m)) = some digits ∧
      shortestMagnitude rank =
        (digits, ((numeral (expansion rank)).length - m : Nat) - (1074 : Int)) := by
  have hexact := neighbour?_of_dvd (Nat.pow_pos (by decide)) hdvd
  obtain ⟨k, rfl⟩ : ∃ k, n = 1 + k := ⟨n - 1, by omega⟩
  let attempt (count : Nat) : Option (Nat × Int) :=
    (neighbour? rank (Nat.pow 10 ((numeral (expansion rank)).length - count))).map fun digits =>
      (digits, ((numeral (expansion rank)).length - count : Nat) - (1074 : Int))
  have hattempt : attempt (1 + k) = some _ := congrArg (Option.map _) hexact
  obtain ⟨m, hm, answer, hanswer, hfound⟩ :=
    exists_findSome?_range'_eq (show k < 17 by omega) hattempt
  obtain ⟨digits, hneighbour, rfl⟩ := Option.map_eq_some_iff.mp hanswer
  refine ⟨1 + m, Nat.add_le_add_left hm 1, by omega, digits, hneighbour, ?_⟩
  rw [shortestMagnitude]
  exact congrArg (Option.getD · _) hfound

/-! ## Whole numbers -/

theorem expansion_of_units_eq {rank n : Nat} (h : unitsOfRank rank = n * unitsPerOne) :
    expansion rank = n * Nat.pow 10 1074 := by
  have hten : Nat.pow 10 1074 = unitsPerOne * Nat.pow 5 1074 := by decide +kernel
  rw [expansion, h, hten, Nat.mul_assoc]

/-- A whole number that is a magnitude is rounded to no other one. -/
theorem eq_of_readsAs {rank rank' n : Nat} (hreads : ReadsAs rank (n * Nat.pow 10 1074))
    (hunits : unitsOfRank rank' = n * unitsPerOne) : rank = rank' := by
  have hweight : 0 < Nat.pow 10 1074 := by decide +kernel
  have hone : ∀ {weight}, 0 < weight → nearestRank (n * weight) weight = nearestRank n 1 := by
    intro weight hpos
    rw [← nearestRank_mul_right n 1 hpos, Nat.one_mul]
  calc rank = nearestRank (n * Nat.pow 10 1074) (Nat.pow 10 1074) := hreads.symm
    _ = nearestRank (n * unitsPerOne) unitsPerOne := by rw [hone hweight, hone unitsPerOne_pos]
    _ = rank' := by rw [← hunits, nearestRank_unitsOfRank]

/-- So an even number of at most `2 ^ 54` is rounded to no other whole number. -/
theorem mul_two_eq_of_readsAs {rank n half : Nat} (hunits : unitsOfRank rank = n * unitsPerOne)
    (hhalf : half ≤ 2 ^ 53) (hreads : ReadsAs rank (half * 2 ^ 1 * Nat.pow 10 1074)) :
    half * 2 ^ 1 = n := by
  have hsignificand : half ≤ 2 * binadeSize := by
    rw [binadeSize_eq]
    exact hhalf
  obtain ⟨rank', -, hrank'⟩ := exists_rank_mul_two_pow hsignificand (show 1 ≤ 970 by decide)
  rw [← eq_of_readsAs hreads hrank', hunits] at hrank'
  exact (Nat.eq_of_mul_eq_mul_right unitsPerOne_pos hrank').symm

theorem length_numeral_expansion {rank n weight : Nat} (hne : n ≠ 0)
    (h : expansion rank = n * Nat.pow 10 weight) :
    (numeral (expansion rank)).length = (numeral n).length + weight := by
  rw [h]
  exact length_numeral_mul_pow hne weight

/-- With all its digits, a whole number is cut exactly. -/
theorem pow_dvd_expansion {rank n weight : Nat} (h : expansion rank = n * Nat.pow 10 weight) :
    Nat.pow 10 ((numeral (expansion rank)).length - (numeral n).length) ∣ expansion rank := by
  by_cases hzero : n = 0
  · rw [hzero, Nat.zero_mul] at h
    exact h ▸ Nat.dvd_zero _
  · rw [length_numeral_expansion hzero h, Nat.add_sub_cancel_left]
    exact Dvd.intro_left n h.symm

/-- **No hit before the exact one.**  With fewer digits than a whole number has, a neighbour is whole
and even and at most twice as large, so it is a double and is only read as itself. -/
theorem mul_eq_expansion_of_neighbour? {rank n m digits : Nat} (hn : n ≤ 2 ^ 53)
    (hunits : unitsOfRank rank = n * unitsPerOne) (hpos : 0 < m) (hm : m ≤ (numeral n).length)
    (h : neighbour? rank (Nat.pow 10 ((numeral (expansion rank)).length - m)) = some digits) :
    digits * Nat.pow 10 ((numeral (expansion rank)).length - m) = expansion rank := by
  have hexpansion := expansion_of_units_eq hunits
  by_cases hdvd : Nat.pow 10 ((numeral (expansion rank)).length - m) ∣ expansion rank
  · have hexact := neighbour?_of_dvd (Nat.pow_pos (by decide)) hdvd
    rw [← Option.some.inj (hexact.symm.trans h)]
    exact Nat.div_mul_cancel hdvd
  · have hless : m < (numeral n).length := by
      refine Nat.lt_of_le_of_ne hm ?_
      rintro rfl
      exact hdvd (pow_dvd_expansion hexpansion)
    have hne : n ≠ 0 := by
      rintro rfl
      have hone : (numeral 0).length = 1 := rfl
      omega
    obtain ⟨e, he⟩ : ∃ e, (numeral n).length = m + (e + 1) :=
      ⟨(numeral n).length - m - 1, by omega⟩
    have hgrid : ∀ weight, expansion rank = n * Nat.pow 10 weight →
        Nat.pow 10 ((numeral (expansion rank)).length - m) = 10 ^ (e + 1) * Nat.pow 10 weight := by
      intro weight hweight
      rw [length_numeral_expansion hne hweight,
        show (numeral n).length + weight - m = e + 1 + weight by omega]
      exact pow_add 10 (e + 1) weight
    have hweight : 0 < Nat.pow 10 1074 := by decide +kernel
    have hreads := readsAs_of_neighbour? h
    have hclose := mul_le_of_neighbour? h
    rw [hgrid _ hexpansion, ← Nat.mul_assoc] at hreads hclose ⊢
    rw [hexpansion, ← Nat.add_mul] at hclose
    -- in ones: the neighbour is a multiple of ten and at most twice the number
    have hle : digits * 10 ^ (e + 1) ≤ n + 10 ^ (e + 1) :=
      Nat.le_of_mul_le_mul_right hclose hweight
    have hstep : 10 ^ (e + 1) ≤ n :=
      Nat.le_trans (Nat.pow_le_pow_right (by decide) (by omega)) (Decimal.pow_length_numeral_le hne)
    have heven : digits * 10 ^ (e + 1) = digits * 10 ^ e * 5 * 2 ^ 1 := by
      rw [Nat.pow_succ, ← Nat.mul_assoc, Nat.pow_one, Nat.mul_assoc _ 5 2]
    rw [heven] at hreads hle ⊢
    rw [mul_two_eq_of_readsAs hunits (by omega) hreads, hexpansion]

/-- **The shortest decimal of a whole number** of at most `2 ^ 53` is that number. -/
theorem magnitude_shortest_whole {x : Binary64.Finite} {n : Nat} (hn : n ≤ 2 ^ 53)
    (hunits : x.units = n * unitsPerOne) :
    Decimal.magnitude x.shortest.digits x.shortest.exponent = n := by
  have hpos := List.length_pos_iff.mpr (numeral_ne_nil n)
  have hlength : (numeral n).length ≤ 17 :=
    (Nat.length_toDigits_le_iff (by decide) (by decide)).mpr (by omega)
  have hexpansion := expansion_of_units_eq hunits
  obtain ⟨m, hm, hmpos, digits, hneighbour, hshortest⟩ :=
    exists_shortestMagnitude_of_dvd hpos hlength (pow_dvd_expansion hexpansion)
  have hexact := mul_eq_expansion_of_neighbour? hn hunits hmpos hm hneighbour
  have hvalue := Decimal.magnitude_sub_eq (hexact.trans hexpansion)
  rwa [shortest_eq, hshortest]

/-- **The literal of a whole number** of at most `2 ^ 53` is its numeral with a fraction of one
zero. -/
theorem literal_of_value_eq {x : Binary64.Finite} {i : Int} (hi : i.natAbs ≤ 2 ^ 53)
    (hsign : x.negative = decide (i < 0)) (hvalue : x.value = i) :
    x.literal = signedNumeral i ++ ['.', '0'] := by
  have hunits : x.units = i.natAbs * unitsPerOne := by
    have habs := congrArg Int.natAbs (value_eq_iff_signedUnits_eq.mp hvalue)
    rwa [natAbs_signedUnits, Int.natAbs_mul, Int.natAbs_natCast] at habs
  have hwhole := Decimal.magnitudeText_of_magnitude_eq (magnitude_shortest_whole hi hunits)
  rw [literal_of_magnitudeText_eq_numeral hwhole, hsign, signedNumeral, Decimal.positional]
  by_cases hnegative : i < 0 <;> simp [hnegative]

/-! ## Order -/

theorem value_shortest (x : Binary64.Finite) :
    x.shortest.value =
      signedValue x.negative (Decimal.magnitude x.shortest.digits x.shortest.exponent) := by
  rw [Decimal.value, negative_shortest]

/-- Of two magnitudes, the lesser one has the lesser shortest decimal. -/
theorem magnitude_shortest_mono {x y : Binary64.Finite} (h : x.rank ≤ y.rank) :
    Decimal.magnitude x.shortest.digits x.shortest.exponent ≤
      Decimal.magnitude y.shortest.digits y.shortest.exponent := by
  rcases Nat.eq_or_lt_of_le h with hsame | hless
  · rw [shortest_eq, shortest_eq, hsame]
  · obtain ⟨a, b, hb, hrank, hx⟩ := x.nearestRank_shortest
    obtain ⟨c, d, hd, hrank', hy⟩ := y.nearestRank_shortest
    by_contra hlt
    have hle : ((c * unitsPerOne : Nat) / d : ℚ) ≤ ((a * unitsPerOne : Nat) / b : ℚ) := by
      push_cast
      rw [mul_div_right_comm, mul_div_right_comm, ← hx, ← hy]
      exact mul_le_mul_of_nonneg_right (not_le.mp hlt).le (Nat.cast_nonneg _)
    have hback := (isNearestRank_nearestRank c hd).mono (isNearestRank_nearestRank a hb) hle
    rw [hrank, hrank'] at hback
    exact Nat.not_le.mpr hless hback

/-- **Shortest decimals are in the order of their doubles.** -/
theorem value_shortest_le {x y : Binary64.Finite} (h : x.signedRank ≤ y.signedRank) :
    x.shortest.value ≤ y.shortest.value := by
  have hx := Decimal.magnitude_nonneg x.shortest.digits x.shortest.exponent
  have hy := Decimal.magnitude_nonneg y.shortest.digits y.shortest.exponent
  -- zero is the only magnitude that both signs may stand before
  have hzero : ∀ z : Binary64.Finite, z.rank = 0 →
      Decimal.magnitude z.shortest.digits z.shortest.exponent = 0 := by
    intro z hz
    have hunits : z.units = 0 * unitsPerOne := by rw [units, hz, unitsOfRank_zero, Nat.zero_mul]
    exact_mod_cast magnitude_shortest_whole (Nat.zero_le _) hunits
  rw [value_shortest, value_shortest, signedValue, signedValue]
  unfold signedRank at h
  cases hxsign : x.negative <;> cases hysign : y.negative <;>
    simp only [hxsign, hysign, if_true, if_false, Bool.false_eq_true] at h ⊢
  · exact magnitude_shortest_mono (by omega)
  · rw [hzero x (by omega), hzero y (by omega), neg_zero]
  · linarith
  · exact neg_le_neg (magnitude_shortest_mono (by omega))

/-- **A literal says the shortest decimal** of its double. -/
theorem value_eq_of_text_eq_literal {x : Binary64.Finite} {s : DecimalSpelling}
    (h : s.text = x.literal) : s.value = x.shortest.value := by
  obtain ⟨whole, fraction, -, hdigits, hliteral, hvalue⟩ := x.literal_eq_positional
  have hread := Decimal.read?_text s
  rw [h, hliteral, Decimal.read?_positional _ _ hdigits] at hread
  rw [← s.value_decimal, ← Option.some.inj hread, Decimal.value, Decimal.magnitude_positional,
    hvalue, value_shortest]

end Binary64.Finite

end QueryTemplate
