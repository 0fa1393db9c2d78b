import QueryTemplate.Proofs.FloatLiterals
import QueryTemplate.Proofs.ShortestDecimal

/-!
# Integers as numbers with a point

Where a number with a point is demanded, an integer stands for the double nearest to it, and the
literal of that double is written (`Conversion.float_int`).  Every integer of 64 bits has one: none
is beyond `2 ^ 63` in magnitude, and the finite doubles go on far behind that.

Up to `2 ^ 53` all integers are doubles.  The literal is the numeral with a fraction of one zero then,
and an integer placeholder takes it back as the integer it was.  Beyond, doubles are sparse and the
digits that are written need not even be those of the double.  But they are in order: a greater
integer is never written as a lesser number, since rounding keeps the order and so do shortest
decimals.
-/

namespace QueryTemplate

namespace Binary64

/-- **Integers of 64 bits are rounded to finite doubles.** -/
theorem exists_ofInt_toInt_eq (i : Int64) : ∃ x : Finite, ofInt i.toInt = .finite x := by
  obtain ⟨bound, hbound, hunits⟩ :=
    exists_rank_mul_two_pow (m := 1) (e := 63) (by decide +kernel) (by decide)
  have hmagnitude : i.toInt.natAbs ≤ 1 * 2 ^ 63 := by
    have hfits := fitsInt64_iff.mp (fitsInt64_toInt i)
    omega
  have hle : ((i.toInt.natAbs * unitsPerOne : Nat) / (1 : Nat) : ℚ) ≤ unitsOfRank bound := by
    rw [Nat.cast_one, div_one, hunits]
    exact_mod_cast Nat.mul_le_mul_right unitsPerOne hmagnitude
  have hrank : nearestRank i.toInt.natAbs 1 < rankLimit := by
    refine Nat.lt_of_le_of_lt ?_ hbound
    exact (isNearestRank_nearestRank _ Nat.one_pos).mono (isNearestRank_unitsOfRank bound) hle
  exact ⟨_, dif_pos hrank⟩

end Binary64

namespace Conversion

theorem float_int_eq_literal {i : Int64} {x : Binary64.Finite}
    (h : Binary64.ofInt i.toInt = .finite x) : float (.int i) = .ok x.literal :=
  congrArg floatLiteral h

/-- The literal of a double that is an integer in range writes this integer. -/
theorem int_text_literal {x : Binary64.Finite} {i : Int} (hvalue : x.value = i)
    (hfits : FitsInt64 i) : int (.text x.literal) = .ok (signedNumeral i) := by
  obtain ⟨s, htext, -, hread⟩ := x.exists_spelling_literal
  have hpoint : ¬ ∃ s : IntegerSpelling, s.text = x.literal ∧ FitsInt64 s.value := by
    rintro ⟨s, hs, -⟩
    exact s.point_not_mem_text (hs ▸ x.point_mem_literal)
  have hwhole : wholeNumber? x.literal = some i :=
    wholeNumber?_eq_some_iff.mpr ⟨hfits, .inr ⟨hpoint, s, x, htext, hread.rounds, hvalue⟩⟩
  rw [int_text_eq, hwhole]

/-- Small integers are written by their own numerals. -/
theorem exists_float_int_small {i : Int64} (h : i.toInt.natAbs ≤ 2 ^ 53) :
    ∃ x : Binary64.Finite, float (.int i) = .ok x.literal ∧ x.value = i.toInt ∧
      x.literal = signedNumeral i.toInt ++ ['.', '0'] := by
  obtain ⟨y, hy⟩ := Binary64.exists_value_eq_intCast h
  obtain ⟨x, hx, hvalue⟩ := Binary64.exists_ofInt_eq_of_value_eq hy
  have hsign := Binary64.negative_of_ofRatio_eq hx
  exact ⟨x, float_int_eq_literal hx, hvalue, Binary64.Finite.literal_of_value_eq h hsign hvalue⟩

/-- **What an integer is worth as a number with a point.**  It is always written, by a literal of the
plainest form that is read as the double nearest to the integer, and of two that are equally near as
the even one.  An integer of at most `2 ^ 53` in magnitude is written as its numeral with a fraction
of one zero, and this text is written by an integer placeholder as the integer itself.  Of two
integers, the literal of the greater one says no lesser number. -/
theorem float_int (i : Int64) :
    (∃ (s : DecimalSpelling) (x : Binary64.Finite),
      float (.int i) = .ok s.text ∧ s.IsPositional ∧ s.IsReadAs x ∧
        Binary64.RoundsTo i.toInt x) ∧
    (i.toInt.natAbs ≤ 2 ^ 53 →
      float (.int i) = .ok (signedNumeral i.toInt ++ ['.', '0']) ∧
        int (.text (signedNumeral i.toInt ++ ['.', '0'])) = int (.int i)) ∧
    ∀ j : Int64, i ≤ j → ∀ s s' : DecimalSpelling,
      float (.int i) = .ok s.text → float (.int j) = .ok s'.text → s.value ≤ s'.value := by
  obtain ⟨x, hx⟩ := Binary64.exists_ofInt_toInt_eq i
  have hrounds := Binary64.roundsTo_of_ofInt_eq hx
  have hwritten := float_int_eq_literal hx
  refine ⟨?_, ?_, ?_⟩
  · obtain ⟨s, htext, hform, hread⟩ := x.exists_spelling_literal
    exact ⟨s, x, htext ▸ hwritten, hform, hread, hrounds⟩
  · intro hsmall
    obtain ⟨y, hy, hvalue, hliteral⟩ := exists_float_int_small hsmall
    rw [← hliteral]
    exact ⟨hy, int_text_literal hvalue (fitsInt64_toInt i)⟩
  · intro j hij s s' hs hs'
    obtain ⟨y, hy⟩ := Binary64.exists_ofInt_toInt_eq j
    have htext : s.text = x.literal := Except.ok.inj (hs.symm.trans hwritten)
    have htext' : s'.text = y.literal := Except.ok.inj (hs'.symm.trans (float_int_eq_literal hy))
    have hle : (i.toInt : ℚ) ≤ j.toInt := by exact_mod_cast Int64.le_iff_toInt_le.mp hij
    rw [Binary64.Finite.value_eq_of_text_eq_literal htext,
      Binary64.Finite.value_eq_of_text_eq_literal htext']
    exact Binary64.Finite.value_shortest_le
      (hrounds.signedRank_le (Binary64.roundsTo_of_ofInt_eq hy) hle)

/-- The least integer that is sure to be written exactly, and the one below it. -/
theorem float_int_at_bound :
    float (.int (-9007199254740992)) = .ok "-9007199254740992.0".toList ∧
      int (.text "-9007199254740992.0".toList) = .ok "-9007199254740992".toList ∧
      ∃ s s' : DecimalSpelling, float (.int (-9007199254740993)) = .ok s.text ∧
        float (.int (-9007199254740992)) = .ok s'.text ∧ s.value ≤ s'.value := by
  have hnumeral : signedNumeral (-9007199254740992 : Int64).toInt = "-9007199254740992".toList := by
    decide +kernel
  obtain ⟨⟨s', -, hs', -⟩, hexact, -⟩ := float_int (-9007199254740992)
  obtain ⟨⟨s, -, hs, -⟩, -, hordered⟩ := float_int (-9007199254740993)
  obtain ⟨hfloat, hint⟩ := hexact (by decide)
  rw [hnumeral] at hfloat hint
  refine ⟨hfloat, hint.trans ?_, s, s', hs, hs', hordered _ (by decide) s s' hs hs'⟩
  exact congrArg Except.ok hnumeral

end Conversion

end QueryTemplate
