import QueryTemplate.Proofs.FloatLiterals
import QueryTemplate.Proofs.ListReader

/-!
# Numbers that are settled

A text may spell a number in many ways, with a plus sign, leading zeros, an exponent or a point
without digits on one side.  A numeric placeholder writes the number in one way only: an integer as
its canonical numeral (`IsCanonicalNumeral`), a number with a point as a literal of the plainest
form.  What it has written is settled: given back to the same kind of placeholder as a text, it is
written once more as it is (`Conversion.numeric_output_settles`).  Only the absent value is written
otherwise, as a word that is no number and would be refused as a text.

So whatever argument is given to a numeric placeholder, a text above all, the query receives digits,
a minus sign and a point and nothing else.
-/

namespace QueryTemplate

/-! ## Canonical numerals -/

/-- **The canonical numerals**: zero alone, or a digit other than zero and any digits behind it,
perhaps with a minus sign in front. -/
inductive IsCanonicalNumeral : Text → Prop
  | zero : IsCanonicalNumeral ['0']
  | nonzero (negative : Bool) {first : Char} {rest : Text} (hfirst : first.isDigit = true)
      (hne : first ≠ '0') (hrest : ∀ c ∈ rest, c.isDigit = true) :
      IsCanonicalNumeral ((if negative then ['-'] else []) ++ first :: rest)

/-- All digits but the last are the numeral of a tenth. -/
theorem numeral_of_ten_le {n : Nat} (h : 10 ≤ n) :
    numeral n = numeral (n / 10) ++ [Nat.digitChar (n % 10)] :=
  Nat.toDigits_of_base_le (by decide) h

/-- **Numerals have no leading zeros.** -/
theorem head?_numeral_ne_zero {n : Nat} (h : n ≠ 0) : (numeral n).head? ≠ some '0' := by
  induction n using Nat.strong_induction_on with
  | h n ih =>
    by_cases hten : n < 10
    · have hdigit : ∀ d : Fin 10, d.val ≠ 0 → some d.val.digitChar ≠ some '0' := by decide
      rw [numeral, Nat.toDigits_of_lt_base hten]
      exact hdigit ⟨n, hten⟩ h
    · rw [numeral_of_ten_le (Nat.not_lt.mp hten),
        List.head?_append_of_ne_nil _ (numeral_ne_nil _)]
      exact ih (n / 10) (by omega) (by omega)

/-- **The numeral of an integer is canonical.** -/
theorem isCanonicalNumeral_signedNumeral (i : Int) : IsCanonicalNumeral (signedNumeral i) := by
  by_cases hzero : i = 0
  · rw [hzero]
    exact .zero
  · have habs : i.natAbs ≠ 0 := Int.natAbs_ne_zero.mpr hzero
    obtain ⟨first, rest, hnumeral⟩ := List.exists_cons_of_ne_nil (numeral_ne_nil i.natAbs)
    have hdigits : ∀ c ∈ first :: rest, c.isDigit = true := by
      intro c hc
      rw [← hnumeral] at hc
      exact isDigit_of_mem_numeral hc
    have hne : first ≠ '0' := by
      intro hfirst
      apply head?_numeral_ne_zero habs
      rw [hnumeral, hfirst]
      rfl
    have hsign : signedNumeral i =
        (if decide (i < 0) then ['-'] else []) ++ first :: rest := by
      rw [signedNumeral, hnumeral]
      by_cases hnegative : i < 0 <;> simp [hnegative]
    rw [hsign]
    exact .nonzero _ (hdigits _ (List.mem_cons_self ..)) hne
      fun c hc => hdigits c (List.mem_cons_of_mem _ hc)

/-! ## Settled texts -/

theorem signedNumeral_ne_nullText (i : Int) : signedNumeral i ≠ Conversion.nullText :=
  ne_nullText_of_isNumeric fun _ => isNumeric_of_mem_signedNumeral

theorem literal_ne_nullText (x : Binary64.Finite) : x.literal ≠ Conversion.nullText :=
  ne_nullText_of_isNumeric fun _ => x.isNumeric_of_mem_literal

namespace Conversion

/-- **The numeral of an integer is settled.** -/
theorem int_text_signedNumeral {i : Int} (h : FitsInt64 i) :
    int (.text (signedNumeral i)) = .ok (signedNumeral i) := by
  have hread : wholeNumber? (signedNumeral i) = some i := by
    rw [wholeNumber?, readInteger?_signedNumeral, Option.filter_some, if_pos (decide_eq_true h)]
  rw [int_text_eq, hread]

theorem float_text_of_readFinite? {t : Text} {x : Binary64.Finite}
    (h : Decimal.readFinite? t = some x) : float (.text t) = .ok x.literal := by
  unfold float
  dsimp only
  rw [h]
  rfl

/-- **The literal of a double is settled.** -/
theorem float_text_literal (x : Binary64.Finite) : float (.text x.literal) = .ok x.literal :=
  float_text_of_readFinite? x.readFinite?_literal

/-- **What numeric placeholders write.**  An integer placeholder writes the canonical numeral of an
integer of 64 bits, and a placeholder for numbers with a point a literal of the plainest form, which
is read as a finite double; or the word for the absent value, exactly for that value.  A number that
was written is written again as it is when it is given as a text.  For a text there is nothing in
the query but digits, a minus sign and a point. -/
theorem numeric_output_settles (arg : Argument) (out : Text) :
    (int arg = .ok out →
      (out = nullText ↔ arg = .null) ∧
      (arg ≠ .null → (∃ i, FitsInt64 i ∧ out = signedNumeral i) ∧ IsCanonicalNumeral out ∧
        int (.text out) = .ok out)) ∧
    (float arg = .ok out →
      (out = nullText ↔ arg = .null) ∧
      (arg ≠ .null → (∃ (s : DecimalSpelling) (x : Binary64.Finite),
          s.text = out ∧ s.IsPositional ∧ s.IsReadAs x) ∧
        float (.text out) = .ok out)) ∧
    ∀ t, arg = .text t → int arg = .ok out ∨ float arg = .ok out → ∀ c ∈ out, IsNumeric c := by
  refine ⟨?_, ?_, ?_⟩
  · intro h
    obtain ⟨rfl, rfl⟩ | ⟨hne, i, hfits, rfl⟩ := exists_of_int_eq_ok h
    · exact ⟨iff_of_true rfl rfl, fun hne => absurd rfl hne⟩
    · refine ⟨iff_of_false (signedNumeral_ne_nullText i) hne, fun _ => ?_⟩
      exact ⟨⟨i, hfits, rfl⟩, isCanonicalNumeral_signedNumeral i, int_text_signedNumeral hfits⟩
  · intro h
    obtain ⟨rfl, rfl⟩ | ⟨hne, x, rfl⟩ := exists_of_float_eq_ok h
    · exact ⟨iff_of_true rfl rfl, fun hne => absurd rfl hne⟩
    · refine ⟨iff_of_false (literal_ne_nullText x) hne, fun _ => ?_⟩
      obtain ⟨s, htext, hform, hread⟩ := x.exists_spelling_literal
      exact ⟨⟨s, x, htext, hform, hread⟩, float_text_literal x⟩
  · rintro t rfl (h | h)
    · obtain ⟨hnull, -⟩ | ⟨-, i, -, rfl⟩ := exists_of_int_eq_ok h
      · cases hnull
      · exact fun c hc => isNumeric_of_mem_signedNumeral hc
    · obtain ⟨hnull, -⟩ | ⟨-, x, rfl⟩ := exists_of_float_eq_ok h
      · cases hnull
      · exact fun c hc => x.isNumeric_of_mem_literal hc

/-- A text with a plus sign, leading zeros, a bare point and an exponent is written as `70`, and a
text for negative zero as the literal of that double. -/
theorem numeric_output_of_texts :
    (int (.text "+00.7e2".toList) = .ok ['7', '0'] ∧ int (.text ['7', '0']) = .ok ['7', '0']) ∧
    float (.text "-.0E9".toList) = .ok (Binary64.Finite.zero true).literal ∧
      float (.text (Binary64.Finite.zero true).literal) =
        .ok (Binary64.Finite.zero true).literal := by
  have hint : int (.text "+00.7e2".toList) = .ok ['7', '0'] := by
    have hread : wholeNumber? "+00.7e2".toList = some 70 := by decide +kernel
    rw [int_text_eq, hread]
    rfl
  have hfloat : float (.text "-.0E9".toList) = .ok (Binary64.Finite.zero true).literal := by
    have hread : Decimal.readFinite? "-.0E9".toList = some (.zero true) := by decide +kernel
    exact float_text_of_readFinite? hread
  exact ⟨⟨hint, (((numeric_output_settles _ _).1 hint).2 nofun).2.2⟩, hfloat,
    (((numeric_output_settles _ _).2.1 hfloat).2 nofun).2⟩

end Conversion

end QueryTemplate
