import QueryTemplate.Conversion

/-!
# What unquoted values are written with

Everything that a conversion writes without quotes is a numeral, with or without a decimal point,
or the word for the absent value (`Conversion.IsPlain`).  So a numeric placeholder can put nothing
else into a query, whatever its argument, and a single value is either such a text or a string
literal.
-/

namespace QueryTemplate

/-- The characters of numerals: digits, the minus sign and the decimal point. -/
def IsNumeric (c : Char) : Prop :=
  c.isDigit = true ∨ c = '-' ∨ c = '.'

theorem isNumeric_of_mem_numeral {n : Nat} {c : Char} (h : c ∈ numeral n) : IsNumeric c :=
  .inl (isDigit_of_mem_numeral h)

theorem isNumeric_of_mem_signedNumeral {i : Int} {c : Char} (h : c ∈ signedNumeral i) :
    IsNumeric c := by
  unfold signedNumeral at h
  split at h
  · rcases List.mem_cons.mp h with rfl | h
    · exact .inr (.inl rfl)
    · exact isNumeric_of_mem_numeral h
  · exact isNumeric_of_mem_numeral h

namespace Decimal

theorem mem_of_mem_trimZeros {fraction : Text} {c : Char} (h : c ∈ trimZeros fraction) :
    c ∈ fraction := by
  rw [trimZeros, List.mem_reverse] at h
  exact List.mem_reverse.mp ((List.dropWhile_sublist _).subset h)

theorem isNumeric_of_mem_magnitudeText {digits : Nat} {exponent : Int} {c : Char}
    (h : c ∈ magnitudeText digits exponent) : IsNumeric c := by
  cases exponent with
  | ofNat zeros => exact isNumeric_of_mem_numeral h
  | negSucc places =>
    unfold magnitudeText at h
    dsimp only at h
    split at h
    · exact isNumeric_of_mem_numeral h
    · rcases List.mem_append.mp h with h | h
      · exact isNumeric_of_mem_numeral h
      · rcases List.mem_cons.mp h with rfl | h
        · exact .inr (.inr rfl)
        · rcases List.mem_append.mp (mem_of_mem_trimZeros h) with h | h
          · rw [List.eq_of_mem_replicate h]
            exact .inl rfl
          · exact isNumeric_of_mem_numeral h

theorem isNumeric_of_mem_toText {x : Decimal} {c : Char} (h : c ∈ x.toText) : IsNumeric c := by
  unfold toText at h
  split at h
  · rcases List.mem_cons.mp h with rfl | h
    · exact .inr (.inl rfl)
    · exact isNumeric_of_mem_magnitudeText h
  · exact isNumeric_of_mem_magnitudeText h

end Decimal

theorem Binary64.Finite.isNumeric_of_mem_literal {x : Binary64.Finite} {c : Char}
    (h : c ∈ x.literal) : IsNumeric c := by
  unfold literal at h
  split at h
  · exact Decimal.isNumeric_of_mem_toText h
  · rcases List.mem_append.mp h with h | h
    · exact Decimal.isNumeric_of_mem_toText h
    · rcases List.mem_cons.mp h with rfl | h
      · exact .inr (.inr rfl)
      · rw [List.mem_singleton.mp h]
        exact .inl rfl

namespace Conversion

/-- The texts that are written without quotes: the absent value, and numerals. -/
def IsPlain (t : Text) : Prop :=
  t = nullText ∨ ∀ c ∈ t, IsNumeric c

/-- Only finite doubles are written, as their literals. -/
theorem exists_of_floatLiteral_eq_ok {x : Binary64} {out : Text} (h : floatLiteral x = .ok out) :
    ∃ y, x = .finite y ∧ out = y.literal := by
  cases x with
  | finite y => exact ⟨y, rfl, (Except.ok.inj h).symm⟩
  | infinite negative => cases h
  | nan => cases h

/-- An integer that is read from a double was cast. -/
theorem fitsInt64_of_truncated? {x : Binary64} {i : Int} (h : truncated? x = some i) :
    FitsInt64 i := by
  obtain ⟨-, hcast⟩ := Option.ite_none_left_eq_some.mp h
  rw [← Option.some.inj hcast]
  exact fitsInt64_toInt _

/-- An integer that is read from a text is in range, whichever reader it comes from. -/
theorem fitsInt64_of_wholeNumber? {t : Text} {i : Int} (h : wholeNumber? t = some i) :
    FitsInt64 i := by
  unfold wholeNumber? at h
  split at h
  · rename_i j hread
    cases h
    exact of_decide_eq_true (Option.filter_eq_some_iff.mp hread).2
  · obtain ⟨x, -, hx⟩ := Option.bind_eq_some_iff.mp h
    obtain ⟨-, htruncated⟩ := Option.ite_none_right_eq_some.mp hx
    exact fitsInt64_of_truncated? htruncated

theorem fitsInt64_truthNumber (b : Bool) : FitsInt64 (truthNumber b) := by
  cases b <;> decide

/-- **What the integer conversion writes**: the word for the absent value, or else the numeral of an
integer of 64 bits. -/
theorem exists_of_int_eq_ok {arg : Argument} {out : Text} (h : int arg = .ok out) :
    arg = .null ∧ out = nullText ∨
      arg ≠ .null ∧ ∃ i, FitsInt64 i ∧ out = signedNumeral i := by
  cases arg with
  | null => exact .inl ⟨rfl, (Except.ok.inj h).symm⟩
  | bool b => exact .inr ⟨nofun, _, fitsInt64_truthNumber b, (Except.ok.inj h).symm⟩
  | int i => exact .inr ⟨nofun, _, fitsInt64_toInt i, (Except.ok.inj h).symm⟩
  | float x =>
    unfold int at h
    dsimp only at h
    split at h
    · rename_i i hi
      exact .inr ⟨nofun, i, fitsInt64_of_truncated? hi, (Except.ok.inj h).symm⟩
    · cases h
  | text t =>
    unfold int at h
    dsimp only at h
    split at h
    · rename_i i hi
      exact .inr ⟨nofun, i, fitsInt64_of_wholeNumber? hi, (Except.ok.inj h).symm⟩
    · cases h
  | list items => cases h
  | map entries => cases h
  | skip => cases h

/-- **What the conversion to a number with a decimal point writes**: the word for the absent value,
or else the literal of a double. -/
theorem exists_of_float_eq_ok {arg : Argument} {out : Text} (h : float arg = .ok out) :
    arg = .null ∧ out = nullText ∨
      arg ≠ .null ∧ ∃ x : Binary64.Finite, out = x.literal := by
  have hliteral : ∀ x, floatLiteral x = .ok out → ∃ x : Binary64.Finite, out = x.literal := by
    intro x hx
    obtain ⟨y, -, hy⟩ := exists_of_floatLiteral_eq_ok hx
    exact ⟨y, hy⟩
  cases arg with
  | null => exact .inl ⟨rfl, (Except.ok.inj h).symm⟩
  | bool b => exact .inr ⟨nofun, hliteral _ h⟩
  | int i => exact .inr ⟨nofun, hliteral _ h⟩
  | float x => exact .inr ⟨nofun, hliteral _ h⟩
  | text t =>
    unfold float at h
    dsimp only at h
    split at h
    · exact .inr ⟨nofun, hliteral _ h⟩
    · cases h
  | list items => cases h
  | map entries => cases h
  | skip => cases h

theorem isPlain_signedNumeral (i : Int) : IsPlain (signedNumeral i) :=
  .inr fun _ hc => isNumeric_of_mem_signedNumeral hc

theorem isPlain_literal (x : Binary64.Finite) : IsPlain x.literal :=
  .inr fun _ hc => x.isNumeric_of_mem_literal hc

/-- The integer conversion writes plain text only. -/
theorem isPlain_of_int_eq_ok {arg : Argument} {out : Text} (h : int arg = .ok out) :
    IsPlain out := by
  obtain ⟨-, rfl⟩ | ⟨-, i, -, rfl⟩ := exists_of_int_eq_ok h
  · exact .inl rfl
  · exact isPlain_signedNumeral i

/-- The conversion to a number with a decimal point writes plain text only. -/
theorem isPlain_of_float_eq_ok {arg : Argument} {out : Text} (h : float arg = .ok out) :
    IsPlain out := by
  obtain ⟨-, rfl⟩ | ⟨-, x, rfl⟩ := exists_of_float_eq_ok h
  · exact .inl rfl
  · exact isPlain_literal x

/-- A single value is written as plain text, or it is a text and written as a literal. -/
theorem isPlain_or_literal_of_escaped_eq_ok {e : Escaper} {arg : Argument} {out : Text}
    (h : escaped e arg = .ok out) : IsPlain out ∨ ∃ t, arg = .text t ∧ out = e.literal t := by
  cases arg with
  | null => exact .inl (.inl (Except.ok.inj h).symm)
  | bool b => exact .inl (Except.ok.inj h ▸ isPlain_signedNumeral _)
  | int i => exact .inl (Except.ok.inj h ▸ isPlain_signedNumeral _)
  | float x =>
    obtain ⟨y, -, rfl⟩ := exists_of_floatLiteral_eq_ok h
    exact .inl (isPlain_literal y)
  | text t => exact .inr ⟨t, rfl, (Except.ok.inj h).symm⟩
  | list items => cases h
  | map entries => cases h
  | skip => cases h

/-- A character that no plain text has. -/
theorem IsPlain.not_mem {t : Text} (h : IsPlain t) {c : Char} (hnumeric : ¬ IsNumeric c)
    (hnull : c ∉ nullText) : c ∉ t := by
  rcases h with rfl | h
  · exact hnull
  · exact fun hc => hnumeric (h c hc)

/-- Plain text has no quotes. -/
theorem IsPlain.singleQuote_not_mem {t : Text} (h : IsPlain t) : singleQuote ∉ t :=
  h.not_mem (by unfold IsNumeric; decide) (by decide)

end Conversion

end QueryTemplate
