import QueryTemplate.Proofs.DecimalLiterals
import QueryTemplate.Proofs.Truncation

/-!
# Texts as integers

A text may be given where an integer is demanded.  If it is an integer literal in range, it stands
for that integer.  Any other decimal literal stands for the double nearest to it, which must be
whole and in range (`WritesInteger`).  So what a text stands for can be told from its grammar and
from exact values, and every other text is refused as it is (`Conversion.int_text`).

A literal whose exact value is a double is never changed.  Others may be: the literal
`9007199254740993.0` lies halfway between two doubles and becomes the even one
(`Conversion.int_text_rounds`).
-/

namespace QueryTemplate

/-! ## What a literal is rounded to -/

/-- **A decimal number is rounded to the nearest double.** -/
theorem Decimal.roundsTo_of_nearest_eq {x : Decimal} {y : Binary64.Finite}
    (h : x.nearest = .finite y) : Binary64.RoundsTo x.value y := by
  rw [nearest_eq_ofRatio] at h
  rw [value, ← ratio_eq_magnitude]
  exact Binary64.roundsTo_of_ofRatio_eq (ratio_snd_pos ..) h

theorem Decimal.exists_nearest_eq_of_roundsTo {x : Decimal} {y : Binary64.Finite}
    (h : Binary64.RoundsTo x.value y) : ∃ z, x.nearest = .finite z := by
  rw [value, ← ratio_eq_magnitude] at h
  rw [nearest_eq_ofRatio]
  exact Binary64.exists_ofRatio_eq_of_roundsTo (ratio_snd_pos ..) h

theorem Decimal.exists_nearest_eq_finite_iff {x : Decimal} {v : ℚ} :
    (∃ y, x.nearest = .finite y ∧ y.value = v) ↔
      ∃ y, Binary64.RoundsTo x.value y ∧ y.value = v := by
  constructor
  · rintro ⟨y, hy, hv⟩
    exact ⟨y, roundsTo_of_nearest_eq hy, hv⟩
  · rintro ⟨y, hrounds, hv⟩
    obtain ⟨z, hz⟩ := exists_nearest_eq_of_roundsTo hrounds
    exact ⟨z, hz, ((roundsTo_of_nearest_eq hz).value_eq hrounds).trans hv⟩

/-- **The integers that a text writes.**  An integer literal in range writes itself.  Any other
decimal literal writes the value of the double nearest to it, if that is an integer in range. -/
def WritesInteger (t : Text) (i : Int) : Prop :=
  FitsInt64 i ∧
    ((∃ s : IntegerSpelling, s.text = t ∧ s.value = i) ∨
      (¬ ∃ s : IntegerSpelling, s.text = t ∧ FitsInt64 s.value) ∧
        ∃ (s : DecimalSpelling) (x : Binary64.Finite),
          s.text = t ∧ Binary64.RoundsTo s.value x ∧ x.value = i)

/-! ## The conversion -/

namespace Conversion

theorem truncated?_eq_some_iff_of_isWhole {x : Binary64.Finite} {i : Int} :
    (if x.IsWhole then truncated? (.finite x) else none) = some i ↔
      FitsInt64 i ∧ x.value = i := by
  rw [Binary64.Finite.value_eq_intCast_iff]
  by_cases hwhole : x.IsWhole
  · rw [if_pos hwhole, truncated?_finite]
    split
    · rename_i hfits
      constructor
      · intro h
        cases h
        exact ⟨hfits, hwhole, rfl⟩
      · rintro ⟨-, -, rfl⟩
        rfl
    · rename_i hfits
      constructor
      · intro h
        cases h
      · rintro ⟨hi, -, rfl⟩
        exact absurd hi hfits
  · rw [if_neg hwhole]
    constructor
    · intro h
      cases h
    · rintro ⟨-, h, -⟩
      exact absurd h hwhole

/-- A text that is read as a double gives an integer if the double nearest to a literal is one. -/
theorem readFinite?_bind_eq_some_iff {t : Text} {i : Int} :
    ((Decimal.readFinite? t).bind fun x =>
        if x.IsWhole then truncated? (.finite x) else none) = some i ↔
      FitsInt64 i ∧ ∃ (s : DecimalSpelling) (x : Binary64.Finite),
        s.text = t ∧ Binary64.RoundsTo s.value x ∧ x.value = i := by
  have hfinite : ∀ (b : Binary64) (x : Binary64.Finite), b.finite? = some x ↔ b = .finite x := by
    intro b x
    cases b <;> simp [Binary64.finite?]
  rw [Option.bind_eq_some_iff]
  simp only [truncated?_eq_some_iff_of_isWhole, Decimal.readFinite?, Option.bind_eq_some_iff,
    hfinite]
  constructor
  · rintro ⟨x, ⟨d, hd, hx⟩, hfits, hvalue⟩
    obtain ⟨s, rfl, rfl⟩ := Decimal.read?_eq_some_iff.mp hd
    obtain ⟨y, hy, hyvalue⟩ := Decimal.exists_nearest_eq_finite_iff.mp ⟨x, hx, hvalue⟩
    exact ⟨hfits, s, y, rfl, s.value_decimal ▸ hy, hyvalue⟩
  · rintro ⟨hfits, s, y, rfl, hy, hyvalue⟩
    rw [← s.value_decimal] at hy
    obtain ⟨x, hx, hvalue⟩ := Decimal.exists_nearest_eq_finite_iff.mpr ⟨y, hy, hyvalue⟩
    exact ⟨x, ⟨s.decimal, Decimal.read?_text s, hx⟩, hfits, hvalue⟩

/-- An integer literal in range is read as its integer. -/
theorem readInteger?_filter_eq_some_iff {t : Text} {i : Int} :
    (readInteger? t).filter (fun i => decide (FitsInt64 i)) = some i ↔
      FitsInt64 i ∧ ∃ s : IntegerSpelling, s.text = t ∧ s.value = i := by
  rw [Option.filter_eq_some_iff, readInteger?_eq_some_iff, decide_eq_true_iff, and_comm]

/-- **Which integer is read from a text.** -/
theorem wholeNumber?_eq_some_iff {t : Text} {i : Int} :
    wholeNumber? t = some i ↔ WritesInteger t i := by
  unfold wholeNumber? WritesInteger
  cases hread : (readInteger? t).filter (fun i => decide (FitsInt64 i)) with
  | some j =>
    obtain ⟨hfits, s, htext, hvalue⟩ := readInteger?_filter_eq_some_iff.mp hread
    constructor
    · intro h
      cases h
      exact ⟨hfits, .inl ⟨s, htext, hvalue⟩⟩
    · rintro ⟨hi, hliteral | ⟨hno, -⟩⟩
      · exact hread.symm.trans (readInteger?_filter_eq_some_iff.mpr ⟨hi, hliteral⟩)
      · exact absurd ⟨s, htext, hvalue ▸ hfits⟩ hno
  | none =>
    have hno : ¬ ∃ s : IntegerSpelling, s.text = t ∧ FitsInt64 s.value := by
      rintro ⟨s, htext, hfits⟩
      have hsome := readInteger?_filter_eq_some_iff.mpr ⟨hfits, s, htext, rfl⟩
      rw [hread] at hsome
      cases hsome
    dsimp only
    rw [readFinite?_bind_eq_some_iff]
    constructor
    · rintro ⟨hfits, hrounded⟩
      exact ⟨hfits, .inr ⟨hno, hrounded⟩⟩
    · rintro ⟨hfits, ⟨s, htext, hvalue⟩ | ⟨-, hrounded⟩⟩
      · exact absurd ⟨s, htext, hvalue ▸ hfits⟩ hno
      · exact ⟨hfits, hrounded⟩

end Conversion

/-! ## Literals that are kept -/

/-- An integer literal is a decimal literal of the same value. -/
def IntegerSpelling.toDecimal (s : IntegerSpelling) : DecimalSpelling where
  sign := s.sign
  whole := s.digits
  fraction? := none
  exponent := .none
  whole_isDigit := s.isDigit
  fraction_isDigit := nofun
  nonempty := fun h => s.nonempty (List.append_eq_nil_iff.mp h).1

theorem IntegerSpelling.text_toDecimal (s : IntegerSpelling) : s.toDecimal.text = s.text := by
  show s.sign.text ++ (s.digits ++ []) = _
  rw [List.append_nil]
  rfl

theorem IntegerSpelling.value_toDecimal (s : IntegerSpelling) : s.toDecimal.value = s.value := by
  show signedValue s.sign.negative ((digitsValue s.digits + (0 : Nat) / 10 ^ 0) * 10 ^ (0 : Int)) =
    (signed s.sign.negative (digitsValue s.digits) : Int)
  rw [signedValue, signed]
  split <;> simp

/-- A text has one exact value, however it is taken apart. -/
theorem DecimalSpelling.value_eq_of_text_eq {s s' : DecimalSpelling} (h : s.text = s'.text) :
    s.value = s'.value := by
  have hread := Decimal.read?_text s
  rw [h, Decimal.read?_text s'] at hread
  rw [← s.value_decimal, ← s'.value_decimal, Option.some.inj hread]

/-- **A literal whose exact value is a double is kept**: it writes an integer exactly if its value is
an integer in range, and then it writes that one. -/
theorem writesInteger_iff_of_value_eq {s : DecimalSpelling} {x : Binary64.Finite}
    (hx : x.value = s.value) {i : Int} : WritesInteger s.text i ↔ s.value = i ∧ FitsInt64 i := by
  have hself : Binary64.RoundsTo s.value x := hx ▸ Binary64.roundsTo_value x
  constructor
  · rintro ⟨hfits, ⟨s', htext, rfl⟩ | ⟨-, s', y, htext, hrounds, hvalue⟩⟩
    · refine ⟨?_, hfits⟩
      rw [← s'.value_toDecimal]
      exact DecimalSpelling.value_eq_of_text_eq (htext ▸ s'.text_toDecimal.symm)
    · rw [DecimalSpelling.value_eq_of_text_eq htext] at hrounds
      exact ⟨hx.symm.trans ((hself.value_eq hrounds).trans hvalue), hfits⟩
  · rintro ⟨hvalue, hfits⟩
    refine ⟨hfits, ?_⟩
    by_cases hliteral : ∃ s' : IntegerSpelling, s'.text = s.text ∧ FitsInt64 s'.value
    · obtain ⟨s', htext, -⟩ := hliteral
      have hsame : s'.toDecimal.value = s.value :=
        DecimalSpelling.value_eq_of_text_eq (s'.text_toDecimal.trans htext)
      rw [s'.value_toDecimal, hvalue] at hsame
      exact .inl ⟨s', htext, by exact_mod_cast hsame⟩
    · exact .inr ⟨hliteral, s, x, rfl, hself, hx.trans hvalue⟩

namespace Conversion

theorem int_text_eq (t : Text) :
    int (.text t) =
      match wholeNumber? t with
      | some i => .ok (signedNumeral i)
      | none => notNumeric .int t := rfl

/-- **What a text is worth as an integer.**  The conversion succeeds exactly for the texts that write
an integer, and gives the numeral of that integer; there is at most one.  Every other text is
refused: the placeholder names it, unchanged, with its own number and the kind of number demanded.
A literal whose exact value is a double is kept: it is accepted exactly if that value is an integer
in range.  Integers of at most `2 ^ 53` in magnitude are doubles, so these are kept however they
are spelled. -/
theorem int_text (t : Text) :
    (∀ out, int (.text t) = .ok out ↔ ∃ i, WritesInteger t i ∧ out = signedNumeral i) ∧
    (∀ i j, WritesInteger t i → WritesInteger t j → i = j) ∧
    ((¬ ∃ i, WritesInteger t i) → ∀ (e : Escaper) strict rest supply unread,
      supply.unread = .text t :: unread →
      fillTokens e strict (.hole .int :: rest) supply =
        .error (.badArgument supply.nextIndex (.notNumeric .int t))) ∧
    (∀ (s : DecimalSpelling) (x : Binary64.Finite), s.text = t → x.value = s.value →
      ∀ i, WritesInteger t i ↔ s.value = i ∧ FitsInt64 i) ∧
    ∀ (s : DecimalSpelling) (i : Int), s.text = t → s.value = i → i.natAbs ≤ 2 ^ 53 →
      WritesInteger t i := by
  have hint : ∀ out, int (.text t) = .ok out ↔ ∃ i, WritesInteger t i ∧ out = signedNumeral i := by
    intro out
    simp only [← wholeNumber?_eq_some_iff]
    rw [int_text_eq]
    cases wholeNumber? t with
    | none => exact ⟨nofun, fun ⟨_, h, _⟩ => nomatch h⟩
    | some i =>
      constructor
      · intro h
        cases h
        exact ⟨i, rfl, rfl⟩
      · rintro ⟨_, ⟨⟩, rfl⟩
        rfl
  refine ⟨hint, fun i j hi hj => ?_, fun hno e strict rest supply unread hunread => ?_, ?_, ?_⟩
  · rw [← wholeNumber?_eq_some_iff] at hi hj
    exact Option.some.inj (hi.symm.trans hj)
  · have hnone : wholeNumber? t = none := by
      cases h : wholeNumber? t with
      | none => rfl
      | some i => exact absurd ⟨i, wholeNumber?_eq_some_iff.mp h⟩ hno
    have hrefused : Specifier.int.convert e (.text t) = notNumeric .int t := by
      rw [Specifier.convert, int_text_eq, hnone]
    rw [fillTokens, hunread]
    dsimp only
    rw [hrefused]
    rfl
  · rintro s x rfl hx i
    exact writesInteger_iff_of_value_eq hx
  · rintro s i rfl hvalue hsmall
    obtain ⟨x, hx⟩ := Binary64.exists_value_eq_intCast hsmall
    refine (writesInteger_iff_of_value_eq (hx.trans hvalue.symm)).mpr ⟨hvalue, ?_⟩
    have hmin : Int64.minValue.toInt = -2 ^ 63 := by decide
    have hmax : Int64.maxValue.toInt = 2 ^ 63 - 1 := by decide
    rw [FitsInt64, hmin, hmax]
    omega

/-- A literal with a point and an exponent that is worth twenty is written as twenty. -/
theorem int_text_twenty :
    WritesInteger "0.2E+2".toList 20 ∧ int (.text "0.2E+2".toList) = .ok "20".toList := by
  let power : IntegerSpelling := ⟨.plus, ['2'], List.all_eq_true.mp rfl, by decide⟩
  let s : DecimalSpelling := ⟨.none, ['0'], some ['2'], .some true power,
    List.all_eq_true.mp rfl, List.all_eq_true.mp rfl, by decide⟩
  have hvalue : s.value = (20 : Int) := by
    show (((0 : Nat) : ℚ) + (2 : Nat) / 10 ^ 1) * 10 ^ (2 : Int) = (20 : Int)
    norm_num
  have hwrites := (int_text "0.2E+2".toList).2.2.2.2 s 20 rfl hvalue (by decide)
  exact ⟨hwrites, ((int_text _).1 _).mpr ⟨20, hwrites, rfl⟩⟩

/-- A literal between two doubles is changed: its exact value is an integer in range, but another
integer is written. -/
theorem int_text_rounds :
    ∃ s : DecimalSpelling, s.text = "9007199254740993.0".toList ∧
      s.value = (9007199254740993 : Int) ∧ FitsInt64 9007199254740993 ∧
      int (.text s.text) = .ok (signedNumeral 9007199254740992) ∧
      signedNumeral 9007199254740992 ≠ signedNumeral 9007199254740993 := by
  let s : DecimalSpelling := ⟨.none, "9007199254740993".toList, some ['0'], .none,
    List.all_eq_true.mp rfl, List.all_eq_true.mp rfl, by decide⟩
  have hread : wholeNumber? s.text = some 9007199254740992 := by decide +kernel
  refine ⟨s, rfl, ?_, by decide, ?_, by decide +kernel⟩
  · show (((9007199254740993 : Nat) : ℚ) + (0 : Nat) / 10 ^ 1) * 10 ^ (0 : Int) =
      (9007199254740993 : Int)
    norm_num
  · rw [int_text_eq, hread]

end Conversion

end QueryTemplate
