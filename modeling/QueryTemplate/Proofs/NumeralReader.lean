import Mathlib.Data.List.TakeWhile
import Mathlib.Tactic.Ring
import QueryTemplate.Proofs.NearestDouble
import QueryTemplate.Proofs.PlainText

/-!
# Reading numbers back

Integers and doubles are written so that they can be read again.  The numeral of an integer denotes
the integer (`readInteger?_signedNumeral`).  The literal of a double has a whole part, a point and a
fraction (`Decimal.positional`), and its value is exactly that of the shortest decimal that was
chosen for the double (`Binary64.Finite.literal_eq_positional`); zeros that were filled in or left
out make no difference.  The shortest decimal is rounded to the double by construction
(`Binary64.Finite.nearestRank_shortest`), whether one of at most seventeen digits was found or the
exact expansion stands in.  So reading the literal gives the double again, bit for bit
(`Binary64.Finite.readFinite?_literal`).
-/

namespace QueryTemplate

/-! ## Digits -/

theorem digitsValue_append (s t : Text) :
    digitsValue (s ++ t) = digitsValue s * 10 ^ t.length + digitsValue t := by
  rw [digitsValue, Nat.ofDigitChars_append, Nat.ofDigitChars_eq_ofDigitChars_zero, Nat.mul_comm]
  rfl

theorem digitsValue_zeros (n : Nat) : digitsValue (List.replicate n '0') = 0 := by
  rw [digitsValue, Nat.ofDigitChars_replicate_zero, Nat.mul_zero]

theorem ne_of_isDigit {c d : Char} (hc : c.isDigit = true) (hd : d.isDigit = false) : c ≠ d := by
  rintro rfl
  rw [hc] at hd
  cases hd

/-- A text that begins with a digit begins with no sign. -/
theorem splitSign_cons_of_isDigit {c : Char} (h : c.isDigit = true) (rest : Text) :
    splitSign (c :: rest) = (false, c :: rest) := by
  have hminus := ne_of_isDigit (d := '-') h rfl
  have hplus := ne_of_isDigit (d := '+') h rfl
  simp [splitSign, hminus, hplus]

theorem splitSign_numeral_append (n : Nat) (rest : Text) :
    splitSign (numeral n ++ rest) = (false, numeral n ++ rest) := by
  cases hnumeral : numeral n with
  | nil => exact absurd hnumeral (numeral_ne_nil n)
  | cons c more =>
    have hdigit : c.isDigit = true :=
      isDigit_of_mem_numeral (n := n) (hnumeral ▸ List.mem_cons_self ..)
    exact splitSign_cons_of_isDigit hdigit _

/-- **The numeral of an integer denotes the integer.** -/
theorem readInteger?_signedNumeral (i : Int) : readInteger? (signedNumeral i) = some i := by
  unfold signedNumeral
  split
  · rename_i hnegative
    have hvalue : signed true i.natAbs = i := by
      rw [signed, if_pos rfl]
      omega
    rw [readInteger?, splitSign, readNatural?_numeral, Option.map_some, hvalue]
  · rename_i hnonnegative
    have hsign := splitSign_numeral_append i.natAbs []
    rw [List.append_nil] at hsign
    have hvalue : signed false i.natAbs = i := by
      rw [signed, if_neg Bool.false_ne_true]
      omega
    rw [readInteger?, hsign, readNatural?_numeral, Option.map_some, hvalue]

/-! ## Numbers with a point -/

namespace Decimal

/-- A number with a whole part, a point and a fraction. -/
def positional (negative : Bool) (whole : Nat) (fraction : Text) : Text :=
  (if negative then ['-'] else []) ++ (numeral whole ++ '.' :: fraction)

/-- The value of a whole part and a fraction. -/
def positionalValue (whole : Nat) (fraction : Text) : ℚ :=
  whole + digitsValue fraction / 10 ^ fraction.length

theorem splitSign_positional (negative : Bool) (whole : Nat) (fraction : Text) :
    splitSign (positional negative whole fraction) =
      (negative, numeral whole ++ '.' :: fraction) := by
  cases negative with
  | false => exact splitSign_numeral_append whole _
  | true => rfl

/-- Reading a number with a point: all its digits, scaled by the length of the fraction. -/
theorem read?_positional (negative : Bool) (whole : Nat) {fraction : Text}
    (h : ∀ c ∈ fraction, c.isDigit = true) :
    read? (positional negative whole fraction) =
      some ⟨negative, digitsValue (numeral whole ++ fraction), 0 - fraction.length⟩ := by
  have hwhole : ∀ c ∈ numeral whole, c.isDigit = true := fun _ hc => isDigit_of_mem_numeral hc
  have htake : (numeral whole ++ '.' :: fraction).takeWhile Char.isDigit = numeral whole := by
    rw [List.takeWhile_append_of_pos hwhole]
    exact List.append_nil _
  have hdrop : (numeral whole ++ '.' :: fraction).dropWhile Char.isDigit = '.' :: fraction := by
    rw [List.dropWhile_append_of_pos hwhole]
    rfl
  have hfraction : splitFraction ('.' :: fraction) = (fraction, []) := by
    rw [splitFraction, List.takeWhile_eq_self_iff.mpr h, List.dropWhile_eq_nil_iff.mpr h]
  have hne : numeral whole ++ fraction ≠ [] :=
    fun hnil => numeral_ne_nil whole (List.append_eq_nil_iff.mp hnil).1
  rw [read?, splitSign_positional, readUnsigned?]
  simp only [htake, hdrop, hfraction, if_neg hne]
  rfl

theorem magnitude_positional (whole : Nat) (fraction : Text) :
    magnitude (digitsValue (numeral whole ++ fraction)) (0 - fraction.length) =
      positionalValue whole fraction := by
  rw [magnitude, positionalValue, digitsValue_append, digitsValue_numeral, zero_sub, zpow_neg,
    zpow_natCast]
  push_cast
  field_simp

/-- A natural number of digits, counted from so many places behind the point. -/
theorem magnitude_sub (digits places weight : Nat) :
    magnitude digits ((places : Int) - weight) =
      (digits * Nat.pow 10 places : Nat) / (Nat.pow 10 weight : Nat) := by
  rw [magnitude, zpow_sub₀ (by norm_num), zpow_natCast, zpow_natCast]
  push_cast [Nat.pow_eq]
  rw [mul_div_assoc]

/-! ## Writing a decimal positionally -/

theorem toText_eq (x : Decimal) :
    x.toText = (if x.negative then ['-'] else []) ++ magnitudeText x.digits x.exponent := by
  unfold toText
  split <;> rfl

/-- Trimming takes zeros away at the end. -/
theorem exists_trimZeros_append (fraction : Text) :
    ∃ n, fraction = trimZeros fraction ++ List.replicate n '0' := by
  refine ⟨(fraction.reverse.takeWhile (· = '0')).length, ?_⟩
  have hzeros : fraction.reverse.takeWhile (· = '0') =
      List.replicate (fraction.reverse.takeWhile (· = '0')).length '0' :=
    List.eq_replicate_iff.mpr ⟨rfl, fun c hc => by simpa using List.mem_takeWhile_imp hc⟩
  rw [trimZeros, ← List.reverse_replicate, ← hzeros, ← List.reverse_append,
    List.takeWhile_append_dropWhile, List.reverse_reverse]

/-- The fraction of a number with so many places, before zeros at its end are trimmed. -/
def paddedFraction (places n : Nat) : Text :=
  List.replicate (places - (numeral n).length) '0' ++ numeral n

theorem length_paddedFraction {places n : Nat} (hplaces : 0 < places) (h : n < 10 ^ places) :
    (paddedFraction places n).length = places := by
  have hlength : (numeral n).length ≤ places :=
    (Nat.length_toDigits_le_iff (by decide) hplaces).mpr h
  rw [paddedFraction, List.length_append, List.length_replicate, Nat.sub_add_cancel hlength]

theorem digitsValue_paddedFraction (places n : Nat) :
    digitsValue (paddedFraction places n) = n := by
  rw [paddedFraction, digitsValue_append, digitsValue_zeros, digitsValue_numeral, Nat.zero_mul,
    Nat.zero_add]

theorem isDigit_of_mem_paddedFraction {places n : Nat} {c : Char}
    (h : c ∈ paddedFraction places n) : c.isDigit = true := by
  rcases List.mem_append.mp h with h | h
  · rw [List.eq_of_mem_replicate h]
    rfl
  · exact isDigit_of_mem_numeral h

theorem magnitude_negSucc (whole low places : Nat) :
    magnitude (whole * 10 ^ (places + 1) + low) (.negSucc places) =
      whole + low / 10 ^ (places + 1) := by
  rw [magnitude, zpow_negSucc]
  push_cast
  field_simp

theorem positionalValue_nil (whole : Nat) : positionalValue whole [] = whole := by
  simp [positionalValue, digitsValue]

/-- Zeros at the end of a fraction say nothing about its value. -/
theorem positionalValue_append_zeros (whole : Nat) (fraction : Text) (n : Nat) :
    positionalValue whole (fraction ++ List.replicate n '0') =
      positionalValue whole fraction := by
  rw [positionalValue, positionalValue, digitsValue_append, digitsValue_zeros, List.length_append,
    List.length_replicate, pow_add]
  push_cast
  field_simp
  ring

/-- **A decimal is written by its value**: as a numeral if it is whole, and otherwise with a point
and a fraction that has the value of what is not whole. -/
theorem magnitudeText_cases (digits : Nat) (exponent : Int) :
    (∃ whole, magnitudeText digits exponent = numeral whole ∧
      magnitude digits exponent = whole) ∨
    ∃ whole fraction, fraction ≠ [] ∧ (∀ c ∈ fraction, c.isDigit = true) ∧
      magnitudeText digits exponent = numeral whole ++ '.' :: fraction ∧
      magnitude digits exponent = positionalValue whole fraction := by
  cases exponent with
  | ofNat zeros =>
    refine .inl ⟨digits * 10 ^ zeros, rfl, ?_⟩
    rw [magnitude, Int.ofNat_eq_natCast, zpow_natCast]
    push_cast
    rfl
  | negSucc places =>
    let scale := 10 ^ (places + 1)
    let padded := paddedFraction (places + 1) (digits % scale)
    obtain ⟨n, hpadded⟩ := exists_trimZeros_append padded
    have hlength : padded.length = places + 1 :=
      length_paddedFraction (Nat.succ_pos places) (Nat.mod_lt _ (Nat.pow_pos (by decide)))
    have hvalue : magnitude digits (.negSucc places) =
        positionalValue (digits / scale) (trimZeros padded) := by
      calc magnitude digits (.negSucc places)
          = magnitude (digits / scale * scale + digits % scale) (.negSucc places) := by
            rw [Nat.div_add_mod']
        _ = positionalValue (digits / scale) padded := by
            rw [magnitude_negSucc, positionalValue, digitsValue_paddedFraction, hlength]
        _ = positionalValue (digits / scale) (trimZeros padded) := by
            conv_lhs => rw [hpadded]
            exact positionalValue_append_zeros ..
    by_cases hnil : trimZeros padded = []
    · refine .inl ⟨digits / scale, if_pos hnil, ?_⟩
      rw [hvalue, hnil, positionalValue_nil]
    · refine .inr ⟨digits / scale, trimZeros padded, hnil, fun c hc => ?_, if_neg hnil, hvalue⟩
      exact isDigit_of_mem_paddedFraction (mem_of_mem_trimZeros hc)

end Decimal

/-! ## Doubles -/

namespace Binary64.Finite

/-- The exact expansion of a magnitude is rounded to it. -/
theorem readsAs_expansion (rank : Nat) : ReadsAs rank (expansion rank) := by
  have hten : Nat.pow 10 1074 = unitsPerOne * Nat.pow 5 1074 := by decide +kernel
  have hfive : 0 < Nat.pow 5 1074 := by decide +kernel
  rw [ReadsAs, expansion, hten, nearestRank_mul_right _ _ hfive, nearestRank_unitsOfRank]

/-- A neighbour on a grid is only taken if it reads back. -/
theorem readsAs_of_neighbour? {rank grid digits : Nat} (h : neighbour? rank grid = some digits) :
    ReadsAs rank (digits * grid) := by
  unfold neighbour? at h
  simp only at h
  split_ifs at h with hbelow habove
  · cases h
    exact of_decide_eq_true (Bool.and_eq_true_iff.mp hbelow).1
  · cases h
    exact of_decide_eq_true habove

/-- What is found for a magnitude: a multiple of the least weight of a digit that is rounded to it,
either on some grid or as the exact expansion. -/
theorem exists_shortestMagnitude (rank : Nat) :
    ∃ digits places : Nat, ReadsAs rank (digits * Nat.pow 10 places) ∧
      shortestMagnitude rank = (digits, (places : Int) - 1074) := by
  unfold shortestMagnitude
  simp only
  generalize hfound : List.findSome? _ (List.range' 1 17) = found
  cases found with
  | none =>
    refine ⟨expansion rank, 0, ?_, rfl⟩
    rw [show Nat.pow 10 0 = 1 from rfl, Nat.mul_one]
    exact readsAs_expansion rank
  | some answer =>
    obtain ⟨count, -, hcount⟩ := List.exists_of_findSome?_eq_some hfound
    obtain ⟨digits, hneighbour, rfl⟩ := Option.map_eq_some_iff.mp hcount
    exact ⟨digits, _, readsAs_of_neighbour? hneighbour, rfl⟩

/-- The shortest decimal has the sign of the double. -/
theorem negative_shortest (x : Binary64.Finite) : x.shortest.negative = x.negative := by
  rw [shortest_eq]

/-- **The shortest decimal is rounded to the double that it was chosen for.** -/
theorem nearestRank_shortest (x : Binary64.Finite) :
    ∃ a b : Nat, 0 < b ∧ nearestRank a b = x.rank ∧
      Decimal.magnitude x.shortest.digits x.shortest.exponent = a / b := by
  obtain ⟨digits, places, hreads, hshortest⟩ := exists_shortestMagnitude x.rank
  have hdecimal : ∀ weight : Nat,
      nearestRank (digits * Nat.pow 10 places) (Nat.pow 10 weight) = x.rank →
      ∃ a b : Nat, 0 < b ∧ nearestRank a b = x.rank ∧
        Decimal.magnitude digits ((places : Int) - weight) = a / b := fun weight hrank =>
    ⟨_, _, Nat.pow_pos (by decide), hrank, Decimal.magnitude_sub digits places weight⟩
  unfold ReadsAs at hreads
  have hfound := hdecimal _ hreads
  rwa [shortest_eq, hshortest]

/-- A decimal with the sign of a double and the value of its shortest decimal is rounded to the
double. -/
theorem nearest_eq_of_magnitude_eq (x : Binary64.Finite) {y : Decimal}
    (hsign : y.negative = x.negative)
    (hvalue : Decimal.magnitude y.digits y.exponent =
      Decimal.magnitude x.shortest.digits x.shortest.exponent) :
    y.nearest = .finite x := by
  obtain ⟨a, b, hb, hrank, hshortest⟩ := x.nearestRank_shortest
  rw [Decimal.nearest_congr hb (hvalue.trans hshortest), hsign, ofRatio, ofRank, hrank,
    dif_pos x.bounded]

theorem toText_eq_append (x : Binary64.Finite) :
    x.toText = (if x.negative then ['-'] else []) ++
      Decimal.magnitudeText x.shortest.digits x.shortest.exponent := by
  rw [toText, Decimal.toText_eq, negative_shortest]

/-- A whole number has no point, so a fraction of one zero is added to it. -/
theorem literal_of_magnitudeText_eq_numeral {x : Binary64.Finite} {whole : Nat}
    (h : Decimal.magnitudeText x.shortest.digits x.shortest.exponent = numeral whole) :
    x.literal = Decimal.positional x.negative whole ['0'] := by
  have htext := x.toText_eq_append
  rw [h] at htext
  have hno : '.' ∉ x.toText := by
    rw [htext, List.mem_append]
    rintro (hmem | hmem)
    · cases hnegative : x.negative <;> simp [hnegative] at hmem
    · exact absurd (isDigit_of_mem_numeral hmem) (by decide)
  rw [literal, if_neg (by simpa using hno), htext, Decimal.positional, List.append_assoc]

/-- **The literal of a double** has a point, digits on both sides of it, and the value of the
shortest decimal. -/
theorem literal_eq_positional (x : Binary64.Finite) :
    ∃ whole fraction, fraction ≠ [] ∧ (∀ c ∈ fraction, c.isDigit = true) ∧
      x.literal = Decimal.positional x.negative whole fraction ∧
      Decimal.positionalValue whole fraction =
        Decimal.magnitude x.shortest.digits x.shortest.exponent := by
  rcases Decimal.magnitudeText_cases x.shortest.digits x.shortest.exponent with
    ⟨whole, hwhole, hvalue⟩ | ⟨whole, fraction, hne, hdigits, hpoint, hvalue⟩
  · refine ⟨whole, ['0'], List.cons_ne_nil _ _, List.forall_mem_singleton.mpr rfl,
      literal_of_magnitudeText_eq_numeral hwhole, ?_⟩
    rw [hvalue, ← List.nil_append ['0'], ← List.replicate_one,
      Decimal.positionalValue_append_zeros, Decimal.positionalValue_nil]
  · have htext := x.toText_eq_append
    rw [hpoint] at htext
    have hyes : '.' ∈ x.toText := by
      rw [htext]
      simp
    refine ⟨whole, fraction, hne, hdigits, ?_, hvalue.symm⟩
    rw [literal, if_pos (by simpa using hyes), htext, Decimal.positional]

/-- There is a point in the literal of a double. -/
theorem point_mem_literal (x : Binary64.Finite) : '.' ∈ x.literal := by
  obtain ⟨whole, fraction, -, -, hliteral, -⟩ := x.literal_eq_positional
  rw [hliteral, Decimal.positional]
  simp

/-- **A double is read back from its literal**, bit for bit. -/
theorem readFinite?_literal (x : Binary64.Finite) : Decimal.readFinite? x.literal = some x := by
  obtain ⟨whole, fraction, -, hdigits, hliteral, hvalue⟩ := x.literal_eq_positional
  rw [Decimal.readFinite?, hliteral, Decimal.read?_positional _ _ hdigits, Option.bind_some,
    x.nearest_eq_of_magnitude_eq rfl ((Decimal.magnitude_positional ..).trans hvalue)]
  rfl

end Binary64.Finite

end QueryTemplate
