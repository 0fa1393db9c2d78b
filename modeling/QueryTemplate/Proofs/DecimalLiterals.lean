import QueryTemplate.Proofs.NumeralReader

/-!
# Decimal literals and what they say

A decimal literal is a sign, digits with at most one point among or beside them, and an exponent;
sign, point and exponent may be missing.  A `DecimalSpelling` is such a literal in parts.  It knows
its text and its exact value, which is a rational number.  An `IntegerSpelling` is a sign and digits
alone.

The readers take just these texts (`readInteger?_eq_some_iff`, `Decimal.read?_eq_some_iff`), and what
they give has the value of the spelling (`DecimalSpelling.value_decimal`).  So a text has at most one
value, however many spellings.
-/

namespace QueryTemplate

/-! ## Spellings -/

/-- The sign in front of a number. -/
inductive SignSpelling where
  | none | plus | minus

namespace SignSpelling

/-- The text of a sign. -/
def text : SignSpelling → Text
  | none => []
  | plus => ['+']
  | minus => ['-']

/-- Whether a sign is a minus. -/
def negative : SignSpelling → Bool
  | minus => true
  | _ => false

end SignSpelling

/-- **An integer literal**: a sign and digits, at least one. -/
structure IntegerSpelling where
  /-- The sign. -/
  sign : SignSpelling
  /-- The digits. -/
  digits : Text
  /-- All of them are digits. -/
  isDigit : ∀ c ∈ digits, c.isDigit = true
  /-- There is one. -/
  nonempty : digits ≠ []

namespace IntegerSpelling

/-- The text of an integer literal. -/
def text (s : IntegerSpelling) : Text :=
  s.sign.text ++ s.digits

/-- The integer that a literal says. -/
def value (s : IntegerSpelling) : Int :=
  signed s.sign.negative (digitsValue s.digits)

end IntegerSpelling

/-- **The exponent of a decimal literal**: there is none, or a letter and an integer literal. -/
inductive ExponentSpelling where
  | none
  | some (capital : Bool) (power : IntegerSpelling)

namespace ExponentSpelling

/-- The text of an exponent. -/
def text : ExponentSpelling → Text
  | none => []
  | some capital power => (if capital then 'E' else 'e') :: power.text

/-- The power of ten that an exponent says. -/
def value : ExponentSpelling → Int
  | none => 0
  | some _ power => power.value

end ExponentSpelling

/-- **A decimal literal**: a sign, digits, perhaps a point with digits behind it, and an exponent.
There is a digit before the point or behind it. -/
structure DecimalSpelling where
  /-- The sign. -/
  sign : SignSpelling
  /-- The digits before the point. -/
  whole : Text
  /-- The digits behind the point, if there is a point. -/
  fraction? : Option Text
  /-- The exponent. -/
  exponent : ExponentSpelling
  /-- There are only digits before the point. -/
  whole_isDigit : ∀ c ∈ whole, c.isDigit = true
  /-- There are only digits behind the point. -/
  fraction_isDigit : ∀ c ∈ fraction?.getD [], c.isDigit = true
  /-- There is a digit. -/
  nonempty : whole ++ fraction?.getD [] ≠ []

/-- The point with the digits behind it. -/
def pointText : Option Text → Text
  | none => []
  | some fraction => '.' :: fraction

namespace DecimalSpelling
variable (s : DecimalSpelling)

/-- The digits behind the point. -/
def fraction : Text :=
  s.fraction?.getD []

/-- The text of a decimal literal. -/
def text : Text :=
  s.sign.text ++ (s.whole ++ (pointText s.fraction? ++ s.exponent.text))

/-- **The exact value of a decimal literal.** -/
def value : ℚ :=
  signedValue s.sign.negative
    ((digitsValue s.whole + digitsValue s.fraction / 10 ^ s.fraction.length) *
      10 ^ s.exponent.value)

/-- The decimal number that a literal is read as. -/
def decimal : Decimal :=
  ⟨s.sign.negative, digitsValue (s.whole ++ s.fraction), s.exponent.value - s.fraction.length⟩

end DecimalSpelling

/-- The exact value of a decimal number. -/
def Decimal.value (x : Decimal) : ℚ :=
  signedValue x.negative (magnitude x.digits x.exponent)

/-- A decimal literal is read as a decimal number of its value. -/
theorem DecimalSpelling.value_decimal (s : DecimalSpelling) : s.decimal.value = s.value := by
  have hten : (10 : ℚ) ^ s.fraction.length ≠ 0 := pow_ne_zero _ (by norm_num)
  have hmagnitude : Decimal.magnitude s.decimal.digits s.decimal.exponent =
      (digitsValue s.whole + digitsValue s.fraction / 10 ^ s.fraction.length) *
        10 ^ s.exponent.value := by
    rw [Decimal.magnitude, decimal, digitsValue_append, zpow_sub₀ (by norm_num), zpow_natCast]
    push_cast
    field_simp
  rw [Decimal.value, hmagnitude]
  rfl

/-! ## Readers -/

/-- A text is cut behind the characters of some kind where the next one is of another kind. -/
theorem takeWhile_dropWhile_append {α : Type} {p : α → Bool} {before after : List α}
    (hbefore : ∀ a ∈ before, p a = true) (hafter : ∀ a, after.head? = some a → p a = false) :
    (before ++ after).takeWhile p = before ∧ (before ++ after).dropWhile p = after := by
  rw [List.takeWhile_append_of_pos hbefore, List.dropWhile_append_of_pos hbefore]
  rcases after with _ | ⟨a, rest⟩
  · exact ⟨List.append_nil _, rfl⟩
  · have ha : ¬ p a = true := by
      rw [hafter a rfl]
      exact Bool.false_ne_true
    rw [List.takeWhile_cons_of_neg ha, List.dropWhile_cons_of_neg ha, List.append_nil]
    exact ⟨rfl, rfl⟩

/-- A sign is split off. -/
theorem splitSign_eq (t : Text) :
    ∃ sign : SignSpelling, t = sign.text ++ (splitSign t).2 ∧ (splitSign t).1 = sign.negative := by
  unfold splitSign
  split
  · exact ⟨.minus, rfl, rfl⟩
  · exact ⟨.plus, rfl, rfl⟩
  · exact ⟨.none, rfl, rfl⟩

theorem splitSign_text_append (sign : SignSpelling) {rest : Text}
    (hrest : ∀ c, rest.head? = some c → c ≠ '-' ∧ c ≠ '+') :
    splitSign (sign.text ++ rest) = (sign.negative, rest) := by
  cases sign with
  | none =>
    rcases rest with _ | ⟨c, rest⟩
    · rfl
    · obtain ⟨hminus, hplus⟩ := hrest c rfl
      simp [SignSpelling.text, SignSpelling.negative, splitSign, hminus, hplus]
  | plus => rfl
  | minus => rfl

theorem head?_ne_sign_of_isDigit {c : Char} (h : c.isDigit = true) : c ≠ '-' ∧ c ≠ '+' :=
  ⟨ne_of_isDigit h rfl, ne_of_isDigit h rfl⟩

/-- **Integers are read from integer literals.** -/
theorem readInteger?_eq_some_iff {t : Text} {i : Int} :
    readInteger? t = some i ↔ ∃ s : IntegerSpelling, s.text = t ∧ s.value = i := by
  constructor
  · intro h
    obtain ⟨n, hn, rfl⟩ := Option.map_eq_some_iff.mp h
    obtain ⟨hne, hdigits, rfl⟩ := readNatural?_eq_some_iff.mp hn
    obtain ⟨sign, htext, hnegative⟩ := splitSign_eq t
    refine ⟨⟨sign, (splitSign t).2, hdigits, hne⟩, htext.symm, ?_⟩
    rw [IntegerSpelling.value, hnegative]
  · rintro ⟨s, rfl, rfl⟩
    have hhead : ∀ c, s.digits.head? = some c → c ≠ '-' ∧ c ≠ '+' := fun c hc =>
      head?_ne_sign_of_isDigit (s.isDigit c (List.mem_of_mem_head? hc))
    rw [readInteger?, IntegerSpelling.text, splitSign_text_append s.sign hhead,
      readNatural?_eq_some_iff.mpr ⟨s.nonempty, s.isDigit, rfl⟩]
    rfl

namespace Decimal

/-- Exponents are read from exponents. -/
theorem readExponent?_eq_some_iff {t : Text} {i : Int} :
    readExponent? t = some i ↔ ∃ s : ExponentSpelling, s.text = t ∧ s.value = i := by
  constructor
  · intro h
    rcases t with _ | ⟨c, rest⟩
    · cases h
      exact ⟨.none, rfl, rfl⟩
    · rw [readExponent?] at h
      split at h
      · rename_i hletter
        obtain ⟨power, rfl, rfl⟩ := readInteger?_eq_some_iff.mp h
        rcases hletter with rfl | rfl
        · exact ⟨.some false power, rfl, rfl⟩
        · exact ⟨.some true power, rfl, rfl⟩
      · cases h
  · rintro ⟨_ | ⟨capital, power⟩, rfl, rfl⟩
    · rfl
    · have hletter : ∀ c : Char, c = 'e' ∨ c = 'E' →
          readExponent? (c :: power.text) = some power.value := by
        intro c hc
        rw [readExponent?, if_pos hc]
        exact readInteger?_eq_some_iff.mpr ⟨power, rfl, rfl⟩
      cases capital with
      | false => exact hletter 'e' (.inl rfl)
      | true => exact hletter 'E' (.inr rfl)

/-- What comes behind digits is a point, an exponent or nothing. -/
theorem head?_exponent_text {s : ExponentSpelling} {c : Char} (h : s.text.head? = some c) :
    c = 'e' ∨ c = 'E' := by
  rcases s with _ | ⟨_ | _, power⟩
  · cases h
  · cases h
    exact .inl rfl
  · cases h
    exact .inr rfl

/-- The digits behind a point, and the exponent, are told apart. -/
theorem splitFraction_pointText_append {fraction? : Option Text} {exponent : ExponentSpelling}
    (hdigits : ∀ c ∈ fraction?.getD [], c.isDigit = true) :
    splitFraction (pointText fraction? ++ exponent.text) =
      (fraction?.getD [], exponent.text) := by
  have hexponent : ∀ c, exponent.text.head? = some c → c.isDigit = false := by
    intro c hc
    rcases head?_exponent_text hc with rfl | rfl <;> rfl
  rcases fraction? with _ | fraction
  · show splitFraction exponent.text = _
    rcases htext : exponent.text with _ | ⟨c, rest⟩
    · rfl
    · have hne : c ≠ '.' := by
        rcases head?_exponent_text (congrArg List.head? htext) with rfl | rfl <;> decide
      simp [splitFraction, hne]
  · obtain ⟨htake, hdrop⟩ := takeWhile_dropWhile_append hdigits hexponent
    show splitFraction ('.' :: (fraction ++ exponent.text)) = _
    rw [splitFraction]
    exact Prod.ext htake hdrop

theorem splitFraction_eq (t : Text) :
    ∃ fraction? : Option Text, t = pointText fraction? ++ (splitFraction t).2 ∧
      (splitFraction t).1 = fraction?.getD [] ∧
      ∀ c ∈ fraction?.getD [], c.isDigit = true := by
  unfold splitFraction
  split
  · rename_i rest
    refine ⟨some (rest.takeWhile Char.isDigit), ?_, rfl, fun c hc => List.mem_takeWhile_imp hc⟩
    exact congrArg ('.' :: ·) List.takeWhile_append_dropWhile.symm
  · exact ⟨none, rfl, rfl, nofun⟩

/-- What comes behind the digits before the point is no digit. -/
theorem head?_pointText_append {fraction? : Option Text} {exponent : ExponentSpelling} {c : Char}
    (h : (pointText fraction? ++ exponent.text).head? = some c) : c = '.' ∨ c = 'e' ∨ c = 'E' := by
  rcases fraction? with _ | fraction
  · exact .inr (head?_exponent_text h)
  · cases h
    exact .inl rfl

/-- **A decimal literal is read as what it says.** -/
theorem read?_text (s : DecimalSpelling) : read? s.text = some s.decimal := by
  let behind := pointText s.fraction? ++ s.exponent.text
  have hbehind : ∀ c, behind.head? = some c → c.isDigit = false := by
    intro c hc
    rcases head?_pointText_append hc with rfl | rfl | rfl <;> rfl
  -- the first character behind the sign is a digit or the point
  have hhead : ∀ c, (s.whole ++ behind).head? = some c → c ≠ '-' ∧ c ≠ '+' := by
    intro c hc
    rcases hwhole : s.whole with _ | ⟨d, rest⟩
    · rw [hwhole] at hc
      rcases head?_pointText_append hc with rfl | rfl | rfl <;> decide
    · rw [hwhole] at hc
      cases hc
      exact head?_ne_sign_of_isDigit (s.whole_isDigit _ (hwhole ▸ List.mem_cons_self ..))
  obtain ⟨htake, hdrop⟩ := takeWhile_dropWhile_append s.whole_isDigit hbehind
  have hsign : splitSign s.text = (s.sign.negative, s.whole ++ behind) :=
    splitSign_text_append s.sign hhead
  have hexponent : readExponent? s.exponent.text = some s.exponent.value :=
    readExponent?_eq_some_iff.mpr ⟨s.exponent, rfl, rfl⟩
  rw [read?, hsign, readUnsigned?]
  dsimp only
  rw [htake, hdrop, splitFraction_pointText_append s.fraction_isDigit]
  dsimp only
  rw [if_neg s.nonempty, hexponent]
  rfl

/-- **Decimal numbers are read from decimal literals.** -/
theorem read?_eq_some_iff {t : Text} {x : Decimal} :
    read? t = some x ↔ ∃ s : DecimalSpelling, s.text = t ∧ s.decimal = x := by
  constructor
  · intro h
    obtain ⟨sign, hsign, hnegative⟩ := splitSign_eq t
    obtain ⟨fraction?, hpoint, hfraction, hdigits⟩ :=
      splitFraction_eq ((splitSign t).2.dropWhile Char.isDigit)
    rw [read?, readUnsigned?] at h
    dsimp only at h
    split at h
    · cases h
    · rename_i hne
      obtain ⟨exponent, hexponent, rfl⟩ := Option.map_eq_some_iff.mp h
      obtain ⟨e, htext, rfl⟩ := readExponent?_eq_some_iff.mp hexponent
      rw [hfraction] at hne
      refine ⟨⟨sign, (splitSign t).2.takeWhile Char.isDigit, fraction?, e,
        fun c hc => List.mem_takeWhile_imp hc, hdigits, hne⟩, ?_, ?_⟩
      · show sign.text ++ ((splitSign t).2.takeWhile Char.isDigit ++
          (pointText fraction? ++ e.text)) = t
        rw [htext, ← hpoint, List.takeWhile_append_dropWhile, ← hsign]
      · rw [hnegative, hfraction]
        rfl
  · rintro ⟨s, rfl, rfl⟩
    exact read?_text s

end Decimal

end QueryTemplate
