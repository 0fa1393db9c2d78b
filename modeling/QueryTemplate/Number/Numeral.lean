import QueryTemplate.Text

/-!
# Decimal numerals

`numeral` writes a natural number in base ten without leading zeros and `digitsValue` reads a
string of digits back, so `digitsValue (numeral n) = n` (`digitsValue_numeral`).  Integers add a
minus sign and nothing else (`signedNumeral`).

`readInteger?` reads an integer the way arguments may write one: an optional sign of either kind
and at least one ASCII digit, leading zeros allowed.
-/

namespace QueryTemplate

/-- The decimal numeral of a natural number, without leading zeros. -/
def numeral (n : Nat) : Text :=
  Nat.toDigits 10 n

/-- The number that a string of decimal digits denotes; the empty string denotes zero. -/
def digitsValue (digits : Text) : Nat :=
  Nat.ofDigitChars 10 digits 0

theorem digitsValue_numeral (n : Nat) : digitsValue (numeral n) = n :=
  Nat.ofDigitChars_ten_toDigits

theorem isDigit_of_mem_numeral {n : Nat} {c : Char} (h : c ∈ numeral n) : c.isDigit = true :=
  Nat.isDigit_of_mem_toDigits (by decide) (by decide) h

theorem not_mem_numeral {c : Char} (h : c.isDigit = false) (n : Nat) : c ∉ numeral n := by
  intro hmem
  rw [isDigit_of_mem_numeral hmem] at h
  cases h

theorem numeral_ne_nil (n : Nat) : numeral n ≠ [] :=
  Nat.toDigits_ne_nil

/-- The decimal numeral of an integer: a minus sign before the numeral of a negative one. -/
def signedNumeral (i : Int) : Text :=
  if i < 0 then '-' :: numeral i.natAbs else numeral i.natAbs

/-- The sign that may stand before a number, and what follows it.  The answer is `true` for a
minus sign; a plus sign and no sign mean the same. -/
def splitSign : Text → Bool × Text
  | '-' :: rest => (true, rest)
  | '+' :: rest => (false, rest)
  | rest => (false, rest)

/-- An integer with the given sign and magnitude. -/
def signed (negative : Bool) (magnitude : Nat) : Int :=
  if negative then -(magnitude : Int) else magnitude

/-- The integers of 64 bits. -/
def FitsInt64 (i : Int) : Prop :=
  Int64.minValue.toInt ≤ i ∧ i ≤ Int64.maxValue.toInt

instance (i : Int) : Decidable (FitsInt64 i) :=
  inferInstanceAs (Decidable (_ ∧ _))

theorem fitsInt64_toInt (i : Int64) : FitsInt64 i.toInt :=
  ⟨i.minValue_le_toInt, i.toInt_le⟩

/-- The number written by a text that consists of decimal digits, at least one. -/
def readNatural? (t : Text) : Option Nat :=
  if t ≠ [] ∧ t.all Char.isDigit then some (digitsValue t) else none

/-- The integer written by a text: an optional sign, then decimal digits, at least one. -/
def readInteger? (t : Text) : Option Int :=
  (readNatural? (splitSign t).2).map (signed (splitSign t).1)

theorem readNatural?_eq_some_iff {t : Text} {n : Nat} :
    readNatural? t = some n ↔ t ≠ [] ∧ (∀ c ∈ t, c.isDigit = true) ∧ digitsValue t = n := by
  rw [← List.all_eq_true, readNatural?]
  split
  · rename_i h
    rw [Option.some_inj]
    exact ⟨fun hn => ⟨h.1, h.2, hn⟩, fun hn => hn.2.2⟩
  · rename_i h
    exact ⟨fun hn => (by cases hn), fun hn => absurd ⟨hn.1, hn.2.1⟩ h⟩

theorem readNatural?_numeral (n : Nat) : readNatural? (numeral n) = some n := by
  have digits : (numeral n).all Char.isDigit = true :=
    List.all_eq_true.mpr fun _ h => isDigit_of_mem_numeral h
  rw [readNatural?, if_pos ⟨numeral_ne_nil n, digits⟩, digitsValue_numeral]

end QueryTemplate
