import QueryTemplate.Number.Binary64
import QueryTemplate.Number.Numeral

/-!
# Decimal numbers

A `Decimal` is a signed natural number times a power of ten.  It is what a decimal literal says
exactly, before any rounding, and what a shortest representation is made of.

* `Decimal.read?` reads a literal: an optional sign, digits with at most one point among or beside
  them, and an optional exponent.  At least one digit must stand before the exponent.
* `Decimal.toText` writes a decimal positionally, never with an exponent: zeros are filled in up to
  the point, and no zero is written at the end of a fraction.
* `Decimal.nearest` is the double nearest to a decimal.  Very large and very small exponents are
  decided by their size alone, so that no huge power of ten is ever computed.
-/

namespace QueryTemplate

/-- A signed decimal number, `± digits · 10 ^ exponent`. -/
structure Decimal where
  /-- Whether the sign is a minus. -/
  negative : Bool
  /-- All the digits, read as one natural number. -/
  digits : Nat
  /-- The power of ten that the digits are scaled by. -/
  exponent : Int
  deriving DecidableEq

namespace Decimal

/-! ## Reading -/

/-- The exponent part of a literal: nothing, or `e` or `E`, an optional sign and digits. -/
def readExponent? : Text → Option Int
  | [] => some 0
  | c :: rest => if c = 'e' ∨ c = 'E' then readInteger? rest else none

/-- The digits after a decimal point, and what follows them.  Without a point there are none. -/
def splitFraction : Text → Text × Text
  | '.' :: rest => (rest.takeWhile Char.isDigit, rest.dropWhile Char.isDigit)
  | rest => ([], rest)

/-- An unsigned literal, given the sign that stood before it. -/
def readUnsigned? (negative : Bool) (t : Text) : Option Decimal :=
  let whole := t.takeWhile Char.isDigit
  let (fraction, rest) := splitFraction (t.dropWhile Char.isDigit)
  if whole ++ fraction = [] then none
  else (readExponent? rest).map fun exponent =>
    ⟨negative, digitsValue (whole ++ fraction), exponent - fraction.length⟩

/-- The decimal number that a literal writes. -/
def read? (t : Text) : Option Decimal :=
  readUnsigned? (splitSign t).1 (splitSign t).2

/-! ## Writing -/

/-- A fraction without the zeros at its end. -/
def trimZeros (fraction : Text) : Text :=
  (fraction.reverse.dropWhile (· = '0')).reverse

/-- The magnitude written positionally: all its digits before the point if it is whole, otherwise
as many after the point as it needs. -/
def magnitudeText (digits : Nat) (exponent : Int) : Text :=
  match exponent with
  | .ofNat zeros => numeral (digits * Nat.pow 10 zeros)
  | .negSucc places =>
    let scale := Nat.pow 10 (places + 1)
    let low := numeral (digits % scale)
    let fraction := trimZeros (List.replicate (places + 1 - low.length) '0' ++ low)
    if fraction = [] then numeral (digits / scale)
    else numeral (digits / scale) ++ '.' :: fraction

/-- The number written positionally, with a minus sign if it has one. -/
def toText (x : Decimal) : Text :=
  if x.negative then '-' :: magnitudeText x.digits x.exponent
  else magnitudeText x.digits x.exponent

/-! ## Rounding to double precision -/

/-- The exact quotient that a magnitude `digits · 10 ^ exponent` is. -/
def ratio (digits : Nat) (exponent : Int) : Nat × Nat :=
  match exponent with
  | .ofNat k => (digits * Nat.pow 10 k, 1)
  | .negSucc k => (digits, Nat.pow 10 (k + 1))

/-- A power of ten that no finite double reaches, and whose inverse rounds to zero. -/
def outOfReach : Int := 400

/-- The double nearest to a decimal number.  The count of digits and the exponent together tell
the order of magnitude; past `10 ^ 400` the answer is an infinity and below `10 ^ -400` a zero. -/
def nearest (x : Decimal) : Binary64 :=
  let order := (numeral x.digits).length + x.exponent
  if x.digits = 0 then .finite (.zero x.negative)
  else if outOfReach < order then .infinite x.negative
  else if order < -outOfReach then .finite (.zero x.negative)
  else .ofRatio x.negative (ratio x.digits x.exponent).1 (ratio x.digits x.exponent).2

/-- The finite double nearest to the number that a literal writes.  There is none when the text is
no literal, and none when the number lies beyond every finite double. -/
def readFinite? (t : Text) : Option Binary64.Finite :=
  (read? t).bind fun x => x.nearest.finite?

end Decimal

end QueryTemplate
