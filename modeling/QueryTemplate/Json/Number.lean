import QueryTemplate.Json.Value
import QueryTemplate.Number.Numeral
import QueryTemplate.Text.Reader

/-!
# JSON numbers

A number that is written as an integer and fits in 64 bits is one; minus zero is not an integer but
the double of that sign.  Every other number is a double.

A double is read in two steps, each of which rounds.  First the digits are gathered into a
**significand** of 64 bits.  A digit of the whole part that no longer fits, and every digit of that
part after it, only counts toward the exponent; a digit of the fraction that no longer fits, and
every one after it, is ignored (`Literal.parts`).  Then the significand is scaled by one power of
ten (`scaledUp?`, `scaledDown?`).  A number for which this gives no finite double is refused.
-/

namespace QueryTemplate.Json

/-- A number as it is written. -/
structure Literal where
  /-- Whether it has a minus sign. -/
  negative : Bool
  /-- The digits before the point. -/
  whole : Text
  /-- The digits after the point, if there is one. -/
  fraction : Option Text
  /-- The exponent, if there is one. -/
  exponent : Option Int

namespace Literal

/-! ## The grammar -/

/-- The digits before the point: a single zero, or digits of which the first is not a zero. -/
def readWhole : Reader Text := do
  let digits ← Reader.takeWhile1 Char.isDigit
  if digits.head? = some '0' ∧ digits ≠ ['0'] then failure else return digits

/-- A point and the digits after it, at least one. -/
def readFraction : Reader (Option Text) := do
  if ← Reader.charIfNext '.' then some <$> Reader.takeWhile1 Char.isDigit else return none

/-- The exponent: the letter, an optional sign, and at least one digit. -/
def readExponent : Reader (Option Int) := do
  match ← Reader.peek with
  | some 'e' | some 'E' =>
    let _ ← Reader.next
    let minus ← Reader.charIfNext '-'
    let _ ← if minus then pure false else Reader.charIfNext '+'
    let digits ← Reader.takeWhile1 Char.isDigit
    return some (signed minus (digitsValue digits))
  | _ => return none

/-- A number. -/
def read : Reader Literal := do
  let negative ← Reader.charIfNext '-'
  return ⟨negative, ← readWhole, ← readFraction, ← readExponent⟩

/-! ## Doubles -/

/-- Appends digits to a number of 64 bits, as long as they fit.  The answer is the number and the
digits that were left over. -/
def absorb : Nat → Text → Nat × Text
  | n, [] => (n, [])
  | n, c :: rest =>
    let extended := 10 * n + digitsValue [c]
    if extended < UInt64.size then absorb extended rest else (n, c :: rest)

/-- The significand of a number, and the power of ten that it is to be scaled by. -/
def parts (l : Literal) : Nat × Int :=
  let fraction := l.fraction.getD []
  let (significand, counted) := absorb 0 l.whole
  let (significand, ignored) := absorb significand fraction
  (significand, counted.length - (fraction.length - ignored.length : Nat) + l.exponent.getD 0)

end Literal

/-- The largest exponent of a power of ten that is a finite double. -/
def largestPower : Nat := 308

/-- The double nearest to a power of ten. -/
def powerOfTen? (k : Nat) : Option Binary64.Finite :=
  (Binary64.ofInt (Nat.pow 10 k)).finite?

/-- A number multiplied by a power of ten.  There is no answer if that leaves the finite
doubles. -/
def scaledUp? (x : Binary64.Finite) (k : Nat) : Option Binary64.Finite :=
  if k ≤ largestPower then do (x.times (← powerOfTen? k)).finite?
  else if x.rank = 0 then some x
  else none

/-- A number divided by a power of ten; by the largest one first, as often as needed. -/
def scaledDown? (x : Binary64.Finite) (k : Nat) : Option Binary64.Finite :=
  if k ≤ largestPower then do (x.over (← powerOfTen? k)).finite?
  else if x.rank = 0 then some x
  else do scaledDown? (← (x.over (← powerOfTen? largestPower)).finite?) (k - largestPower)
termination_by k
decreasing_by simp only [largestPower] at *; omega

/-- A significand scaled by a power of ten. -/
def scaled? (significand : Nat) (exponent : Int) : Option Binary64.Finite := do
  let x ← (Binary64.ofInt significand).finite?
  match exponent with
  | .ofNat k => scaledUp? x k
  | .negSucc k => scaledDown? x (k + 1)

namespace Literal

/-- The double that a number is read as. -/
def toFloat? (l : Literal) : Option Binary64.Finite :=
  (scaled? l.parts.1 l.parts.2).map fun x => if l.negative then x.negate else x

/-- The integer that a number is read as: it is written as one, it fits, and it is not minus
zero. -/
def toInt? (l : Literal) : Option Int64 :=
  let i := signed l.negative (digitsValue l.whole)
  if l.fraction = none ∧ l.exponent = none ∧ FitsInt64 i ∧ ¬(l.negative ∧ i = 0) then
    some (Int64.ofInt i)
  else none

/-- **The value of a number.** -/
def toJson? (l : Literal) : Option Json :=
  match l.toInt? with
  | some i => some (.int i)
  | none => l.toFloat?.map .float

end Literal

end QueryTemplate.Json
