import QueryTemplate.Number.Rounding

/-!
# Double-precision numbers

A `Binary64` is a finite double, an infinity, or the undefined value.  The arithmetic here is
exact: no machine floating point takes part, so every rule below can be argued about.

**Finite doubles are counted.**  The magnitudes of the finite doubles, in order of size, are
numbered `0, 1, 2, …`; the number of a magnitude is its **rank**.  Ranks run through `2047` binades
of `2 ^ 52` numbers each (`rankLimit`), and the format is laid out so that the rank of a magnitude
is its bit pattern.  `unitsOfRank` gives the magnitude itself, as a multiple of the
smallest positive double `2 ^ -1074`.

**Rounding** (`nearestRank`) takes an exact quotient to the rank of the nearest magnitude, to the
even rank when two are equally near.  A rank at or past `rankLimit` means that the quotient is too
large for a finite double; `Binary64.ofRatio` then answers the infinity of its sign.

Doubles are compared by their ranks (`Binary64.below`, `Binary64.atMost`), and become integers in two
steps: the fractional part is cut off (`Binary64.wholePart`), and what remains is moved into the range
of 64 bits if it lies outside (`Binary64.toInt64`).
-/

namespace QueryTemplate

/-- The number of magnitudes in a binade. -/
def binadeSize : Nat := Nat.pow 2 52

/-- The number of finite magnitudes. -/
def rankLimit : Nat := 2047 * binadeSize

/-- The weight of the last digit of a magnitude, as a power of two: `0` in the two lowest binades,
then one more for each binade. -/
def rankExponent (rank : Nat) : Nat := rank / binadeSize - 1

/-- The magnitude of a given rank, as a multiple of `2 ^ -1074`. -/
def unitsOfRank (rank : Nat) : Nat :=
  (rank - rankExponent rank * binadeSize) * Nat.pow 2 (rankExponent rank)

/-- How many units of `2 ^ -1074` make one. -/
def unitsPerOne : Nat := Nat.pow 2 1074

/-- **Rounding to nearest.**  The rank of the magnitude nearest to `numerator / denominator`.  The
leading binary digit of the quotient decides how many digits are rounded away, and a carry out of
the significand moves on to the next binade by itself, because ranks are consecutive. -/
def nearestRank (numerator denominator : Nat) : Nat :=
  let units := numerator * unitsPerOne
  let exponent := (units / denominator).log2 - 52
  roundHalfEven units (denominator * Nat.pow 2 exponent) + exponent * binadeSize

namespace Binary64

/-- A finite double: a sign and the rank of a magnitude.  Both zeros are here. -/
structure Finite where
  /-- Whether the sign is a minus. -/
  negative : Bool
  /-- The rank of the magnitude. -/
  rank : Nat
  /-- Only ranks below the limit are finite. -/
  bounded : rank < rankLimit
  deriving DecidableEq

namespace Finite

/-- The zero of the given sign. -/
def zero (negative : Bool) : Finite :=
  ⟨negative, 0, by decide⟩

/-- The magnitude, as a multiple of `2 ^ -1074`. -/
def units (x : Finite) : Nat :=
  unitsOfRank x.rank

/-- The exact value, as a multiple of `2 ^ -1074`. -/
def signedUnits (x : Finite) : Int :=
  if x.negative then -(x.units : Int) else x.units

/-- The rank with the sign.  Finite doubles are in the order of their signed ranks; both zeros have
the same one. -/
def signedRank (x : Finite) : Int :=
  if x.negative then -(x.rank : Int) else x.rank

/-- The integer that remains when the fractional part is dropped: rounding toward zero. -/
def truncate (x : Finite) : Int :=
  Int.tdiv x.signedUnits unitsPerOne

/-- A double without a fractional part. -/
def IsWhole (x : Finite) : Prop :=
  x.units % unitsPerOne = 0

instance (x : Finite) : Decidable x.IsWhole :=
  inferInstanceAs (Decidable (_ = _))

/-- The double of opposite sign. -/
def negate (x : Finite) : Finite :=
  { x with negative := !x.negative }

end Finite

end Binary64

/-- **A double-precision number.** -/
inductive Binary64 where
  /-- A number proper. -/
  | finite (x : Binary64.Finite)
  /-- Beyond every finite double, on the side of the sign. -/
  | infinite (negative : Bool)
  /-- No number at all. -/
  | nan
  deriving DecidableEq

namespace Binary64

/-- The double of a given sign and rank; a rank past the limit is an infinity. -/
def ofRank (negative : Bool) (rank : Nat) : Binary64 :=
  if h : rank < rankLimit then .finite ⟨negative, rank, h⟩ else .infinite negative

/-- The double nearest to a quotient of the given sign. -/
def ofRatio (negative : Bool) (numerator denominator : Nat) : Binary64 :=
  ofRank negative (nearestRank numerator denominator)

/-- The double nearest to an integer. -/
def ofInt (i : Int) : Binary64 :=
  ofRatio (decide (i < 0)) i.natAbs 1

/-- The finite double, if this is one. -/
def finite? : Binary64 → Option Finite
  | .finite x => some x
  | _ => none

/-- The double of opposite sign. -/
def negate : Binary64 → Binary64
  | .finite x => .finite x.negate
  | .infinite negative => .infinite !negative
  | .nan => .nan

/-- The product of two finite doubles, rounded to nearest. -/
def Finite.times (x y : Finite) : Binary64 :=
  ofRatio (x.negative != y.negative) (x.units * y.units) (unitsPerOne * unitsPerOne)

/-- The quotient of two finite doubles, rounded to nearest; the divisor is not a zero. -/
def Finite.over (x y : Finite) : Binary64 :=
  ofRatio (x.negative != y.negative) x.units y.units

/-! ## Order

Infinities lie past all finite doubles.  The undefined value has no place in the order: nothing is
below it, above it or equal to it. -/

/-- The place of a number in the order. -/
def place? : Binary64 → Option Int
  | .finite x => some x.signedRank
  | .infinite negative => some (if negative then -(rankLimit : Int) else rankLimit)
  | .nan => none

/-- Whether a number is less than another. -/
def below (x y : Binary64) : Bool :=
  match x.place?, y.place? with
  | some m, some n => decide (m < n)
  | _, _ => false

/-- Whether a number is less than another or equal to it. -/
def atMost (x y : Binary64) : Bool :=
  match x.place?, y.place? with
  | some m, some n => decide (m ≤ n)
  | _, _ => false

/-! ## Integers -/

/-- Whether this is a finite double. -/
def isFinite (x : Binary64) : Bool :=
  x.finite?.isSome

/-- The number without its fractional part, as a double: rounding toward zero.  The sign stays, also
where only zero remains. -/
def wholePart : Binary64 → Binary64
  | .finite x => ofRatio x.negative (x.units / unitsPerOne) 1
  | x => x

/-- The 64-bit integer that a number is cast to: without its fractional part, and at the nearer end
of the range if it lies outside.  The undefined value is cast to zero. -/
def toInt64 : Binary64 → Int64
  | .finite x => .ofIntClamp x.truncate
  | .infinite negative => if negative then .minValue else .maxValue
  | .nan => 0

/-! ## Bit patterns

The lowest 63 bits of a pattern are the rank, the highest is the sign.  The rank just past the
finite ones stands for infinity and every larger one for the undefined value. -/

/-- The weight of the sign in a bit pattern. -/
def signWeight : Nat := Nat.pow 2 63

/-- The number with a given bit pattern. -/
def ofBits (bits : UInt64) : Binary64 :=
  let negative := decide (signWeight ≤ bits.toNat)
  let rank := bits.toNat % signWeight
  if rank ≤ rankLimit then ofRank negative rank else .nan

/-- The bit pattern of a number.  Many patterns stand for the undefined value; the answer is the
least one of positive sign whose significand has its leading bit set. -/
def toBits : Binary64 → UInt64
  | .finite x => UInt64.ofNat (x.rank + if x.negative then signWeight else 0)
  | .infinite negative => UInt64.ofNat (rankLimit + if negative then signWeight else 0)
  | .nan => UInt64.ofNat (rankLimit + binadeSize / 2)

end Binary64

/-- A single-precision number, given by its bit pattern. -/
structure Binary32 where
  /-- The sign in the highest bit, the rank in the others. -/
  bits : UInt32
  deriving DecidableEq

namespace Binary32

/-- The number of single-precision magnitudes in a binade. -/
def binadeSize : Nat := Nat.pow 2 23

/-- The number of finite single-precision magnitudes of one sign. -/
def rankLimit : Nat := 255 * binadeSize

/-- The weight of the sign in a bit pattern. -/
def signWeight : Nat := Nat.pow 2 31

/-- The same number in double precision.  Every single-precision magnitude is a double, so nothing
is rounded. -/
def widen (x : Binary32) : Binary64 :=
  let negative := decide (signWeight ≤ x.bits.toNat)
  let rank := x.bits.toNat % signWeight
  let exponent := rank / binadeSize - 1
  if rank < rankLimit then
    .ofRatio negative ((rank - exponent * binadeSize) * Nat.pow 2 exponent) (Nat.pow 2 149)
  else if rank = rankLimit then .infinite negative
  else .nan

end Binary32

end QueryTemplate
