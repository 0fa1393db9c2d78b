import QueryTemplate.Number.Decimal

/-!
# The shortest decimal that reads back

A double is written with as few significant digits as possible, so long as reading them back gives
the same double.  The exact expansion of a double is a natural number times `10 ^ -1074`
(`expansion`), and cutting it after `n` digits leaves two neighbours on the grid of `n`-digit
decimals, one on either side.  If any `n`-digit decimal reads back, one of these two does, so only
they are tried: `neighbour?` prefers the nearer and, when both are equally near, the one away from
zero.  `shortest` takes the first `n` at which a neighbour reads back.

Seventeen digits always suffice; the exact expansion stands behind them, so that a decimal that
reads back is found by construction.
-/

namespace QueryTemplate.Binary64.Finite

/-- The exact value of a magnitude, as a multiple of `10 ^ -1074`. -/
def expansion (rank : Nat) : Nat :=
  unitsOfRank rank * Nat.pow 5 1074

/-- Whether the magnitude `n · 10 ^ -1074` is rounded to the given rank. -/
def ReadsAs (rank n : Nat) : Prop :=
  nearestRank n (Nat.pow 10 1074) = rank

instance (rank n : Nat) : Decidable (ReadsAs rank n) :=
  inferInstanceAs (Decidable (_ = _))

/-- The multiple of `10 ^ -1074 · grid` next to the magnitude of a rank that reads back as it, the
nearer one if both do. -/
def neighbour? (rank grid : Nat) : Option Nat :=
  let below := expansion rank / grid
  let belowReads := decide (ReadsAs rank (below * grid))
  let aboveReads := decide (ReadsAs rank ((below + 1) * grid))
  if belowReads && (!aboveReads || decide (2 * (expansion rank % grid) < grid)) then some below
  else if aboveReads then some (below + 1)
  else none

/-- The digits and the exponent of the shortest decimal that reads back as a rank, the nearest of
those. -/
def shortestMagnitude (rank : Nat) : Nat × Int :=
  let size := (numeral (expansion rank)).length
  let attempt (count : Nat) : Option (Nat × Int) :=
    (neighbour? rank (Nat.pow 10 (size - count))).map fun digits =>
      (digits, (size - count : Nat) - (1074 : Int))
  (((List.range' 1 17).findSome? attempt).getD (expansion rank, -1074))

/-- **The shortest decimal that reads back** as a double. -/
def shortest (x : Binary64.Finite) : Decimal :=
  let (digits, exponent) := shortestMagnitude x.rank
  ⟨x.negative, digits, exponent⟩

/-- The shortest decimal has the sign of the double and the magnitude found for its rank. -/
theorem shortest_eq (x : Binary64.Finite) :
    x.shortest = ⟨x.negative, (shortestMagnitude x.rank).1, (shortestMagnitude x.rank).2⟩ := by
  -- for any way to find the magnitude; about `shortestMagnitude` the kernel would evaluate it
  have hpair : ∀ find : Nat → Nat × Int,
      (fun x : Binary64.Finite =>
        match find x.rank with
        | (digits, exponent) => (⟨x.negative, digits, exponent⟩ : Decimal)) =
      fun x => ⟨x.negative, (find x.rank).1, (find x.rank).2⟩ := fun _ => rfl
  have hshortest : shortest = fun x =>
      match shortestMagnitude x.rank with
      | (digits, exponent) => ⟨x.negative, digits, exponent⟩ := by
    delta shortest
    exact Eq.refl _
  exact congrFun (hshortest.trans (hpair shortestMagnitude)) x

/-- The plain text of a double: its shortest decimal, written positionally. -/
def toText (x : Binary64.Finite) : Text :=
  x.shortest.toText

/-- **The literal of a double.**  A whole number gets a fraction of one zero, so that a literal
always has a decimal point and never reads as an integer. -/
def literal (x : Binary64.Finite) : Text :=
  if x.toText.contains '.' then x.toText else x.toText ++ ['.', '0']

end QueryTemplate.Binary64.Finite

namespace QueryTemplate.Binary64

/-- The plain text of any double-precision number, as messages show it. -/
def toText : Binary64 → Text
  | .finite x => x.toText
  | .infinite negative => (if negative then "-inf" else "inf").toList
  | .nan => "NaN".toList

end QueryTemplate.Binary64
