/-!
# Rounding a quotient

`roundHalfEven a b` is the natural number nearest to `a / b`; of two that are equally near it is
the even one.  The laws beside it say that it moves a quotient by at most one half
(`two_mul_roundHalfEven_mul_le`, `le_two_mul_roundHalfEven_mul`) and keeps a quotient that is
whole (`roundHalfEven_mul_self`).
-/

namespace QueryTemplate

/-- The natural number nearest to `a / b`, the even one when two are equally near. -/
def roundHalfEven (a b : Nat) : Nat :=
  if 2 * (a % b) < b then a / b
  else if b < 2 * (a % b) then a / b + 1
  else if a / b % 2 = 0 then a / b
  else a / b + 1

theorem roundHalfEven_eq_or (a b : Nat) :
    roundHalfEven a b = a / b ∨ roundHalfEven a b = a / b + 1 := by
  unfold roundHalfEven
  split
  · exact Or.inl rfl
  · split
    · exact Or.inr rfl
    · split
      · exact Or.inl rfl
      · exact Or.inr rfl

theorem div_le_roundHalfEven (a b : Nat) : a / b ≤ roundHalfEven a b := by
  rcases roundHalfEven_eq_or a b with h | h <;> omega

theorem roundHalfEven_le_div_add_one (a b : Nat) : roundHalfEven a b ≤ a / b + 1 := by
  rcases roundHalfEven_eq_or a b with h | h <;> omega

/-- Rounding goes up by at most one half. -/
theorem two_mul_roundHalfEven_mul_le {a b : Nat} (hb : 0 < b) :
    2 * (roundHalfEven a b * b) ≤ 2 * a + b := by
  have split_a : b * (a / b) + a % b = a := Nat.div_add_mod a b
  have comm : a / b * b = b * (a / b) := Nat.mul_comm _ _
  unfold roundHalfEven
  split
  · omega
  · split
    · rw [Nat.add_mul]; omega
    · split
      · omega
      · rw [Nat.add_mul]; omega

/-- Rounding goes down by at most one half. -/
theorem le_two_mul_roundHalfEven_mul {a b : Nat} (hb : 0 < b) :
    2 * a ≤ 2 * (roundHalfEven a b * b) + b := by
  have split_a : b * (a / b) + a % b = a := Nat.div_add_mod a b
  have small : a % b < b := Nat.mod_lt a hb
  have comm : a / b * b = b * (a / b) := Nat.mul_comm _ _
  unfold roundHalfEven
  split
  · omega
  · split
    · rw [Nat.add_mul]; omega
    · split
      · omega
      · rw [Nat.add_mul]; omega

/-- A whole quotient is kept. -/
theorem roundHalfEven_mul_self {b : Nat} (hb : 0 < b) (q : Nat) : roundHalfEven (q * b) b = q := by
  rw [roundHalfEven, Nat.mul_mod_left, Nat.mul_div_cancel q hb, if_pos (by omega)]

end QueryTemplate
