/-!
# Rounding a quotient

One rule for every place where an exact ratio becomes a whole number: the nearest whole number,
and of two that are equally near the even one. `roundDiv_mul` says that nothing is rounded when
the division comes out even.
-/

set_option autoImplicit false

namespace StudentRoster.Binary

/-- The whole number nearest to `num / den`; a half goes to the even neighbour. -/
def roundDiv (num den : Nat) : Nat :=
  let quotient := num / den
  let twice := 2 * (num % den)
  if twice < den then quotient
  else if den < twice then quotient + 1
  else quotient + quotient % 2

/-- A quotient without a remainder is kept. -/
theorem roundDiv_mul {q den : Nat} (h : 0 < den) : roundDiv (q * den) den = q := by
  simp [roundDiv, Nat.mul_div_cancel _ h, h]

/-- The result is the quotient or the number after it. -/
theorem div_le_roundDiv (num den : Nat) : num / den ≤ roundDiv num den := by
  simp only [roundDiv]
  split
  · exact Nat.le_refl _
  · split <;> omega

/-- Rounding adds at most one to the whole part of a quotient. -/
theorem roundDiv_le_div_add_one (num den : Nat) : roundDiv num den ≤ num / den + 1 := by
  simp only [roundDiv]
  split
  · omega
  · split <;> omega

end StudentRoster.Binary
