import StudentRoster.Gpa

/-!
# Averages to two places

A listing shows an average in hundredths: the exact value rounded to two places, a half to the
even neighbour, with the sign kept even before a zero. The words for infinity and NaN take the
place of the digits, and a NaN has no sign.
-/

set_option autoImplicit false

namespace StudentRoster.Gpa

open Binary

-- A power is the power of core, whatever else is in scope.
attribute [local instance (high)] instPowNat

/-- The value of a finite magnitude in hundredths. -/
def hundredths (g : Gpa) : Nat :=
  roundDiv (single.units g.magnitude.val * 100) (2 ^ single.scale)

/-- A number of hundredths with its point: at least one digit before it and two after it. -/
def hundredthsText (n : Nat) : List Char :=
  Nat.toDigits 10 (n / 100) ++ ['.', Nat.digitChar (n / 10 % 10), Nat.digitChar (n % 10)]

/-- The average as a listing shows it. -/
def text (g : Gpa) : List Char :=
  if g.isNaN then "NaN".toList
  else
    (if g.negative then ['-'] else [])
      ++ (if g.isInfinite then "inf".toList else hundredthsText g.hundredths)

end StudentRoster.Gpa
