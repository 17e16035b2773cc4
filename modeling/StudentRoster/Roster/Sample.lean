import StudentRoster.Roster

/-!
# Sample rosters

Rosters of made-up students, for trying things out. Their ids run from 1, their names repeat the id,
and their averages go round among 2, 2.5 and 3.
-/

set_option autoImplicit false

namespace StudentRoster

/-- The made-up student with this number. -/
def Student.sample (n : Nat) : Student where
  id := Int32.ofNat n
  firstName := "first" ++ idText (Int32.ofNat n)
  lastName := "last" ++ idText (Int32.ofNat n)
  gpa := Gpa.ofDecimal false (20 + n % 3 * 5) (-1)
  major := "GEN"

/-- A roster of `count` made-up students, inserted in the order of their numbers. -/
def Roster.sample (count : Nat) : Roster :=
  .ofList ((List.range count).map fun n => Student.sample (n + 1))

end StudentRoster
