import StudentRoster.Gpa

/-!
# Students

One entry of a roster: an id, two names, an average and a major. `Student.sameAs` compares the
averages as numbers and everything else exactly, so that a student whose average is no number
is not even the same as itself; plain equality is equality of all five parts.
-/

set_option autoImplicit false

namespace StudentRoster

/-- A student. Nothing but the caller keeps ids apart: see `Roster.enroll`. -/
structure Student where
  id : Int32
  firstName : String
  lastName : String
  gpa : Gpa
  major : String
  deriving DecidableEq, Repr

namespace Student

/-- Whether two students agree in ids and texts, and in averages as numbers. -/
def sameAs (a b : Student) : Bool :=
  a.id == b.id && a.firstName == b.firstName && a.lastName == b.lastName
    && a.gpa.sameValue b.gpa && a.major == b.major

/-- A student is the same as itself exactly when the average is a number. -/
theorem sameAs_self (s : Student) : s.sameAs s = !s.gpa.isNaN := by
  simp [sameAs, Gpa.sameValue_self]

end Student

end StudentRoster
