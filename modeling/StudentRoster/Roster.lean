import StudentRoster.Casing
import StudentRoster.Failure

/-!
# Rosters

A roster keeps its students in the order in which they came and is read from the newest on. An
insertion does not ask whether the id is taken; an enrollment does. A look-up takes the newest match
and a removal the place of the newest match. The lemmas state what each operation does to the list
of students, the newest first.
-/

set_option autoImplicit false

namespace StudentRoster

/-- A roster. -/
structure Roster where
  /-- The students in the order in which they came. -/
  arrivals : Array Student
  deriving DecidableEq, Repr

namespace Roster

/-- The roster without students. -/
def empty : Roster := ⟨#[]⟩

/-- The students, the newest first. -/
def students (roster : Roster) : List Student := roster.arrivals.toList.reverse

/-- The ids in the order of the students. -/
def ids (roster : Roster) : List Int32 := roster.students.map (·.id)

/-- The number of students. -/
def size (roster : Roster) : Nat := roster.arrivals.size

/-- Whether there are no students. -/
def isEmpty (roster : Roster) : Bool := roster.arrivals.isEmpty

/-- Adds a student behind the others, whatever the id. -/
def insert (roster : Roster) (student : Student) : Roster :=
  ⟨roster.arrivals.push student⟩

/-- Adds students one after the other. -/
def insertAll (roster : Roster) (students : List Student) : Roster :=
  students.foldl insert roster

/-- The roster into which these students were inserted in this order. -/
def ofList (students : List Student) : Roster :=
  empty.insertAll students

/-- Whether some student has this id. -/
def contains (roster : Roster) (id : Int32) : Bool :=
  roster.arrivals.any (·.id == id)

/-- Adds a student whose id is not taken. -/
def enroll (roster : Roster) (student : Student) : Except Failure Roster :=
  if roster.contains student.id then .error (.duplicateId student.id)
  else .ok (roster.insert student)

/-- The newest student with this id. -/
def find? (roster : Roster) (id : Int32) : Option Student :=
  roster.students.find? (·.id == id)

/-- The place of the newest student with this id, counted from the oldest. -/
def place? (roster : Roster) (id : Int32) : Option Nat :=
  (roster.students.findIdx? (·.id == id)).map fun newer => roster.size - 1 - newer

/-- Takes the student at the place of the newest with this id out. -/
def take? (roster : Roster) (id : Int32) : Option (Student × Roster) := do
  let place ← roster.place? id
  let student ← roster.arrivals[place]?
  return (student, ⟨roster.arrivals.eraseIdxIfInBounds place⟩)

/-- The roster without its students. -/
def clear (roster : Roster) : Roster := { roster with arrivals := #[] }

/-- Recases every student. -/
def recase (roster : Roster) (casing : Casing) : Roster :=
  ⟨roster.arrivals.map (Student.recase casing)⟩

/-- The students with exactly this last name. -/
def withLastName (roster : Roster) (name : String) : List Student :=
  roster.students.filter (·.lastName == name)

/-- The number of characters that a search by major compares. -/
def majorWidth : Nat := 3

/-- The characters of a major that a search compares. -/
def majorCode (major : String) : List Char :=
  major.toList.take majorWidth

/-- The students whose major begins like this one. A shorter query is refused; a shorter major of a
student is never equal to the code of the query. -/
def withMajor (roster : Roster) (query : String) : Except Failure (List Student) :=
  if (majorCode query).length < majorWidth then .error (.shortMajor query)
  else .ok (roster.students.filter fun student => majorCode student.major == majorCode query)

/-- Whether two rosters hold the same students in the same order, averages compared as numbers. -/
def sameAs (a b : Roster) : Bool :=
  a.arrivals.isEqv b.arrivals Student.sameAs

/-- The size of a roster is the number of its students. -/
theorem length_students (roster : Roster) : roster.students.length = roster.size := by
  simp [students, size]

/-- An empty roster has no students. -/
@[simp] theorem students_empty : empty.students = [] := rfl

/-- A student that is inserted stands in front of the others. -/
@[simp] theorem students_insert (roster : Roster) (student : Student) :
    (roster.insert student).students = student :: roster.students := by
  simp [students, insert]

/-- Students inserted in order stand in reverse order in front of the others. -/
@[simp] theorem students_insertAll (roster : Roster) (students : List Student) :
    (roster.insertAll students).students = students.reverse ++ roster.students := by
  induction students generalizing roster with
  | nil => rfl
  | cons student rest ih =>
    rw [insertAll, List.foldl_cons, ← insertAll, ih]
    simp

/-- A roster grows by the students that are inserted. -/
theorem size_insertAll (roster : Roster) (students : List Student) :
    (roster.insertAll students).size = roster.size + students.length := by
  rw [← length_students, students_insertAll, List.length_append, List.length_reverse,
    length_students, Nat.add_comm]

/-- A roster made of a list has its students in reverse order. -/
@[simp] theorem students_ofList (students : List Student) :
    (ofList students).students = students.reverse := by
  simp [ofList]

/-- The students of a recased roster are recased and keep their places. -/
@[simp] theorem students_recase (roster : Roster) (casing : Casing) :
    (roster.recase casing).students = roster.students.map (Student.recase casing) := by
  simp [students, recase]

/-- A roster contains the ids of its students. -/
theorem contains_eq_true_iff {roster : Roster} {id : Int32} :
    roster.contains id = true ↔ id ∈ roster.ids := by
  rw [contains, Array.any_eq_true']
  simp [ids, students]

end Roster

end StudentRoster
