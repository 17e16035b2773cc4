import StudentRoster.Report

/-!
# Questions to a roster

Each question is answered by a report and leaves the roster as it is. An id that is not found is a
warning; the one question that can fail is a search by a major that is too short.
-/

set_option autoImplicit false

namespace StudentRoster.Roster

/-- All students. -/
def listAll (roster : Roster) : Report where
  students := roster.students
  events := [.listed roster.students.length]

/-- The newest student with this id. -/
def lookUp (roster : Roster) (id : Int32) : Report :=
  match roster.find? id with
  | some student => { students := [student], ids := [id], events := [.lookingUp id] }
  | none => { notes := [.unknownId id], events := [.lookingUp id] }

/-- Whether an id is taken. -/
def check (roster : Roster) (id : Int32) : Report :=
  if roster.contains id then
    { ids := [id], notes := [.idTaken id], events := [.checked id true] }
  else { notes := [.idFree id], events := [.checked id false] }

/-- The report of students that were found, with their ids. -/
def found (students : List Student) (event : Nat → Event) : Report where
  students := students
  ids := students.map (·.id)
  events := [event students.length]

/-- The students with exactly this last name. -/
def searchLastName (roster : Roster) (name : String) : Report :=
  found (roster.withLastName name) (.searchedLastName name)

/-- The students whose major begins like this one. -/
def searchMajor (roster : Roster) (major : String) : Except Failure Report :=
  (roster.withMajor major).map fun students => found students (.searchedMajor major)

/-- Recases all students. -/
def normalize (roster : Roster) (casing : Casing) : Roster × Report :=
  (roster.recase casing,
    { notes := [.normalized roster.size casing], events := [.normalized casing roster.size] })

end StudentRoster.Roster
