import StudentRoster.Report

/-!
# Loading files into a roster

The files of a list of paths are read one after the other, and the students of each are enrolled in
the order of its lines. A file that cannot be read, a line that is no student and a student whose
id is taken each become a note and are passed over; nothing that is in the roster is touched. Any
other failure of an enrollment would end the loading.
-/

set_option autoImplicit false

namespace StudentRoster

/-- A roster while files are loaded into it, with what there is to tell so far. -/
structure Loading where
  roster : Roster
  notes : List Note := []
  events : List Event := []
  /-- The number of students enrolled, in 32 bits. It wraps at the greatest number that they
  hold. -/
  count : Int32 := 0
  deriving DecidableEq, Repr

/-- The students of a listing, recased when a casing is given. -/
def Listing.recased (listing : Listing) (casing? : Option Casing) : List Student :=
  match casing? with
  | none => listing.students
  | some casing => listing.students.map (Student.recase casing)

namespace Loading

/-- Enrolls a student of the file with this path, or notes that the id is taken. -/
def enroll (path : String) (loading : Loading) (student : Student) : Except Failure Loading :=
  match loading.roster.enroll student with
  | .ok roster => .ok
    { loading with
      roster := roster
      events := loading.events ++ [.inserting student.id]
      count := loading.count + 1 }
  | .error (.duplicateId id) =>
    .ok { loading with notes := loading.notes ++ [.duplicateId id path] }
  | .error failure => .error failure

/-- Takes what a file says: first the notes on its bad lines, then its students, each recased when a
casing is given. -/
def addListing (casing? : Option Casing) (path : String) (loading : Loading) (listing : Listing) :
    Except Failure Loading :=
  (listing.recased casing?).foldlM (enroll path)
    { loading with
      notes := loading.notes ++ listing.badLines.map (.badLine path)
      events := loading.events ++ listing.badLines.map (.badLine path) }

/-- Takes the file that a path denotes, or notes why it cannot be read. -/
def addFile (tree : FileTree) (casing? : Option Casing) (loading : Loading) (path : String) :
    Except Failure Loading :=
  match Listing.ofFile tree path with
  | .ok listing => loading.addListing casing? path listing
  | .error e => .ok
    { loading with
      notes := loading.notes ++ [.unreadable path e]
      events := loading.events ++ [.unreadable path e] }

/-- Takes the files of all paths in order. -/
def addFiles (tree : FileTree) (casing? : Option Casing) (loading : Loading)
    (paths : List String) : Except Failure Loading :=
  paths.foldlM (addFile tree casing?) loading

/-- The report of a finished loading: its notes, and last the number of students enrolled. -/
def report (loading : Loading) : Report where
  notes := loading.notes ++ [.loaded loading.count]
  events := loading.events ++ [.loaded loading.count]

end Loading

/-- Loads the files of these paths, each student recased when a casing is given. -/
def Roster.tryLoad (roster : Roster) (tree : FileTree) (paths : List String)
    (casing? : Option Casing) : Except Failure (Roster × Report) :=
  (Loading.addFiles tree casing? { roster := roster } paths).map fun loading =>
    (loading.roster, loading.report)

/-- Loads the files of these paths. No loading fails, so that the second case does not arise. -/
def Roster.load (roster : Roster) (tree : FileTree) (paths : List String)
    (casing? : Option Casing) : Roster × Report :=
  match roster.tryLoad tree paths casing? with
  | .ok answer => answer
  | .error _ => (roster, {})

end StudentRoster
