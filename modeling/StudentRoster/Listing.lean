import StudentRoster.Failure
import StudentRoster.Files.Tree
import StudentRoster.Student.Line

/-!
# Listings

A listing is a text with one student on a line. Blank lines and comments, whose first word begins
with a number sign, say nothing; every other line is a student or is reported by its number, and
does not keep the lines after it from being read.
-/

set_option autoImplicit false

namespace StudentRoster

/-- A line that is not a student, by its number from 1. -/
structure BadLine where
  number : Nat
  fault : LineFault
  deriving DecidableEq, Repr

/-- The line as a failure of its own. -/
def BadLine.failure (line : BadLine) : Failure :=
  .badLine line.number line.fault.message

/-- What a listing says, both parts in the order of the lines. -/
structure Listing where
  students : List Student
  badLines : List BadLine
  deriving DecidableEq, Repr

namespace Listing

/-- What a line says: nothing, or a student, or something that is none. -/
def readLine (line : List Char) : Option (Except LineFault Student) :=
  match Text.words line with
  | [] => none
  | word :: rest =>
    if word.head? = some '#' then none else some (Student.ofWords (word :: rest))

/-- What lines say of which the first has this number. -/
def ofLines (number : Nat) : List (List Char) → Listing
  | [] => ⟨[], []⟩
  | line :: rest =>
    let listing := ofLines (number + 1) rest
    match readLine line with
    | none => listing
    | some (.ok student) => { listing with students := student :: listing.students }
    | some (.error fault) => { listing with badLines := ⟨number, fault⟩ :: listing.badLines }

/-- What a text says. -/
def ofText (text : String) : Listing :=
  ofLines 1 (Text.lines text.toList)

/-- What the file that a path denotes says. -/
def ofFile (tree : FileTree) (path : String) : Except FileError Listing :=
  (tree.readText path).map ofText

/-- The line of a student with the line feed that ends it. -/
def printLine (student : Student) : String :=
  student.line ++ "\n"

/-- The listing of students in this order. -/
def print (students : List Student) : String :=
  String.join (students.map printLine)

end Listing

end StudentRoster
