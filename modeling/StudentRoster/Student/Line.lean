import StudentRoster.Student
import StudentRoster.Gpa.Hundredths
import StudentRoster.Gpa.Literal
import StudentRoster.Text.Blank
import StudentRoster.Text.Quoted

/-!
# A student as a line of text

A line shows the five parts of a student with single spaces between them, the average to two
places. Reading takes any line of five words whose first is an id and whose fourth is an average,
and otherwise names the first fault: the number of words, then the id, then the average.
-/

set_option autoImplicit false

namespace StudentRoster

open Text

/-- Why a line is not a student. -/
inductive LineFault where
  /-- The line has this many words and not five. -/
  | fieldCount (found : Nat)
  /-- The first word is no id. -/
  | badId (field : String)
  /-- The fourth word is no average. -/
  | badGpa (field : String)
  deriving DecidableEq, Repr

/-- The wording of a fault; a field that it repeats is quoted. -/
def LineFault.message : LineFault → String
  | .fieldCount found => s!"expected 5 fields, found {found}"
  | .badId field => "invalid id " ++ quote field
  | .badGpa field => "invalid gpa " ++ quote field

namespace Student

/-- The five parts as texts, in the order of a line. -/
def fields (s : Student) : List (List Char) :=
  [integerDigits s.id.toInt, s.firstName.toList, s.lastName.toList, s.gpa.text, s.major.toList]

/-- The line of a student, without a line feed. -/
def line (s : Student) : String :=
  String.ofList ([' '].intercalate s.fields)

/-- The student that the words of a line describe. -/
def ofWords : List (List Char) → Except LineFault Student
  | [id, first, last, gpa, major] =>
    match int32? id, Gpa.ofLiteral? gpa with
    | none, _ => .error (.badId (String.ofList id))
    | some _, none => .error (.badGpa (String.ofList gpa))
    | some id, some gpa =>
      .ok ⟨id, String.ofList first, String.ofList last, gpa, String.ofList major⟩
  | fields => .error (.fieldCount fields.length)

/-- The student that a line describes. -/
def ofLine (line : String) : Except LineFault Student :=
  ofWords (words line.toList)

/-- The characters of a line are those of the fields, with one space between two fields. -/
theorem toList_line (s : Student) : s.line.toList = [' '].intercalate s.fields := by
  simp [line]

end Student

end StudentRoster
