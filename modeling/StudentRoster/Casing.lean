import StudentRoster.Student

/-!
# Letter case of names and majors

Names are written with a capital and small letters, majors in capitals. The legacy casing works on
the positions of characters in ASCII: everything above `Z` counts as a small letter and everything
below `Z` as a capital, whatever it is, and a letter moves by the distance of the two cases. The
title casing changes the ASCII letters and nothing else. Neither touches a character beyond ASCII.
-/

set_option autoImplicit false

namespace StudentRoster

/-- How names and majors are recased. -/
inductive Casing where
  | legacy
  | title
  deriving DecidableEq, Repr

namespace Casing

/-- The name of a casing in settings and messages. -/
def name : Casing → String
  | .legacy => "legacy"
  | .title => "title"

/-- Moves an ASCII character above `Z` down by the distance between the cases. -/
def shiftDown (c : Char) : Char :=
  if 'Z' < c ∧ c.toNat < 128 then Char.ofNat (c.toNat - 32) else c

/-- Moves a character below `Z` up by the distance between the cases. -/
def shiftUp (c : Char) : Char :=
  if c < 'Z' then Char.ofNat (c.toNat + 32) else c

/-- The capital form of a character. -/
def capital : Casing → Char → Char
  | .legacy => shiftDown
  | .title => Char.toUpper

/-- The small form of a character. -/
def small : Casing → Char → Char
  | .legacy => shiftUp
  | .title => Char.toLower

/-- A text with its first character in capital form and the others in small form. -/
def capitalize (casing : Casing) : List Char → List Char
  | [] => []
  | c :: rest => casing.capital c :: rest.map casing.small

/-- A name in this casing. -/
def fixName (casing : Casing) (name : String) : String :=
  String.ofList (casing.capitalize name.toList)

/-- A major in this casing. -/
def fixMajor (casing : Casing) (major : String) : String :=
  String.ofList (major.toList.map casing.capital)

end Casing

/-- A student with both names and the major recased. -/
def Student.recase (casing : Casing) (s : Student) : Student :=
  { s with
    firstName := casing.fixName s.firstName
    lastName := casing.fixName s.lastName
    major := casing.fixMajor s.major }

/-- A recased student keeps the id. -/
@[simp] theorem Student.id_recase (casing : Casing) (s : Student) : (s.recase casing).id = s.id :=
  rfl

/-- A recased student keeps the average. -/
@[simp] theorem Student.gpa_recase (casing : Casing) (s : Student) :
    (s.recase casing).gpa = s.gpa :=
  rfl

end StudentRoster
