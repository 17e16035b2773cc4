import StudentRoster.Proofs.Gpa.Reread
import StudentRoster.Student.Line

/-!
# A printed line reads back

A student whose names and major are fields is read back from its own line, but for the places of the
average that the line does not show (`ofLine_line`). Reading a line gives only such students
(`isWellFormed_of_ofLine`).
-/

set_option autoImplicit false

namespace StudentRoster.Student

open Text

/-- Names and major as a line can give them back: not empty and without blanks. -/
structure IsWellFormed (s : Student) : Prop where
  firstName : IsField s.firstName.toList
  lastName : IsField s.lastName.toList
  major : IsField s.major.toList

/-- A student is well formed when the three texts are fields. -/
theorem isWellFormed_iff (s : Student) : s.IsWellFormed ↔
    IsField s.firstName.toList ∧ IsField s.lastName.toList ∧ IsField s.major.toList :=
  ⟨fun h => ⟨h.firstName, h.lastName, h.major⟩, fun h => ⟨h.1, h.2.1, h.2.2⟩⟩

instance (s : Student) : Decidable s.IsWellFormed :=
  decidable_of_iff' _ s.isWellFormed_iff

/-- Two students that no listing tells apart: only their averages may differ, in places that are not
shown. -/
structure PrintsAs (a b : Student) : Prop where
  id : a.id = b.id
  firstName : a.firstName = b.firstName
  lastName : a.lastName = b.lastName
  gpa : a.gpa.text = b.gpa.text
  major : a.major = b.major

/-- The student that is read where a student was printed. -/
def reread (s : Student) : Student := { s with gpa := s.gpa.reread }

/-- A student that was read again prints as before. -/
theorem printsAs_reread (s : Student) : s.reread.PrintsAs s where
  id := rfl
  firstName := rfl
  lastName := rfl
  gpa := s.gpa.text_reread
  major := rfl

/-- Students that print alike have the same line. -/
theorem PrintsAs.line_eq {a b : Student} (h : a.PrintsAs b) : a.line = b.line := by
  rw [line, line, fields, fields, h.id, h.firstName, h.lastName, h.gpa, h.major]

/-- A student that was read again is well formed. -/
theorem isWellFormed_reread {s : Student} (h : s.IsWellFormed) : s.reread.IsWellFormed :=
  ⟨h.firstName, h.lastName, h.major⟩

/-- The digits of an id are a field. -/
theorem isField_id (s : Student) : IsField (integerDigits s.id.toInt) :=
  ⟨integerDigits_ne_nil _, fun _ hc => isBlank_eq_false_of_mem_integerDigits hc⟩

/-- All that a line shows of a well-formed student are fields. -/
theorem isField_of_mem_fields {s : Student} (h : s.IsWellFormed) {field : List Char}
    (hfield : field ∈ s.fields) : IsField field := by
  simp only [fields, List.mem_cons, List.not_mem_nil, or_false] at hfield
  rcases hfield with rfl | rfl | rfl | rfl | rfl
  · exact s.isField_id
  · exact h.firstName
  · exact h.lastName
  · exact s.gpa.isField_text
  · exact h.major

/-- The words of a line are its fields. -/
theorem words_line {s : Student} (h : s.IsWellFormed) : words s.line.toList = s.fields := by
  rw [toList_line]
  exact words_intercalate s.fields fun field hfield => isField_of_mem_fields h hfield

/-- The fields of a line are read as the student that is read again. -/
theorem ofWords_fields (s : Student) : ofWords s.fields = .ok s.reread := by
  simp only [fields, ofWords, int32?_integerDigits, Gpa.ofLiteral?_text, String.ofList_toList]
  rfl

/-- The line of a well-formed student is read as the student that is read again. -/
theorem ofLine_line {s : Student} (h : s.IsWellFormed) : ofLine s.line = .ok s.reread := by
  rw [ofLine, words_line h, ofWords_fields]

/-- The words that make a student are five, and three of them are its texts. -/
theorem exists_words_of_ofWords {ws : List (List Char)} {s : Student} (h : ofWords ws = .ok s) :
    ∃ id gpa, ws = [id, s.firstName.toList, s.lastName.toList, gpa, s.major.toList] := by
  unfold ofWords at h
  split at h
  next id first last gpa major =>
    split at h
    · cases h
    · cases h
    · cases h
      exact ⟨id, gpa, by simp only [String.toList_ofList]⟩
  next => cases h

/-- What is read from a line can be printed and read again. -/
theorem isWellFormed_of_ofLine {line : String} {s : Student} (h : ofLine line = .ok s) :
    s.IsWellFormed := by
  obtain ⟨id, gpa, hwords⟩ := exists_words_of_ofWords h
  have hfield (word : List Char) (hword : word ∈ words line.toList) : IsField word :=
    isField_of_mem_words hword
  rw [hwords] at hfield
  exact ⟨hfield _ (by simp), hfield _ (by simp), hfield _ (by simp)⟩

end StudentRoster.Student
