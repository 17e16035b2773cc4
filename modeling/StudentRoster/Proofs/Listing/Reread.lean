import StudentRoster.Listing.Sink
import StudentRoster.Proofs.Student.Reread

/-!
# A printed listing reads back

The listing of students whose names and majors are fields has no bad line and gives the students
back in their order (`ofText_print`). A sink without a capacity takes all of it
(`writeStudents_unbounded`), and its bytes are the text.
-/

set_option autoImplicit false

namespace StudentRoster

open Text

/-- A field of a line has no line feed. -/
theorem Text.IsField.linefeed_not_mem {field : List Char} (h : IsField field) :
    '\n' ∉ field := by
  intro hmem
  have hblank := h.2 _ hmem
  simp [isBlank] at hblank

namespace Listing

/-- Nobody is printed as nothing. -/
theorem print_nil : print [] = "" := rfl

/-- The first student is printed on the first line. -/
theorem print_cons (student : Student) (rest : List Student) :
    print (student :: rest) = printLine student ++ print rest := by
  rw [print, List.map_cons, String.join_cons, print]

/-- Each student is printed as a line with a line feed behind it. -/
theorem toList_print (students : List Student) :
    (print students).toList = (students.map fun s => s.line.toList).flatMap (· ++ ['\n']) := by
  induction students with
  | nil => rfl
  | cons student rest ih =>
    rw [print_cons, String.toList_append, ih, printLine, String.toList_append, List.map_cons,
      List.flatMap_cons]
    rfl

/-- A printed line is no comment, since it begins with an id. -/
theorem readLine_line {s : Student} (h : s.IsWellFormed) :
    readLine s.line.toList = some (.ok s.reread) := by
  obtain ⟨c, digits, hid⟩ := List.exists_cons_of_ne_nil (integerDigits_ne_nil s.id.toInt)
  have hc : c ≠ '#' := by
    rintro rfl
    have := isDigit_or_eq_minus_of_mem_integerDigits (n := s.id.toInt) (c := '#') (by simp [hid])
    simp at this
  have hhead : ¬ (integerDigits s.id.toInt).head? = some '#' := by simp [hid, hc]
  rw [readLine, Student.words_line h, ← Student.ofWords_fields]
  simp only [Student.fields, if_neg hhead]

/-- Good lines are read in their order, from whatever number on. -/
theorem ofLines_lines (number : Nat) {students : List Student}
    (h : ∀ s ∈ students, s.IsWellFormed) :
    ofLines number ((students.map fun s => s.line.toList) ++ [[]]) =
      ⟨students.map Student.reread, []⟩ := by
  induction students generalizing number with
  | nil => rfl
  | cons student rest ih =>
    have hrest := ih (number + 1) fun s hs => h s (List.mem_cons_of_mem student hs)
    rw [List.map_cons, List.cons_append, ofLines, hrest, readLine_line (h student (by simp))]
    rfl

/-- A printed line stays a line if its fields have no line feed. -/
theorem linefeed_not_mem_line_of_fields {s : Student} (h : ∀ field ∈ s.fields, '\n' ∉ field) :
    '\n' ∉ s.line.toList := by
  rw [Student.toList_line]
  intro hmem
  simp only [Student.fields, List.mem_cons, List.not_mem_nil, or_false, forall_eq_or_imp,
    forall_eq] at h
  simp [Student.fields, h] at hmem

/-- A well formed student is printed on one line. -/
theorem linefeed_not_mem_line {s : Student} (h : s.IsWellFormed) : '\n' ∉ s.line.toList := by
  apply linefeed_not_mem_line_of_fields
  intro field hfield
  exact (Student.isField_of_mem_fields h hfield).linefeed_not_mem

/-- Printed students are read back in their order, and nothing is told about the lines. -/
theorem ofText_print {students : List Student} (h : ∀ s ∈ students, s.IsWellFormed) :
    ofText (print students) = ⟨students.map Student.reread, []⟩ := by
  have hlines : ∀ line ∈ students.map fun s => s.line.toList, '\n' ∉ line := by
    intro line hline
    obtain ⟨s, hs, rfl⟩ := List.mem_map.mp hline
    exact linefeed_not_mem_line (h s hs)
  rw [ofText, toList_print, lines_flatMap_line hlines, ofLines_lines 1 h]

end Listing

namespace Sink

/-- A sink without a capacity takes a whole listing. -/
theorem writeStudents_unbounded (written : ByteArray) (students : List Student) :
    writeStudents ⟨none, written⟩ students =
      (⟨none, written ++ (Listing.print students).toUTF8⟩, .ok ()) := by
  induction students generalizing written with
  | nil => simp [writeStudents, Listing.print_nil]
  | cons student rest ih =>
    rw [writeStudents, write]
    simp only [ih, Listing.print_cons, String.toUTF8_eq_toByteArray, String.toByteArray_append,
      ByteArray.append_assoc]

end Sink

end StudentRoster
