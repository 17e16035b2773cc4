import StudentRoster.Roster

/-!
# The look-ups agree on the newest match

A test goes through the roster from the oldest student on, a search from the newest, and a removal
finds a place counted from the newest and uses it counted from the oldest. When the students, the
newest first, are split in front of the first one with an id, all of them agree on that student
(`find?_of_split`, `place?_of_split`, `take?_of_split`), and such a split exists exactly when the id
is taken.
-/

set_option autoImplicit false

namespace StudentRoster.Roster

variable {roster : Roster} {id : Int32}

/-- The students in front of the newest match, the match, and those behind it. -/
structure IsSplit (roster : Roster) (id : Int32) (newer : List Student) (student : Student)
    (older : List Student) : Prop where
  students_eq : roster.students = newer ++ student :: older
  id_eq : student.id = id
  not_mem : id ∉ newer.map (·.id)

/-- An id is taken exactly when there is a newest match. -/
theorem exists_isSplit (h : id ∈ roster.ids) :
    ∃ newer student older, roster.IsSplit id newer student older := by
  have hfind : (roster.students.find? (·.id == id)).isSome = true := by
    obtain ⟨student, hstudent, hid⟩ := List.mem_map.mp h
    exact List.find?_isSome.mpr ⟨student, hstudent, by simpa using hid⟩
  obtain ⟨student, hsome⟩ := Option.isSome_iff_exists.mp hfind
  obtain ⟨hid, newer, older, hsplit, hnewer⟩ := List.find?_eq_some_iff_append.mp hsome
  refine ⟨newer, student, older, hsplit, by simpa using hid, fun hmem => ?_⟩
  obtain ⟨other, hother, hotherid⟩ := List.mem_map.mp hmem
  simpa [hotherid] using hnewer other hother

/-- The arrivals are the students in reverse order. -/
theorem arrivals_eq (roster : Roster) : roster.arrivals = roster.students.reverse.toArray := by
  rw [students, List.reverse_reverse, Array.toArray_toList]

section split

variable {newer older : List Student} {student : Student}

/-- No student in front of the split has its id. -/
theorem IsSplit.beq_eq_false (h : roster.IsSplit id newer student older) {other : Student}
    (hother : other ∈ newer) : (other.id == id) = false := by
  have hne : other.id ≠ id := fun heq => h.not_mem (List.mem_map.mpr ⟨other, hother, heq⟩)
  simpa using hne

/-- The student at the split is the one that is found. -/
theorem find?_of_split (h : roster.IsSplit id newer student older) :
    roster.find? id = some student := by
  have hnewer : newer.find? (·.id == id) = none := by
    rw [List.find?_eq_none]
    intro other hother
    simp [h.beq_eq_false hother]
  rw [find?, h.students_eq, List.find?_append, hnewer]
  simp [h.id_eq]

/-- The place of the newest match, counted from the oldest student, is the number of students behind
it. -/
theorem place?_of_split (h : roster.IsSplit id newer student older) :
    roster.place? id = some older.length := by
  have hindex : roster.students.findIdx? (·.id == id) = some newer.length := by
    have hnewer : newer.findIdx? (·.id == id) = none :=
      List.findIdx?_eq_none_iff.mpr fun other hother => h.beq_eq_false hother
    rw [h.students_eq, List.findIdx?_append, hnewer]
    simp [List.findIdx?_cons, h.id_eq]
  have hsize : roster.size = newer.length + (older.length + 1) := by
    rw [← length_students, h.students_eq, List.length_append, List.length_cons]
  rw [place?, hindex, Option.map_some, hsize]
  congr 1
  omega

/-- A removal takes the newest match out and leaves the others in their order. -/
theorem take?_of_split (h : roster.IsSplit id newer student older) :
    roster.take? id = some (student, ⟨(older.reverse ++ newer.reverse).toArray⟩) := by
  have harrivals : roster.arrivals = (older.reverse ++ student :: newer.reverse).toArray := by
    rw [arrivals_eq, h.students_eq]
    simp
  have hplace : older.length = older.reverse.length := by simp
  rw [take?, place?_of_split h, harrivals, hplace]
  simp [List.eraseIdx_append_of_length_le]

end split

section absent

/-- No student has an id that is not there. -/
theorem beq_eq_false_of_not_mem_ids (h : id ∉ roster.ids) {other : Student}
    (hother : other ∈ roster.students) : (other.id == id) = false := by
  have hne : other.id ≠ id := fun heq => h (List.mem_map.mpr ⟨other, hother, heq⟩)
  simpa using hne

/-- An id that is not there is not found. -/
theorem find?_of_not_mem_ids (h : id ∉ roster.ids) : roster.find? id = none := by
  rw [find?, List.find?_eq_none]
  intro other hother
  simp [beq_eq_false_of_not_mem_ids h hother]

/-- An id that is not there cannot be taken out. -/
theorem take?_of_not_mem_ids (h : id ∉ roster.ids) : roster.take? id = none := by
  have hindex : roster.students.findIdx? (·.id == id) = none :=
    List.findIdx?_eq_none_iff.mpr fun other hother => beq_eq_false_of_not_mem_ids h hother
  rw [take?, place?, hindex]
  rfl

end absent

/-- The student that is taken out is the one that is found. -/
theorem map_fst_take? (roster : Roster) (id : Int32) :
    (roster.take? id).map Prod.fst = roster.find? id := by
  by_cases h : id ∈ roster.ids
  · obtain ⟨newer, student, older, hsplit⟩ := exists_isSplit h
    rw [take?_of_split hsplit, find?_of_split hsplit, Option.map_some]
  · rw [take?_of_not_mem_ids h, find?_of_not_mem_ids h, Option.map_none]

end StudentRoster.Roster
