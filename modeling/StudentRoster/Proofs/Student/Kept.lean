import StudentRoster.Proofs.Gpa.Exact
import StudentRoster.Proofs.Student.Reread

/-!
# What a line keeps of a student

A line gives id, names and major back exactly when names and major can stand on a line, and then
what it shows of the average is kept for good: the student that is read has the same line
(`line_keeps`). Of the average itself something is lost only the first time, and nothing if it is
the one that is nearest to a decimal with two places.
-/

set_option autoImplicit false

namespace StudentRoster.Student

open Text

/-- All parts of two students but the averages are the same. -/
structure SameButGpa (s r : Student) : Prop where
  id : r.id = s.id
  firstName : r.firstName = s.firstName
  lastName : r.lastName = s.lastName
  major : r.major = s.major

/-- A line can be read as a student who is the same but for the average exactly when names and major
are fields. -/
theorem exists_ofLine_line_iff (s : Student) :
    (∃ r, ofLine s.line = .ok r ∧ s.SameButGpa r) ↔ s.IsWellFormed := by
  constructor
  · rintro ⟨r, hread, -, hfirst, hlast, hmajor⟩
    obtain ⟨hfield, hfield', hfield''⟩ := isWellFormed_of_ofLine hread
    exact ⟨hfirst ▸ hfield, hlast ▸ hfield', hmajor ▸ hfield''⟩
  · intro h
    exact ⟨s.reread, ofLine_line h, rfl, rfl, rfl, rfl⟩

/-- A line is read as a student with the same id, names and major exactly when names and major are
not empty and without blanks. That student has the same line. Its average is that of the student,
bit for bit, exactly when this is infinite or the nearest to a decimal with two places; when this is
no number, neither is the one that is read. -/
theorem line_keeps (s : Student) :
    ((∃ r, ofLine s.line = .ok r ∧ s.SameButGpa r) ↔
      IsField s.firstName.toList ∧ IsField s.lastName.toList ∧ IsField s.major.toList) ∧
    ∀ r, ofLine s.line = .ok r → s.SameButGpa r →
      r.line = s.line ∧
        if s.gpa.isNaN then r.gpa.isNaN = true
        else r.gpa = s.gpa ↔
          s.gpa.isInfinite = true ∨ ∃ negative n, s.gpa.IsNearestTo negative n := by
  refine ⟨s.exists_ofLine_line_iff.trans s.isWellFormed_iff, fun r hread hsame => ?_⟩
  have hformed : s.IsWellFormed := s.exists_ofLine_line_iff.mp ⟨r, hread, hsame⟩
  obtain rfl : s.reread = r := Except.ok.inj ((ofLine_line hformed).symm.trans hread)
  refine ⟨s.printsAs_reread.line_eq, ?_⟩
  have hgpa : s.reread.gpa = s.gpa.reread := rfl
  rw [hgpa]
  by_cases hnan : s.gpa.isNaN = true
  · rw [if_pos hnan, Gpa.reread, if_pos hnan]
    decide
  · rw [if_neg hnan]
    by_cases hinf : s.gpa.isInfinite = true
    · exact iff_of_true (Gpa.reread_of_isInfinite hinf) (.inl hinf)
    · rw [Gpa.reread_eq_iff (Gpa.lt_infinity_of_not hnan hinf)]
      exact (or_iff_right hinf).symm

end StudentRoster.Student
