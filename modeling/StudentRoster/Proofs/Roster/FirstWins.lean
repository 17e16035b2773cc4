import Mathlib.Data.List.Nodup
import StudentRoster.Proofs.Roster.Load

/-!
# The first student of an id wins

What a loading adds to a roster is exactly the newcomers among the students of its files, in their
order and behind the students that were there (`load_first_wins`). So no student is replaced, and
ids that were distinct stay distinct.
-/

set_option autoImplicit false

namespace StudentRoster

/-- No two newcomers have the same id. -/
theorem nodup_ids_newcomers (taken : List Int32) (offered : List Student) :
    ((newcomers taken offered).map (·.id)).Nodup := by
  induction offered generalizing taken with
  | nil => simp
  | cons student rest ih =>
    rw [newcomers_cons, List.map_append]
    by_cases h : student.id ∈ taken
    · rw [if_pos h]
      exact ih (student.id :: taken)
    · rw [if_neg h, List.map_singleton, List.singleton_append, List.nodup_cons]
      refine ⟨fun hmem => ?_, ih (student.id :: taken)⟩
      obtain ⟨other, hother, hid⟩ := List.mem_map.mp hmem
      exact not_mem_of_mem_newcomers hother (by simp [hid])

/-- A file that cannot be read offers nothing. -/
theorem pathStudents_filter (tree : FileTree) (casing? : Option Casing) (paths : List String) :
    pathStudents tree casing? (paths.filter fun path => (tree.readText path).isOk) =
      pathStudents tree casing? paths := by
  induction paths with
  | nil => rfl
  | cons path rest ih =>
    rw [List.filter_cons, pathStudents_cons, ← ih]
    cases hread : tree.readText path with
    | ok text => rfl
    | error cause => simp [fileStudents, hread, Except.isOk, Except.toBool]

namespace Roster

/-- Students that are inserted arrive behind the others in their order. -/
theorem arrivals_insertAll (roster : Roster) (students : List Student) :
    (roster.insertAll students).arrivals.toList = roster.arrivals.toList ++ students := by
  have h := roster.students_insertAll students
  rw [Roster.students, Roster.students, ← List.reverse_append] at h
  exact List.reverse_inj.mp h

/-- Newcomers bring no id twice and none that is taken. -/
theorem nodup_ids_insertAll_newcomers (roster : Roster) (offered : List Student) :
    (roster.insertAll (newcomers roster.ids offered)).ids.Nodup ↔ roster.ids.Nodup := by
  rw [ids, students_insertAll, List.map_append, List.map_reverse, ← ids, List.nodup_append]
  refine ⟨fun h => h.2.1, fun h => ⟨?_, h, ?_⟩⟩
  · exact List.nodup_reverse.mpr (nodup_ids_newcomers roster.ids offered)
  · intro id hnew taken htaken heq
    obtain ⟨student, hstudent, hid⟩ := List.mem_map.mp (List.mem_reverse.mp hnew)
    exact not_mem_of_mem_newcomers hstudent (by rw [hid, heq]; exact htaken)

/-- A loading never fails. It leaves the students that were there and puts behind them, in order,
exactly those students of its files whose id neither they nor a student before carry. Files that
cannot be read make no difference, and distinct ids stay distinct. -/
theorem load_first_wins (roster : Roster) (tree : FileTree) (paths : List String)
    (casing? : Option Casing) :
    roster.tryLoad tree paths casing? = .ok (roster.load tree paths casing?) ∧
    (roster.load tree paths casing?).1.arrivals.toList =
      roster.arrivals.toList ++ newcomers roster.ids (pathStudents tree casing? paths) ∧
    (roster.load tree (paths.filter fun path => (tree.readText path).isOk) casing?).1 =
      (roster.load tree paths casing?).1 ∧
    ((roster.load tree paths casing?).1.ids.Nodup ↔ roster.ids.Nodup) := by
  refine ⟨roster.tryLoad_eq_ok tree paths casing?, ?_, ?_, ?_⟩
  · rw [load_eq, arrivals_insertAll]
  · rw [load_eq, load_eq, pathStudents_filter]
  · rw [load_eq]
    exact nodup_ids_insertAll_newcomers roster _

end Roster

end StudentRoster
