import StudentRoster.Proofs.Roster.FirstWins

/-!
# Recasing while loading or afterwards

A recasing changes no id, and ids are all that a loading looks at when it decides who comes in and
what there is to tell. So a loading that recases what it reads decides as one that does not, and
brings the same students once these are recased (`load_then_recase`).
-/

set_option autoImplicit false

namespace StudentRoster

/-! ## What recased files offer -/

section files

variable (tree : FileTree) (casing : Casing) (taken : List Int32)

/-- A casing recases the students that a file offers. -/
theorem fileStudents_some (path : String) :
    fileStudents tree (some casing) path =
      (fileStudents tree none path).map (Student.recase casing) := by
  rw [fileStudents, fileStudents]
  cases tree.readText path with
  | error cause => rfl
  | ok text => rfl

/-- A casing recases the students that all files offer. -/
theorem pathStudents_some (paths : List String) :
    pathStudents tree (some casing) paths =
      (pathStudents tree none paths).map (Student.recase casing) := by
  rw [pathStudents, pathStudents, List.map_flatMap]
  exact congrArg (List.flatMap · paths) (funext fun path => fileStudents_some tree casing path)

/-- The same ids are taken by the time that a file is read. -/
theorem ids_pathStudents_some (paths : List String) :
    (pathStudents tree (some casing) paths).map (·.id) =
      (pathStudents tree none paths).map (·.id) := by
  rw [pathStudents_some, List.map_map]
  rfl

/-- The ids that files offer do not depend on the casing. -/
theorem ids_pathStudents (casing? : Option Casing) (paths : List String) :
    (pathStudents tree casing? paths).map (·.id) = (pathStudents tree none paths).map (·.id) := by
  cases casing? with
  | none => rfl
  | some casing => exact ids_pathStudents_some tree casing paths

/-- The notes on a file do not depend on the casing. -/
theorem fileNotes_some : fileNotes tree (some casing) = fileNotes tree none := by
  funext taken path
  rw [fileNotes, fileNotes, fileStudents_some, latecomers_map taken (Student.id_recase casing),
    List.map_map]
  rfl

/-- The events of a file do not depend on the casing. -/
theorem fileEvents_some : fileEvents tree (some casing) = fileEvents tree none := by
  funext taken path
  rw [fileEvents, fileEvents, fileStudents_some, newcomers_map taken (Student.id_recase casing),
    List.map_map]
  rfl

/-- What files tell by the ids taken does not depend on the casing. -/
theorem pathwise_some {α : Type} (tell : List Int32 → String → List α) (paths : List String) :
    pathwise tree (some casing) tell taken paths = pathwise tree none tell taken paths := by
  simp only [pathwise, ids_pathStudents_some]

end files

/-! ## The two orders -/

namespace Roster

/-- Recased students have arrived in the same order. -/
theorem arrivals_recase (roster : Roster) (casing : Casing) :
    (roster.recase casing).arrivals.toList =
      roster.arrivals.toList.map (Student.recase casing) := by
  rw [recase, Array.toList_map]

/-- A recased roster has the same ids. -/
theorem ids_recase (roster : Roster) (casing : Casing) :
    (roster.recase casing).ids = roster.ids := by
  simp [ids]

/-- Rosters in which the same students have arrived are the same. -/
theorem eq_of_arrivals_toList {roster other : Roster}
    (h : roster.arrivals.toList = other.arrivals.toList) : roster = other := by
  obtain ⟨arrivals⟩ := roster
  obtain ⟨others⟩ := other
  obtain rfl : arrivals = others := Array.toList_inj.mp h
  rfl

/-- A loading that recases reports the same as one that does not. -/
theorem load_some_snd (roster : Roster) (tree : FileTree) (paths : List String) (casing : Casing) :
    (roster.load tree paths (some casing)).2 = (roster.load tree paths none).2 := by
  have hcount : (newcomers roster.ids (pathStudents tree (some casing) paths)).length =
      (newcomers roster.ids (pathStudents tree none paths)).length := by
    rw [pathStudents_some, newcomers_map roster.ids (Student.id_recase casing), List.length_map]
  simp only [load_eq, fileNotes_some, fileEvents_some, pathwise_some, hcount]

/-- Whether students are recased while they are loaded or afterwards, the loading succeeds with the
same report, and the same students come in behind those that were there. In the one case these stay
as they were, in the other they are recased with the rest. So a loading into an empty roster gives
the same roster in both cases. -/
theorem load_then_recase (roster : Roster) (tree : FileTree) (paths : List String)
    (casing : Casing) :
    ∃ (during before : Roster) (report : Report) (added : List Student),
      roster.tryLoad tree paths (some casing) = .ok (during, report) ∧
      roster.tryLoad tree paths none = .ok (before, report) ∧
      during.arrivals.toList = roster.arrivals.toList ++ added ∧
      (before.recase casing).arrivals.toList =
        roster.arrivals.toList.map (Student.recase casing) ++ added ∧
      (roster = empty → during = before.recase casing) := by
  let during := (roster.load tree paths (some casing)).1
  let before := (roster.load tree paths none).1
  let read := newcomers roster.ids (pathStudents tree none paths)
  have hduring : during.arrivals.toList =
      roster.arrivals.toList ++ read.map (Student.recase casing) := by
    simp only [during, read, load_eq, arrivals_insertAll, pathStudents_some,
      newcomers_map roster.ids (Student.id_recase casing)]
  have hafter : (before.recase casing).arrivals.toList =
      roster.arrivals.toList.map (Student.recase casing) ++ read.map (Student.recase casing) := by
    simp only [before, read, load_eq, arrivals_recase, arrivals_insertAll, List.map_append]
  refine ⟨during, before, (roster.load tree paths none).2, read.map (Student.recase casing),
    ?_, roster.tryLoad_eq_ok tree paths none, hduring, hafter, ?_⟩
  · rw [tryLoad_eq_ok, ← load_some_snd]
  · rintro rfl
    exact eq_of_arrivals_toList (hduring.trans hafter.symm)

end Roster

end StudentRoster
