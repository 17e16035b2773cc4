import StudentRoster.Proofs.Roster.Newcomers
import StudentRoster.Roster.Load

/-!
# What a loading does

A loading never fails, and each of its loops has a closed form: the newcomers among the students of
the files are inserted, and the notes name, file by file, what was passed over. The loops are
unfolded here once, from one student (`enroll_eq_ok`) to all files (`addFiles_eq_ok`); what holds of
a loading is read off the last form.
-/

set_option autoImplicit false

namespace StudentRoster

/-! ## What the files offer -/

/-- The students of a file, recased when a casing is given; none when it cannot be read. -/
def fileStudents (tree : FileTree) (casing? : Option Casing) (path : String) : List Student :=
  match tree.readText path with
  | .ok text => (Listing.ofText text).recased casing?
  | .error _ => []

/-- The students of all files in order. A path that is listed twice counts twice. -/
def pathStudents (tree : FileTree) (casing? : Option Casing) (paths : List String) :
    List Student :=
  paths.flatMap (fileStudents tree casing?)

/-- The notes on a file when some ids are taken: that it cannot be read, or else its bad lines and
then its latecomers. -/
def fileNotes (tree : FileTree) (casing? : Option Casing) (taken : List Int32) (path : String) :
    List Note :=
  match tree.readText path with
  | .ok text =>
    (Listing.ofText text).badLines.map (.badLine path) ++
      (latecomers taken (fileStudents tree casing? path)).map fun s => .duplicateId s.id path
  | .error cause => [.unreadable path cause]

/-- The events of a file when some ids are taken. -/
def fileEvents (tree : FileTree) (casing? : Option Casing) (taken : List Int32) (path : String) :
    List Event :=
  match tree.readText path with
  | .ok text =>
    (Listing.ofText text).badLines.map (.badLine path) ++
      (newcomers taken (fileStudents tree casing? path)).map fun s => .inserting s.id
  | .error cause => [.unreadable path cause]

/-- What all files in order have to tell, file by file. A file finds the ids taken that the students
of the files before it carry. -/
def pathwise {α : Type} (tree : FileTree) (casing? : Option Casing)
    (tell : List Int32 → String → List α) (taken : List Int32) (paths : List String) : List α :=
  paths.zipIdx.flatMap fun entry =>
    tell (taken ++ (pathStudents tree casing? (paths.take entry.2)).map (·.id)) entry.1

section paths

variable {α : Type} (tree : FileTree) (casing? : Option Casing)
variable (tell : List Int32 → String → List α) (taken : List Int32)

/-- The students of the first file come before those of the others. -/
theorem pathStudents_cons (path : String) (rest : List String) :
    pathStudents tree casing? (path :: rest) =
      fileStudents tree casing? path ++ pathStudents tree casing? rest :=
  rfl

/-- The others find those ids taken, too, that the first file offers. -/
theorem pathwise_cons (path : String) (rest : List String) :
    pathwise tree casing? tell taken (path :: rest) = tell taken path ++
      pathwise tree casing? tell (taken ++ (fileStudents tree casing? path).map (·.id)) rest := by
  simp [pathwise, List.zipIdx_succ, List.flatMap_map, pathStudents]

/-- The students of some files come before those of the files behind them. -/
theorem pathStudents_append (front back : List String) :
    pathStudents tree casing? (front ++ back) =
      pathStudents tree casing? front ++ pathStudents tree casing? back :=
  List.flatMap_append

/-- Files find those ids taken, too, that the files in front of them offer. -/
theorem pathwise_append (front back : List String) :
    pathwise tree casing? tell taken (front ++ back) =
      pathwise tree casing? tell taken front ++
        pathwise tree casing? tell
          (taken ++ (pathStudents tree casing? front).map (·.id)) back := by
  induction front generalizing taken with
  | nil => simp [pathStudents, pathwise]
  | cons path rest ih =>
    rw [List.cons_append, pathwise_cons, ih, pathwise_cons, pathStudents_cons, List.map_append,
      List.append_assoc, List.append_assoc]

end paths

namespace Loading

/-! ## One student -/

/-- A student comes in or is noted, by whether its id is taken. -/
theorem enroll_eq_ok (path : String) (loading : Loading) (student : Student) :
    enroll path loading student = .ok
      (if student.id ∈ loading.roster.ids then
        { loading with notes := loading.notes ++ [.duplicateId student.id path] }
      else
        { loading with
          roster := loading.roster.insert student
          events := loading.events ++ [.inserting student.id]
          count := loading.count + 1 }) := by
  rw [enroll, Roster.enroll]
  by_cases h : loading.roster.contains student.id = true
  · rw [if_pos h, if_pos (Roster.contains_eq_true_iff.mp h)]
  · rw [if_neg h, if_neg (mt Roster.contains_eq_true_iff.mpr h)]

/-! ## The students of one file -/

/-- A student that is inserted brings the own id to the front. -/
theorem ids_insert (roster : Roster) (student : Student) :
    (roster.insert student).ids = student.id :: roster.ids := by
  simp [Roster.ids]

/-- The newcomers among the students of a file come in and its latecomers are noted. -/
theorem foldlM_enroll_eq_ok (path : String) (loading : Loading) (students : List Student) :
    students.foldlM (enroll path) loading = .ok
      { roster := loading.roster.insertAll (newcomers loading.roster.ids students)
        notes := loading.notes ++
          (latecomers loading.roster.ids students).map fun s => .duplicateId s.id path
        events := loading.events ++
          (newcomers loading.roster.ids students).map fun s => .inserting s.id
        count := loading.count + Int32.ofNat (newcomers loading.roster.ids students).length } := by
  induction students generalizing loading with
  | nil => simp [Roster.insertAll, pure, Except.pure]
  | cons student rest ih =>
    rw [List.foldlM_cons, enroll_eq_ok]
    show List.foldlM (enroll path) _ rest = _
    rw [newcomers_cons, latecomers_cons, ih]
    by_cases h : student.id ∈ loading.roster.ids
    · have hsame (id : Int32) :
          id ∈ loading.roster.ids ↔ id ∈ student.id :: loading.roster.ids := by
        rw [List.mem_cons]
        exact (or_iff_right_of_imp fun hid => hid ▸ h).symm
      simp [h, newcomers_congr hsame, latecomers_congr hsame]
    · have hcount (others : Nat) :
          loading.count + 1 + Int32.ofNat others = loading.count + Int32.ofNat (others + 1) := by
        rw [Int32.add_assoc, Nat.add_comm, Int32.ofNat_add]
        rfl
      simp [h, ids_insert, Roster.insertAll, hcount]

/-! ## One file and all files -/

/-- A file is read as a text and the text as a listing. -/
theorem ofFile_eq (tree : FileTree) (path : String) :
    Listing.ofFile tree path = (tree.readText path).map Listing.ofText :=
  rfl

/-- A file brings its newcomers and leaves its notes. -/
theorem addFile_eq_ok (tree : FileTree) (casing? : Option Casing) (loading : Loading)
    (path : String) :
    addFile tree casing? loading path = .ok
      { roster := loading.roster.insertAll
          (newcomers loading.roster.ids (fileStudents tree casing? path))
        notes := loading.notes ++ fileNotes tree casing? loading.roster.ids path
        events := loading.events ++ fileEvents tree casing? loading.roster.ids path
        count := loading.count + Int32.ofNat
          (newcomers loading.roster.ids (fileStudents tree casing? path)).length } := by
  rw [addFile, ofFile_eq, fileNotes, fileEvents, fileStudents]
  cases tree.readText path with
  | error cause => simp [Except.map, Roster.insertAll]
  | ok text => simp [Except.map, addListing, foldlM_enroll_eq_ok]

/-- After students were inserted, their ids are taken besides those from before. -/
theorem mem_ids_insertAll (roster : Roster) (students : List Student) (id : Int32) :
    id ∈ (roster.insertAll students).ids ↔ id ∈ roster.ids ∨ id ∈ students.map (·.id) := by
  simp [Roster.ids, or_comm]

/-- Students may be inserted in two parts. -/
theorem insertAll_append (roster : Roster) (front back : List Student) :
    roster.insertAll (front ++ back) = (roster.insertAll front).insertAll back :=
  List.foldl_append

/-- After a file its ids are taken too. -/
theorem mem_ids_insertAll_newcomers (roster : Roster) (students : List Student) (id : Int32) :
    id ∈ (roster.insertAll (newcomers roster.ids students)).ids ↔
      id ∈ roster.ids ++ students.map (·.id) := by
  rw [mem_ids_insertAll, mem_ids_newcomers, List.mem_append]

/-- What files tell depends only on which ids are taken, if that holds of each file. -/
theorem pathwise_congr {α : Type} {taken other : List Int32} (tree : FileTree)
    (casing? : Option Casing) {tell : List Int32 → String → List α}
    (htell : ∀ taken other : List Int32, (∀ id, id ∈ taken ↔ id ∈ other) →
      ∀ path, tell taken path = tell other path)
    (h : ∀ id, id ∈ taken ↔ id ∈ other) (paths : List String) :
    pathwise tree casing? tell taken paths = pathwise tree casing? tell other paths := by
  rw [pathwise, pathwise]
  congr 1
  funext entry
  exact htell _ _ (fun id => by simp [h]) entry.1

/-- The notes on a file depend only on which ids are taken. -/
theorem fileNotes_congr (tree : FileTree) (casing? : Option Casing) (taken other : List Int32)
    (h : ∀ id, id ∈ taken ↔ id ∈ other) (path : String) :
    fileNotes tree casing? taken path = fileNotes tree casing? other path := by
  simp only [fileNotes, latecomers_congr h]

/-- The events of a file depend only on which ids are taken. -/
theorem fileEvents_congr (tree : FileTree) (casing? : Option Casing) (taken other : List Int32)
    (h : ∀ id, id ∈ taken ↔ id ∈ other) (path : String) :
    fileEvents tree casing? taken path = fileEvents tree casing? other path := by
  simp only [fileEvents, newcomers_congr h]

/-- The files bring the newcomers among all their students and leave their notes in order. -/
theorem addFiles_eq_ok (tree : FileTree) (casing? : Option Casing) (loading : Loading)
    (paths : List String) :
    addFiles tree casing? loading paths = .ok
      { roster := loading.roster.insertAll
          (newcomers loading.roster.ids (pathStudents tree casing? paths))
        notes := loading.notes ++
          pathwise tree casing? (fileNotes tree casing?) loading.roster.ids paths
        events := loading.events ++
          pathwise tree casing? (fileEvents tree casing?) loading.roster.ids paths
        count := loading.count + Int32.ofNat
          (newcomers loading.roster.ids (pathStudents tree casing? paths)).length } := by
  induction paths generalizing loading with
  | nil => simp [addFiles, pathStudents, pathwise, Roster.insertAll, pure, Except.pure]
  | cons path rest ih =>
    -- the ids that the rest finds taken are those of the roster after the first file
    have htaken := mem_ids_insertAll_newcomers loading.roster (fileStudents tree casing? path)
    rw [addFiles, List.foldlM_cons, addFile_eq_ok]
    show addFiles tree casing? _ rest = _
    rw [ih, pathStudents_cons, pathwise_cons, pathwise_cons, newcomers_append, insertAll_append,
      newcomers_congr htaken, pathwise_congr tree casing? (fileNotes_congr tree casing?) htaken,
      pathwise_congr tree casing? (fileEvents_congr tree casing?) htaken]
    simp only [List.append_assoc, List.length_append, Int32.ofNat_add, Int32.add_assoc]

end Loading

namespace Roster

variable (roster : Roster) (tree : FileTree) (paths : List String) (casing? : Option Casing)

/-- A loading never fails. -/
theorem tryLoad_eq_ok :
    roster.tryLoad tree paths casing? = .ok (roster.load tree paths casing?) := by
  rw [load, tryLoad, Loading.addFiles_eq_ok]
  rfl

/-- The roster and the report of a loading. The number that it tells has 32 bits. -/
theorem load_eq :
    roster.load tree paths casing? =
      (roster.insertAll (newcomers roster.ids (pathStudents tree casing? paths)),
        { notes := pathwise tree casing? (fileNotes tree casing?) roster.ids paths ++
            [.loaded (.ofNat (newcomers roster.ids (pathStudents tree casing? paths)).length)]
          events := pathwise tree casing? (fileEvents tree casing?) roster.ids paths ++
            [.loaded
              (.ofNat (newcomers roster.ids (pathStudents tree casing? paths)).length)] }) := by
  rw [load, tryLoad, Loading.addFiles_eq_ok]
  simp [Except.map, Loading.report]

/-- A roster grows by the students that come in. -/
theorem size_load :
    (roster.load tree paths casing?).1.size =
      roster.size + (newcomers roster.ids (pathStudents tree casing? paths)).length := by
  rw [load_eq, size_insertAll]

/-- The last note of a loading tells the number of students that came in. -/
theorem getLast?_notes_load :
    (roster.load tree paths casing?).2.notes.getLast? =
      some (.loaded (.ofNat (newcomers roster.ids (pathStudents tree casing? paths)).length)) := by
  rw [load_eq]
  exact List.getLast?_concat

end Roster

end StudentRoster
