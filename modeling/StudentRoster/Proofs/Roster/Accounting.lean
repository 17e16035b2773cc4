import Mathlib.Algebra.GroupWithZero.Nat
import StudentRoster.Proofs.Listing.Lines
import StudentRoster.Proofs.Roster.Crowd
import StudentRoster.Proofs.Roster.FirstWins

/-!
# A loading accounts for every line

The messages of a loading are written down file by file from the texts alone, without the loops that
produce them (`fileMessages`), and the numbers of content lines, of warnings and of students loaded
are shown to agree (`report_load_accounts`). The number of students is told in 32 bits, so that it
is the right one as long as they hold it, and no longer (`loaded_number_wraps`).
-/

set_option autoImplicit false

namespace StudentRoster

/-! ## Messages -/

/-- A note as it is shown: how it is meant, and its wording. -/
def Note.message (note : Note) : NoteLevel × String := (note.level, note.text)

/-- The messages of a report in order. -/
def Report.messages (report : Report) : List (NoteLevel × String) :=
  report.notes.map Note.message

/-- The messages on a file when some ids are taken: one that it cannot be read, or else one for each
faulty line and then one for each good line whose id is taken. -/
def fileMessages (tree : FileTree) (taken : List Int32) (path : String) :
    List (NoteLevel × String) :=
  match tree.readText path with
  | .error cause =>
    [(.warning, "Failed to import " ++ path ++ ": " ++ ("IO error: " ++ cause.message))]
  | .ok text =>
    ((Listing.faultyLines text).map fun line =>
      (.warning, "Skipped " ++ path ++ ": " ++
        ("Parse error on line " ++ toString line.number ++ ": " ++ line.fault.message))) ++
    (latecomers taken (Listing.goodLines text)).map fun student =>
      (.warning, "Skipped duplicate id " ++ idText student.id ++ " in " ++ path)

/-- The number of content lines of a file; none when it cannot be read. -/
def fileContentCount (tree : FileTree) (path : String) : Nat :=
  match tree.readText path with
  | .error _ => 0
  | .ok text => (Listing.contentLines text).length

namespace Note

/-- Whether a note is about a line that does not parse. -/
def isBadLine : Note → Bool
  | .badLine .. => true
  | _ => false

/-- Whether a note is about an id that is taken. -/
def isDuplicateId : Note → Bool
  | .duplicateId .. => true
  | _ => false

/-- A file that cannot be read is told with its cause. -/
theorem message_unreadable (path : String) (cause : FileError) :
    (Note.unreadable path cause).message =
      (.warning, "Failed to import " ++ path ++ ": " ++ ("IO error: " ++ cause.message)) :=
  rfl

end Note

/-- The students of a text are its good lines, recased when a casing is given. -/
theorem latecomers_recased (taken : List Int32) (casing? : Option Casing) (text : String) :
    (latecomers taken ((Listing.ofText text).recased casing?)).map (·.id) =
      (latecomers taken (Listing.goodLines text)).map (·.id) := by
  rw [Listing.ofText_eq]
  cases casing? with
  | none => rfl
  | some casing =>
    rw [Listing.recased, latecomers_map taken (Student.id_recase casing), List.map_map]
    rfl

/-- The notes on a file are shown as its messages. -/
theorem map_message_fileNotes (tree : FileTree) (casing? : Option Casing) (taken : List Int32)
    (path : String) :
    (fileNotes tree casing? taken path).map Note.message = fileMessages tree taken path := by
  rw [fileNotes, fileMessages, fileStudents]
  cases tree.readText path with
  | error cause => rw [List.map_singleton, Note.message_unreadable]
  | ok text =>
    have hlate := congrArg
      (List.map fun id =>
        (NoteLevel.warning, "Skipped duplicate id " ++ idText id ++ " in " ++ path))
      (latecomers_recased taken casing? text)
    rw [List.map_map, List.map_map] at hlate
    simp only [List.map_append, List.map_map, Listing.ofText_eq] at hlate ⊢
    exact congrArg₂ (· ++ ·) rfl hlate

/-- What files tell may be changed file by file. -/
theorem map_pathwise {α β : Type} (f : α → β) (tree : FileTree) (casing? : Option Casing)
    (tell : List Int32 → String → List α) (taken : List Int32) (paths : List String) :
    (pathwise tree casing? tell taken paths).map f =
      pathwise tree casing? (fun taken path => (tell taken path).map f) taken paths := by
  simp [pathwise, List.map_flatMap]

/-! ## Counts -/

section counts

variable (tree : FileTree) (casing? : Option Casing) (taken : List Int32)

/-- A listing has as many students after a recasing. -/
theorem length_recased (listing : Listing) :
    (listing.recased casing?).length = listing.students.length := by
  cases casing? <;> simp [Listing.recased]

/-- The content lines of a file are its notes on bad lines and its students. -/
theorem fileContentCount_eq (path : String) :
    fileContentCount tree path = (fileNotes tree casing? taken path).countP Note.isBadLine +
      (fileStudents tree casing? path).length := by
  rw [fileContentCount, fileNotes, fileStudents]
  cases tree.readText path with
  | error cause => rfl
  | ok text =>
    have hbad (faulty : List BadLine) :
        (faulty.map (Note.badLine path)).countP Note.isBadLine = faulty.length := by
      simp [List.countP_map, Function.comp_def, Note.isBadLine]
    have hlate (late : List Student) :
        (late.map fun s => Note.duplicateId s.id path).countP Note.isBadLine = 0 := by
      simp [List.countP_map, Function.comp_def, Note.isBadLine]
    simp only [List.countP_append, hbad, hlate, length_recased, Listing.ofText_eq, Nat.add_zero,
      Listing.length_contentLines]

/-- The notes of a file on taken ids are its latecomers. -/
theorem countP_isDuplicateId_fileNotes (path : String) :
    (fileNotes tree casing? taken path).countP Note.isDuplicateId =
      (latecomers taken (fileStudents tree casing? path)).length := by
  rw [fileNotes, fileStudents]
  cases tree.readText path with
  | error cause => rfl
  | ok text => simp [List.countP_map, Function.comp_def, Note.isDuplicateId]

/-- The content lines of all files are the notes on bad lines and the students. -/
theorem sum_fileContentCount (paths : List String) :
    (paths.map (fileContentCount tree)).sum =
      (pathwise tree casing? (fileNotes tree casing?) taken paths).countP Note.isBadLine +
        (pathStudents tree casing? paths).length := by
  induction paths generalizing taken with
  | nil => rfl
  | cons path rest ih =>
    have hrest := ih (taken ++ (fileStudents tree casing? path).map (·.id))
    rw [List.map_cons, List.sum_cons, fileContentCount_eq tree casing? taken path, hrest,
      pathwise_cons, List.countP_append, pathStudents_cons, List.length_append]
    omega

/-- The notes on taken ids are the latecomers among the students of all files. -/
theorem countP_isDuplicateId_pathwise (paths : List String) :
    (pathwise tree casing? (fileNotes tree casing?) taken paths).countP Note.isDuplicateId =
      (latecomers taken (pathStudents tree casing? paths)).length := by
  induction paths generalizing taken with
  | nil => rfl
  | cons path rest ih =>
    rw [pathwise_cons, List.countP_append, countP_isDuplicateId_fileNotes, ih, pathStudents_cons,
      latecomers_append, List.length_append]

/-- No note on a file is an error. -/
theorem level_of_mem_fileNotes {path : String} {note : Note}
    (h : note ∈ fileNotes tree casing? taken path) : note.level = .warning := by
  unfold fileNotes at h
  split at h
  · rcases List.mem_append.mp h with hbad | hlate
    · obtain ⟨line, _, rfl⟩ := List.mem_map.mp hbad
      rfl
    · obtain ⟨student, _, rfl⟩ := List.mem_map.mp hlate
      rfl
  · rw [List.mem_singleton.mp h]
    rfl

/-- No note on any of the files is an error. -/
theorem level_of_mem_pathwise {paths : List String} {note : Note}
    (h : note ∈ pathwise tree casing? (fileNotes tree casing?) taken paths) :
    note.level = .warning := by
  obtain ⟨entry, _, hnote⟩ := List.mem_flatMap.mp h
  exact level_of_mem_fileNotes tree casing? _ hnote

end counts

namespace Roster

/-- The messages of a loading are, file by file, those on what was passed over, and last the number
of students loaded. By as many students the roster grows, if they are fewer than 32 bits count, and
otherwise the number has wrapped. With the two numbers of warnings about lines these students make
up the number of content lines. The faulty lines of each text come in the order of their numbers,
and no message is an error. -/
theorem report_load_accounts (roster : Roster) (tree : FileTree) (paths : List String)
    (casing? : Option Casing) :
    ∃ (count : Nat) (shown : Int),
      (roster.load tree paths casing?).2.messages =
        pathwise tree casing? (fileMessages tree) roster.ids paths ++
          [(.info, "Loaded " ++ toString shown ++ " records")] ∧
      (count < 2 ^ 31 → shown = count) ∧ shown = (count : Int).bmod (2 ^ 32) ∧
      (roster.load tree paths casing?).1.size = roster.size + count ∧
      (paths.map (fileContentCount tree)).sum =
        (roster.load tree paths casing?).2.notes.countP Note.isBadLine +
          (roster.load tree paths casing?).2.notes.countP Note.isDuplicateId + count ∧
      (∀ text, ((Listing.faultyLines text).map (·.number)).Pairwise (· < ·)) ∧
      (roster.load tree paths casing?).2.hasErrors = false := by
  refine ⟨(newcomers roster.ids (pathStudents tree casing? paths)).length, _, ?_,
    Int32.toInt_ofNat_of_lt, Int32.toInt_ofNat', ?_, ?_, Listing.pairwise_number_faultyLines, ?_⟩
  · simp only [load_eq, Report.messages, List.map_append, map_pathwise, map_message_fileNotes]
    rfl
  · exact roster.size_load tree paths casing?
  · have hsplit := length_newcomers_add_length_latecomers roster.ids
      (pathStudents tree casing? paths)
    rw [load_eq, sum_fileContentCount tree casing? roster.ids]
    simp only [List.countP_append, countP_isDuplicateId_pathwise, List.countP_singleton,
      Note.isBadLine, Note.isDuplicateId, Bool.false_eq_true, if_false]
    omega
  · rw [load_eq, Report.hasErrors, List.any_append, Bool.or_eq_false_iff]
    refine ⟨List.any_eq_false.mpr fun note hnote => ?_, rfl⟩
    obtain ⟨entry, _, hmem⟩ := List.mem_flatMap.mp hnote
    rw [level_of_mem_fileNotes tree casing? _ hmem]
    decide

/-- More students can come in than 32 bits count, and then another number of them is told. -/
theorem loaded_number_wraps :
    ¬ ∀ (roster : Roster) (tree : FileTree) (paths : List String) (casing? : Option Casing),
        ∃ count : Nat,
          (roster.load tree paths casing?).2.messages.getLast? =
            some (.info, "Loaded " ++ toString count ++ " records") ∧
          (roster.load tree paths casing?).1.size = roster.size + count := by
  intro h
  obtain ⟨count, htold, hsize⟩ := h .empty (crowd (2 ^ 30) (2 ^ 30)) ["a.txt", "b.txt"] none
  obtain ⟨hgrown, hlast⟩ := @load_crowd (2 ^ 30) (2 ^ 30) (by decide)
  have hcount : count = 2 ^ 31 := by
    have hnone : empty.size = 0 := rfl
    omega
  rw [Report.messages, List.getLast?_map, hlast, Option.map_some, Option.some.injEq,
      hcount] at htold
  exact absurd htold (by decide +kernel)

end Roster

end StudentRoster
