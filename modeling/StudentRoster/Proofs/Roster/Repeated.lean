import StudentRoster.Proofs.Listing.Lines
import StudentRoster.Proofs.Roster.Actions
import StudentRoster.Proofs.Roster.Recasing
import StudentRoster.Roster.Query

/-!
# A repeated loading

After a loading the roster has every id that the files carry, whether the student of a line came in
or was passed over. Questions and recasing leave the ids alone, and so does a casing of the loading
itself. Hence files that are loaded again bring nobody, and every good line is noted as one whose id
is taken (`load_again`).
-/

set_option autoImplicit false

namespace StudentRoster

/-! ## Between two loadings -/

/-- A question to a roster, or a recasing of all students. -/
inductive RosterQuery where
  | list
  | get (id : Int32)
  | lastName (name : String)
  | major (query : String)
  | check (id : Int32)
  | normalize (casing : Casing)
  deriving DecidableEq, Repr

namespace Roster

/-- The roster after a query, and the answer. -/
def answer (roster : Roster) : RosterQuery → Roster × Except Failure Report
  | .list => (roster, .ok roster.listAll)
  | .get id => (roster, .ok (roster.lookUp id))
  | .lastName name => (roster, .ok (roster.searchLastName name))
  | .major query => (roster, roster.searchMajor query)
  | .check id => (roster, .ok (roster.check id))
  | .normalize casing => ((roster.normalize casing).1, .ok (roster.normalize casing).2)

/-- No query changes the ids. -/
theorem ids_answer (roster : Roster) (query : RosterQuery) :
    (roster.answer query).1.ids = roster.ids := by
  cases query with
  | normalize casing => exact roster.ids_recase casing
  | list | get id | lastName name | major query | check id => rfl

/-- No run of queries changes the ids. -/
theorem ids_runActions_answer (roster : Roster) (queries : List RosterQuery) :
    (runActions answer roster queries).1.ids = roster.ids := by
  induction queries generalizing roster with
  | nil => rfl
  | cons query rest ih => exact (ih (roster.answer query).1).trans (roster.ids_answer query)

end Roster

/-! ## Files whose ids are taken -/

/-- The notes on a file all of whose ids are taken: that it cannot be read, or else its faulty lines
and then every good line. -/
def repeatNotes (tree : FileTree) (path : String) : List Note :=
  match tree.readText path with
  | .error cause => [.unreadable path cause]
  | .ok text =>
    (Listing.faultyLines text).map (.badLine path) ++
      (Listing.goodLines text).map fun student => .duplicateId student.id path

section files

variable {tree : FileTree} {taken : List Int32}

/-- When all ids of a file are taken, its notes are those of a repetition. -/
theorem fileNotes_eq_repeatNotes {path : String}
    (h : ∀ student ∈ fileStudents tree none path, student.id ∈ taken) :
    fileNotes tree none taken path = repeatNotes tree path := by
  rw [fileNotes, repeatNotes, latecomers_eq_self taken h, fileStudents]
  cases tree.readText path with
  | error cause => rfl
  | ok text =>
    simp only [Listing.ofText_eq]
    rfl

/-- When all ids of all files are taken, the notes are those of a repetition. -/
theorem pathwise_eq_repeatNotes {paths : List String}
    (h : ∀ student ∈ pathStudents tree none paths, student.id ∈ taken) :
    pathwise tree none (fileNotes tree none) taken paths = paths.flatMap (repeatNotes tree) := by
  induction paths generalizing taken with
  | nil => rfl
  | cons path rest ih =>
    rw [pathStudents_cons, List.forall_mem_append] at h
    have hrest := ih fun student hstudent =>
      List.mem_append_left ((fileStudents tree none path).map (·.id)) (h.2 student hstudent)
    rw [pathwise_cons, fileNotes_eq_repeatNotes h.1, hrest, List.flatMap_cons]

end files

namespace Roster

variable (roster : Roster) (tree : FileTree) (casing? : Option Casing)

/-- After a loading every id is taken that some line of the files carries. -/
theorem mem_ids_load_of_mem {paths : List String} {student : Student}
    (h : student ∈ pathStudents tree none paths) :
    student.id ∈ (roster.load tree paths casing?).1.ids := by
  have hid : student.id ∈ (pathStudents tree casing? paths).map (·.id) := by
    rw [ids_pathStudents]
    exact List.mem_map_of_mem h
  rw [load_eq]
  apply (Loading.mem_ids_insertAll_newcomers roster _ _).mpr
  exact List.mem_append_right roster.ids hid

/-- When all ids are taken that the files carry, a loading changes nothing. -/
theorem load_of_taken {paths : List String}
    (h : ∀ student ∈ pathStudents tree none paths, student.id ∈ roster.ids) :
    (roster.load tree paths casing?).1 = roster ∧
      (roster.load tree paths casing?).2.notes =
        paths.flatMap (repeatNotes tree) ++ [.loaded 0] := by
  have hplain : roster.load tree paths none =
      (roster, { (roster.load tree paths none).2 with
        notes := paths.flatMap (repeatNotes tree) ++ [.loaded 0] }) := by
    rw [load_eq, newcomers_eq_nil roster.ids h, pathwise_eq_repeatNotes h]
    rfl
  cases casing? with
  | none =>
    rw [hplain]
    exact ⟨rfl, rfl⟩
  | some casing =>
    rw [load_some_snd, hplain, load_eq, pathStudents_some,
      newcomers_map roster.ids (Student.id_recase casing), newcomers_eq_nil roster.ids h]
    exact ⟨rfl, rfl⟩

/-- After a loading and any queries, a loading of any of the same files, whatever the casing of the
one and of the other, leaves the roster as it is and reports that nobody came in. Each good line is
noted as one whose id is taken, and the other notes are those on faulty lines and unreadable files.
-/
theorem load_again (other? : Option Casing) {paths again : List String}
    (h : ∀ path ∈ again, path ∈ paths) (queries : List RosterQuery) :
    let later := (runActions answer (roster.load tree paths casing?).1 queries).1
    (later.load tree again other?).1 = later ∧
      (later.load tree again other?).2.notes = again.flatMap (repeatNotes tree) ++ [.loaded 0] := by
  intro later
  -- the first loading took all ids that the files carry, and what came between left them there
  apply load_of_taken
  intro student hstudent
  obtain ⟨path, hpath, hmem⟩ := List.mem_flatMap.mp hstudent
  have hoffered : student ∈ pathStudents tree none paths :=
    List.mem_flatMap.mpr ⟨path, h path hpath, hmem⟩
  rw [ids_runActions_answer]
  exact mem_ids_load_of_mem roster tree casing? hoffered

/-- A file with a repeated id and a faulty line, loaded plainly and then recased, together with a
file that is missing. -/
theorem load_again_recased :
    let tree := (FileTree.empty []).place ["a"]
      (.file "1 ann lee 3 csc\n1 bo ray 2 art\n2 cy\n3 di wu 3 bio\n".toUTF8)
    let queries : List RosterQuery := [.normalize .legacy, .major "bi"]
    let later := (runActions answer (empty.load tree ["b", "a"] none).1 queries).1
    (∀ path ∈ ["a", "b"], path ∈ ["b", "a"]) ∧ later.ids = [3, 1] ∧
      (later.load tree ["a", "b"] (some .title)).1 = later ∧
      (later.load tree ["a", "b"] (some .title)).2.notes =
        [.badLine "a" ⟨3, .fieldCount 2⟩, .duplicateId 1 "a", .duplicateId 1 "a",
          .duplicateId 3 "a", .unreadable "b" .notFound, .loaded 0] := by
  intro tree queries later
  have hagain : ∀ path ∈ ["a", "b"], path ∈ ["b", "a"] := by simp
  have hids : later.ids = [3, 1] := by decide +kernel
  have hnotes : ["a", "b"].flatMap (repeatNotes tree) =
      [.badLine "a" ⟨3, .fieldCount 2⟩, .duplicateId 1 "a", .duplicateId 1 "a",
        .duplicateId 3 "a", .unreadable "b" .notFound] := by
    decide +kernel
  obtain ⟨hroster, hreport⟩ := load_again empty tree none (some .title) hagain queries
  rw [hnotes] at hreport
  exact ⟨hagain, hids, hroster, hreport⟩

end Roster

end StudentRoster
