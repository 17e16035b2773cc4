import StudentRoster.Proofs.Roster.Accounting
import StudentRoster.Proofs.Roster.LookUp

/-!
# The order of the files

When the same files are loaded in another order, other students may come in and other lines be
passed over, but only where two students claim one id. Which ids come in, how many students and how
many notes of each kind there are does not depend on the order, and neither does the student of an
id about which the files agree (`load_perm`). A search after a loading finds the student that was
there before or else the first one offered (`find?_insertAll_newcomers`), and the first of several
equal students is the same in any order.
-/

set_option autoImplicit false

namespace StudentRoster

/-! ## Newcomers in another order -/

/-- In another order students of the same ids come. -/
theorem perm_ids_newcomers (taken : List Int32) {offered others : List Student}
    (h : offered.Perm others) :
    ((newcomers taken offered).map (·.id)).Perm ((newcomers taken others).map (·.id)) := by
  apply (List.perm_ext_iff_of_nodup (nodup_ids_newcomers taken offered)
    (nodup_ids_newcomers taken others)).mpr
  intro id
  rw [mem_ids_newcomers_iff, mem_ids_newcomers_iff, (h.map _).mem_iff]

/-- In another order as many students come. -/
theorem length_newcomers_of_perm (taken : List Int32) {offered others : List Student}
    (h : offered.Perm others) :
    (newcomers taken offered).length = (newcomers taken others).length := by
  simpa using (perm_ids_newcomers taken h).length_eq

/-- All students with this id are the same, so that it does not matter which comes first. -/
def IsUndisputed (offered : List Student) (id : Int32) : Prop :=
  ∀ student ∈ offered, ∀ other ∈ offered, student.id = id → other.id = id → student = other

/-- An id that only one line carries is undisputed. -/
theorem isUndisputed_of_countP_le_one {offered : List Student} {id : Int32}
    (h : offered.countP (·.id == id) ≤ 1) : IsUndisputed offered id := by
  intro student hstudent other hother hid hotherid
  rw [List.countP_eq_length_filter] at h
  have hmem (s : Student) (hs : s ∈ offered) (hsid : s.id = id) :
      s ∈ offered.filter (·.id == id) := List.mem_filter.mpr ⟨hs, by simpa using hsid⟩
  obtain ⟨first, hfirst⟩ : ∃ first, offered.filter (·.id == id) = [first] := by
    apply List.length_eq_one_iff.mp
    have := List.length_pos_of_mem (hmem student hstudent hid)
    omega
  have hone := hmem student hstudent hid
  have htwo := hmem other hother hotherid
  rw [hfirst, List.mem_singleton] at hone htwo
  rw [hone, htwo]

/-- The first student of an undisputed id is the same in another order. -/
theorem IsUndisputed.find?_eq {offered others : List Student} {id : Int32}
    (h : IsUndisputed offered id) (hperm : offered.Perm others) :
    offered.find? (·.id == id) = others.find? (·.id == id) := by
  cases hone : offered.find? (·.id == id) with
  | none =>
    symm
    apply List.find?_eq_none.mpr
    intro student hstudent
    exact List.find?_eq_none.mp hone student (hperm.mem_iff.mpr hstudent)
  | some student =>
    have hid := List.find?_some hone
    have hstudent := List.mem_of_find?_eq_some hone
    have hsome : (others.find? (·.id == id)).isSome = true :=
      List.find?_isSome.mpr ⟨student, hperm.mem_iff.mp hstudent, hid⟩
    obtain ⟨other, hother⟩ := Option.isSome_iff_exists.mp hsome
    have hotherid := List.find?_some hother
    have hmem := hperm.mem_iff.mpr (List.mem_of_find?_eq_some hother)
    rw [hother, h student hstudent other hmem (by simpa using hid) (by simpa using hotherid)]

/-! ## Notes in another order -/

/-- A note about a file that could not be read. -/
def Note.isUnreadable : Note → Bool
  | .unreadable .. => true
  | _ => false

section notes

variable (tree : FileTree) (casing? : Option Casing)

/-- Files in another order offer their students in another order. -/
theorem perm_pathStudents {paths others : List String} (h : paths.Perm others) :
    (pathStudents tree casing? paths).Perm (pathStudents tree casing? others) :=
  h.flatMap_right (fileStudents tree casing?)

/-- What a file has to tell apart from its latecomers does not depend on the ids taken. -/
theorem countP_fileNotes_congr {test : Note → Bool}
    (htest : ∀ id path, test (.duplicateId id path) = false) (taken other : List Int32)
    (path : String) :
    (fileNotes tree casing? taken path).countP test =
      (fileNotes tree casing? other path).countP test := by
  rw [fileNotes, fileNotes]
  cases tree.readText path with
  | error cause => rfl
  | ok text =>
    have hlate (late : List Student) :
        (late.map fun s => Note.duplicateId s.id path).countP test = 0 := by
      simp [List.countP_map, Function.comp_def, htest]
    simp only [List.countP_append, hlate]

/-- Notes that are not on latecomers may be counted file by file. -/
theorem countP_pathwise {test : Note → Bool}
    (htest : ∀ id path, test (.duplicateId id path) = false) (taken : List Int32)
    (paths : List String) :
    (pathwise tree casing? (fileNotes tree casing?) taken paths).countP test =
      (paths.map fun path => (fileNotes tree casing? [] path).countP test).sum := by
  induction paths generalizing taken with
  | nil => rfl
  | cons path rest ih =>
    rw [pathwise_cons, List.countP_append, ih, List.map_cons, List.sum_cons,
      countP_fileNotes_congr tree casing? htest taken []]

end notes

namespace Roster

/-- A search after a loading finds the student that was there before or else the first offered. -/
theorem find?_insertAll_newcomers (roster : Roster) (offered : List Student) (id : Int32) :
    (roster.insertAll (newcomers roster.ids offered)).find? id =
      (roster.find? id).or (offered.find? (·.id == id)) := by
  rw [find?, students_insertAll, List.find?_append]
  show Option.or _ (roster.find? id) = _
  cases hnew : (newcomers roster.ids offered).reverse.find? (·.id == id) with
  | none =>
    rw [Option.none_or]
    by_cases htaken : id ∈ roster.ids
    · obtain ⟨newer, student, older, hsplit⟩ := exists_isSplit htaken
      rw [find?_of_split hsplit, Option.some_or]
    · have hoffered : offered.find? (·.id == id) = none := by
        apply List.find?_eq_none.mpr
        intro student hstudent hid
        have hcomes : id ∈ (newcomers roster.ids offered).map (·.id) :=
          (mem_ids_newcomers_iff _ _ _).mpr
            ⟨List.mem_map.mpr ⟨student, hstudent, by simpa using hid⟩, htaken⟩
        obtain ⟨newcomer, hnewcomer, hnewid⟩ := List.mem_map.mp hcomes
        exact List.find?_eq_none.mp hnew newcomer (List.mem_reverse.mpr hnewcomer)
          (by simpa using hnewid)
      rw [hoffered, Option.or_none]
  | some student =>
    have hmem := List.mem_reverse.mp (List.mem_of_find?_eq_some hnew)
    have hid : student.id = id := by simpa using List.find?_some hnew
    subst hid
    rw [find?_of_not_mem_ids (not_mem_of_mem_newcomers hmem), find?_of_mem_newcomers hmem]
    rfl

/-- The number loaded is not counted among the notes on files. -/
theorem countP_notes_load (roster : Roster) (tree : FileTree) (paths : List String)
    (casing? : Option Casing) {test : Note → Bool} (hloaded : ∀ n, test (.loaded n) = false) :
    (roster.load tree paths casing?).2.notes.countP test =
      (pathwise tree casing? (fileNotes tree casing?) roster.ids paths).countP test := by
  rw [load_eq, List.countP_append, List.countP_singleton, hloaded]
  rfl

section perm

variable (roster : Roster) (tree : FileTree) (casing? : Option Casing) {paths others : List String}

/-- Files in another order bring in the same ids. -/
theorem perm_ids_load (h : paths.Perm others) :
    (roster.load tree paths casing?).1.ids.Perm (roster.load tree others casing?).1.ids := by
  have hids := perm_ids_newcomers roster.ids (perm_pathStudents tree casing? h)
  simp only [load_eq, ids, students_insertAll, List.map_append, List.map_reverse]
  apply List.Perm.append_right
  exact (List.reverse_perm _).trans (hids.trans (List.reverse_perm _).symm)

/-- Files in another order make as many notes of each kind but on latecomers. -/
theorem countP_notes_load_of_perm (h : paths.Perm others) {test : Note → Bool}
    (htest : ∀ id path, test (.duplicateId id path) = false)
    (hloaded : ∀ n, test (.loaded n) = false) :
    (roster.load tree paths casing?).2.notes.countP test =
      (roster.load tree others casing?).2.notes.countP test := by
  rw [countP_notes_load _ _ _ _ hloaded, countP_notes_load _ _ _ _ hloaded,
    countP_pathwise tree casing? htest, countP_pathwise tree casing? htest]
  exact (h.map _).sum_nat

/-- Which students are passed over depends on the order, but not how many: they are all but the
newcomers. -/
theorem countP_isDuplicateId_load_of_perm (h : paths.Perm others) :
    (roster.load tree paths casing?).2.notes.countP Note.isDuplicateId =
      (roster.load tree others casing?).2.notes.countP Note.isDuplicateId := by
  have hoffered := perm_pathStudents tree casing? h
  have hcome := length_newcomers_of_perm roster.ids hoffered
  have hone := length_newcomers_add_length_latecomers roster.ids (pathStudents tree casing? paths)
  have hother := length_newcomers_add_length_latecomers roster.ids
    (pathStudents tree casing? others)
  have htotal := hoffered.length_eq
  rw [countP_notes_load _ _ _ _ fun _ => rfl, countP_notes_load _ _ _ _ fun _ => rfl,
    countP_isDuplicateId_pathwise, countP_isDuplicateId_pathwise]
  omega

/-- Files in another order bring in the same student for an undisputed id. -/
theorem find?_load_of_perm (h : paths.Perm others) {id : Int32}
    (hid : id ∈ roster.ids ∨ IsUndisputed (pathStudents tree casing? paths) id) :
    (roster.load tree paths casing?).1.find? id = (roster.load tree others casing?).1.find? id := by
  simp only [load_eq, find?_insertAll_newcomers]
  rcases hid with htaken | hundisputed
  · obtain ⟨newer, student, older, hsplit⟩ := exists_isSplit htaken
    rw [find?_of_split hsplit, Option.some_or, Option.some_or]
  · rw [hundisputed.find?_eq (perm_pathStudents tree casing? h)]

end perm

/-- Files that are loaded in another order bring the same ids and the same number of students, and
leave as many notes of each kind. An id that was taken before, or about which all files agree, has
the same student in both cases. -/
theorem load_perm (roster : Roster) (tree : FileTree) (casing? : Option Casing)
    {paths others : List String} (h : paths.Perm others) :
    let one := roster.load tree paths casing?
    let other := roster.load tree others casing?
    one.1.ids.Perm other.1.ids ∧
      (∃ n, one.2.notes.getLast? = some (.loaded n) ∧ other.2.notes.getLast? = some (.loaded n)) ∧
      one.2.notes.countP Note.isUnreadable = other.2.notes.countP Note.isUnreadable ∧
      one.2.notes.countP Note.isBadLine = other.2.notes.countP Note.isBadLine ∧
      one.2.notes.countP Note.isDuplicateId = other.2.notes.countP Note.isDuplicateId ∧
      ∀ id, id ∈ roster.ids ∨ IsUndisputed (pathStudents tree casing? paths) id →
        one.1.find? id = other.1.find? id := by
  intro one other
  refine ⟨roster.perm_ids_load tree casing? h, ?_, ?_, ?_, ?_, ?_⟩
  · have hcome := length_newcomers_of_perm roster.ids (perm_pathStudents tree casing? h)
    refine ⟨_, roster.getLast?_notes_load tree paths casing?, ?_⟩
    rw [hcome]
    exact roster.getLast?_notes_load tree others casing?
  · exact roster.countP_notes_load_of_perm tree casing? h (fun _ _ => rfl) fun _ => rfl
  · exact roster.countP_notes_load_of_perm tree casing? h (fun _ _ => rfl) fun _ => rfl
  · exact roster.countP_isDuplicateId_load_of_perm tree casing? h
  · intro id hid
    exact roster.find?_load_of_perm tree casing? h hid

/-- Two files claim id 1, one of them has id 2, and a third file is missing. -/
theorem load_perm_conflict :
    let tree := ((FileTree.empty []).place ["a"]
      (.file "1 ann lee 3 csc\n2 bob kim 2 art\n".toUTF8))
      |>.place ["b"] (.file "1 bo ray 2 bio\n3 cy\n".toUTF8)
    let one := empty.load tree ["a", "b", "c"] none
    let other := empty.load tree ["b", "c", "a"] none
    ["a", "b", "c"].Perm ["b", "c", "a"] ∧
      IsUndisputed (pathStudents tree none ["a", "b", "c"]) 2 ∧
      one.1.find? 2 = other.1.find? 2 ∧ one.1.find? 1 ≠ other.1.find? 1 ∧
      one.2.notes.countP Note.isDuplicateId = other.2.notes.countP Note.isDuplicateId := by
  intro tree one other
  have hperm : ["a", "b", "c"].Perm ["b", "c", "a"] :=
    (List.Perm.swap "b" "a" ["c"]).trans (.cons "b" (.swap "c" "a" []))
  have hundisputed : IsUndisputed (pathStudents tree none ["a", "b", "c"]) 2 := by
    apply isUndisputed_of_countP_le_one
    decide +kernel
  have hconflict : one.1.find? 1 ≠ other.1.find? 1 := by decide +kernel
  obtain ⟨-, -, -, -, hduplicates, hfind⟩ := load_perm empty tree none hperm
  exact ⟨hperm, hundisputed, hfind 2 (.inr hundisputed), hconflict, hduplicates⟩

end Roster

end StudentRoster
