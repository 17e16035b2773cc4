import StudentRoster.Proofs.Listing.Appended
import StudentRoster.Proofs.Roster.Accounting

/-!
# The input may be cut anywhere

A loading depends on the students that its files offer one after the other, and not on where one
file or one call ends and the next begins. Paths may be loaded in one call or in several, and files
that end their last lines may be joined to one file (`load_in_batches`). What carries the first part
is that the ids taken after some files are those that the next file finds taken; what carries the
second is that the students of a joined text are those of its parts. The numbers that are told add
up in the 32 bits that hold them, and as numbers as long as those suffice
(`sum_of_loaded_numbers_wraps`).
-/

set_option autoImplicit false

namespace StudentRoster

/-! ## Joined texts -/

/-- The students of a joined text are those of its parts in order, when each part ends its last
line. -/
theorem Listing.students_ofText_join {texts : List String} (h : ∀ text ∈ texts, EndsLine text) :
    (ofText (String.join texts)).students = texts.flatMap fun text => (ofText text).students := by
  induction texts with
  | nil => rfl
  | cons text rest ih =>
    have hrest := ih fun other hother => h other (List.mem_cons_of_mem text hother)
    rw [String.join_cons, ofText_append (h text List.mem_cons_self), append_def, List.flatMap_cons,
      ← hrest]
    rfl

/-- At these paths stand files with these texts, each of which ends its last line. -/
def HoldWholeLines (tree : FileTree) (paths texts : List String) : Prop :=
  List.Forall₂ (fun path text => tree.readText path = .ok text ∧ Listing.EndsLine text) paths texts

section joined

variable {tree : FileTree} {paths texts : List String}

/-- Each of the texts ends its last line. -/
theorem HoldWholeLines.endsLine (h : HoldWholeLines tree paths texts) :
    ∀ text ∈ texts, Listing.EndsLine text := by
  induction h with
  | nil => simp
  | cons hfirst _ ih => exact List.forall_mem_cons.mpr ⟨hfirst.2, ih⟩

/-- What the files offer is what their texts hold. -/
theorem HoldWholeLines.pathStudents_eq (h : HoldWholeLines tree paths texts)
    (casing? : Option Casing) :
    pathStudents tree casing? paths =
      texts.flatMap fun text => (Listing.ofText text).recased casing? := by
  induction h with
  | nil => rfl
  | cons hfirst _ ih => rw [pathStudents_cons, ih, fileStudents, hfirst.1, List.flatMap_cons]

/-- One file with all the lines offers what the files offer together. -/
theorem HoldWholeLines.pathStudents_joined (h : HoldWholeLines tree paths texts)
    (casing? : Option Casing) {other : FileTree} {whole : String}
    (hwhole : other.readText whole = .ok (String.join texts)) :
    pathStudents other casing? [whole] = pathStudents tree casing? paths := by
  have hstudents := Listing.students_ofText_join h.endsLine
  rw [h.pathStudents_eq, pathStudents, List.flatMap_singleton, fileStudents, hwhole]
  cases casing? with
  | none => exact hstudents
  | some casing =>
    show (Listing.ofText (String.join texts)).students.map _ = _
    rw [hstudents, List.map_flatMap]
    rfl

end joined

/-! ## Ids that were taken -/

/-- The id that a note calls taken, if it is about one. -/
def Note.takenId? : Note → Option Int32
  | .duplicateId id _ => some id
  | _ => none

/-- The ids that a report calls taken, each as often as it does. -/
def Report.takenIds (report : Report) : List Int32 :=
  report.notes.filterMap Note.takenId?

section taken

variable (tree : FileTree) (casing? : Option Casing) (taken : List Int32)

/-- The notes on a file call the ids of its latecomers taken. -/
theorem filterMap_takenId?_fileNotes (path : String) :
    (fileNotes tree casing? taken path).filterMap Note.takenId? =
      (latecomers taken (fileStudents tree casing? path)).map (·.id) := by
  rw [fileNotes, fileStudents]
  cases tree.readText path with
  | error cause => rfl
  | ok text =>
    have hbad (faulty : List BadLine) :
        (faulty.map (Note.badLine path)).filterMap Note.takenId? = [] := by
      simp [List.filterMap_map, Function.comp_def, Note.takenId?]
    have hlate (late : List Student) :
        (late.map fun s => Note.duplicateId s.id path).filterMap Note.takenId? =
          late.map (·.id) := by
      simp [List.filterMap_map, Function.comp_def, Note.takenId?]
    simp only [List.filterMap_append, hbad, hlate, List.nil_append]

/-- The notes on all files call the ids of the latecomers among their students taken. -/
theorem filterMap_takenId?_pathwise (paths : List String) :
    (pathwise tree casing? (fileNotes tree casing?) taken paths).filterMap Note.takenId? =
      (latecomers taken (pathStudents tree casing? paths)).map (·.id) := by
  induction paths generalizing taken with
  | nil => rfl
  | cons path rest ih =>
    rw [pathwise_cons, List.filterMap_append, filterMap_takenId?_fileNotes, ih, pathStudents_cons,
      latecomers_append, List.map_append]

end taken

/-- Numbers whose sum 32 bits hold add up as numbers. -/
theorem toInt_ofNat_add {m n : Nat} (h : m + n < 2 ^ 31) :
    (Int32.ofNat (m + n)).toInt = (Int32.ofNat m).toInt + (Int32.ofNat n).toInt := by
  rw [Int32.toInt_ofNat_of_lt h, Int32.toInt_ofNat_of_lt (by omega),
    Int32.toInt_ofNat_of_lt (by omega)]
  exact Int.natCast_add m n

namespace Roster

variable (roster : Roster) (tree : FileTree) (casing? : Option Casing)

/-- A loading calls the ids of the latecomers taken, in their order. -/
theorem takenIds_load (paths : List String) :
    (roster.load tree paths casing?).2.takenIds =
      (latecomers roster.ids (pathStudents tree casing? paths)).map (·.id) := by
  rw [load_eq, Report.takenIds, List.filterMap_append, filterMap_takenId?_pathwise]
  exact List.append_nil _

/-- The paths of a call may be given in two calls: the same students come in, the warnings are those
of the first call and then those of the second, and the numbers loaded add up in 32 bits, and as
numbers too when fewer than `2 ^ 31` students came in. Files that end their last lines may be
joined: the same students come in, the same number is told, and the same ids are called taken as
often and in the same order. -/
theorem load_in_batches :
    (∀ front back : List String,
      let first := roster.load tree front casing?
      let second := first.1.load tree back casing?
      let once := roster.load tree (front ++ back) casing?
      once.1 = second.1 ∧ ∃ (early late : List Note) (m n : Int32),
        first.2.notes = early ++ [.loaded m] ∧ second.2.notes = late ++ [.loaded n] ∧
        once.2.notes = early ++ late ++ [.loaded (m + n)] ∧
        (once.1.size < roster.size + 2 ^ 31 → (m + n).toInt = m.toInt + n.toInt) ∧
        ∀ note ∈ early ++ late, note.level = .warning) ∧
    ∀ (paths texts : List String) (other : FileTree) (whole : String),
      HoldWholeLines tree paths texts → other.readText whole = .ok (String.join texts) →
      let separate := roster.load tree paths casing?
      let joined := roster.load other [whole] casing?
      separate.1 = joined.1 ∧ separate.2.takenIds = joined.2.takenIds ∧
        ∃ n, separate.2.notes.getLast? = some (.loaded n) ∧
          joined.2.notes.getLast? = some (.loaded n) := by
  constructor
  · intro front back first second once
    -- the second call finds those ids taken that the first one offered
    have htaken := Loading.mem_ids_insertAll_newcomers roster (pathStudents tree casing? front)
    have hfirst : first = _ := roster.load_eq tree front casing?
    have hsecond : second = _ := first.1.load_eq tree back casing?
    have honce : once = _ := roster.load_eq tree (front ++ back) casing?
    rw [hfirst] at hsecond
    rw [newcomers_congr htaken,
      Loading.pathwise_congr tree casing? (Loading.fileNotes_congr tree casing?) htaken] at hsecond
    rw [pathStudents_append, newcomers_append, Loading.insertAll_append, pathwise_append,
      List.length_append] at honce
    rw [hfirst, hsecond, honce]
    refine ⟨rfl, _, _, _, _, rfl, rfl, by rw [Int32.ofNat_add], ?_, ?_⟩
    · rw [size_insertAll, size_insertAll, Nat.add_assoc, ← Int32.ofNat_add]
      exact fun hfew => toInt_ofNat_add (Nat.lt_of_add_lt_add_left hfew)
    · intro note hnote
      rcases List.mem_append.mp hnote with hearly | hlate
      · exact level_of_mem_pathwise tree casing? _ hearly
      · exact level_of_mem_pathwise tree casing? _ hlate
  · intro paths texts other whole hpaths hwhole separate joined
    have hoffered := hpaths.pathStudents_joined casing? hwhole
    have hcount := roster.getLast?_notes_load other [whole] casing?
    rw [hoffered] at hcount
    refine ⟨?_, ?_, _, roster.getLast?_notes_load tree paths casing?, hcount⟩
    · simp only [separate, joined, load_eq, hoffered]
    · simp only [separate, joined, takenIds_load, hoffered]

/-- Three files, the second of which repeats an id of the first, and one that holds their lines. -/
theorem load_in_batches_three :
    let texts := ["1 ann lee 3 csc\n2 bob\n", "", "1 bo ray 2 art\n3 cy wu 3 art\n"]
    let tree := (((FileTree.empty []).place ["a"] (.file texts[0].toUTF8)).place ["b"]
      (.file texts[1].toUTF8)).place ["c"] (.file texts[2].toUTF8)
    let other := (FileTree.empty []).place ["d"] (.file (String.join texts).toUTF8)
    HoldWholeLines tree ["a", "b", "c"] texts ∧
      other.readText "d" = .ok (String.join texts) ∧
      (empty.load tree ["a", "b", "c"] none).1 = (empty.load other ["d"] none).1 ∧
      (empty.load other ["d"] none).2.takenIds = [1] := by
  intro texts tree other
  have hpaths : HoldWholeLines tree ["a", "b", "c"] texts := by
    refine .cons ⟨?_, ?_⟩ (.cons ⟨?_, ?_⟩ (.cons ⟨?_, ?_⟩ .nil))
    · decide +kernel
    · simp [Listing.EndsLine]
    · decide +kernel
    · simp [Listing.EndsLine]
    · decide +kernel
    · simp [Listing.EndsLine]
  have hwhole : other.readText "d" = .ok (String.join texts) := by decide +kernel
  have htaken : (empty.load tree ["a", "b", "c"] none).2.takenIds = [1] := by decide +kernel
  obtain ⟨-, hjoined⟩ := load_in_batches empty tree none
  obtain ⟨hroster, hids, -⟩ := hjoined _ _ other "d" hpaths hwhole
  exact ⟨hpaths, hwhole, hroster, hids.symm.trans htaken⟩

/-- Two calls that bring in `2 ^ 30` students each tell so, and one call tells another number. -/
theorem sum_of_loaded_numbers_wraps :
    ¬ ∀ (roster : Roster) (tree : FileTree) (casing? : Option Casing) (front back : List String),
        let first := roster.load tree front casing?
        let second := first.1.load tree back casing?
        let once := roster.load tree (front ++ back) casing?
        ∃ m n total : Int32, first.2.notes.getLast? = some (.loaded m) ∧
          second.2.notes.getLast? = some (.loaded n) ∧
          once.2.notes.getLast? = some (.loaded total) ∧ total.toInt = m.toInt + n.toInt := by
  intro h
  obtain ⟨m, n, total, hfirst, hsecond, honce, hsum⟩ :=
    h .empty (crowd (2 ^ 30) (2 ^ 30)) none ["a.txt"] ["b.txt"]
  obtain ⟨hfront, hback, hboth⟩ :=
    @length_newcomers_crowd (2 ^ 30) (2 ^ 30) (by decide)
  have hnone : empty.ids = [] := rfl
  rw [getLast?_notes_load, hnone, hfront] at hfirst
  rw [getLast?_notes_load, hback] at hsecond
  rw [getLast?_notes_load, hnone, List.singleton_append, hboth] at honce
  obtain rfl : Int32.ofNat (2 ^ 30) = m := by simpa using hfirst
  obtain rfl : Int32.ofNat (2 ^ 30) = n := by simpa using hsecond
  obtain rfl : Int32.ofNat (2 ^ 30 + 2 ^ 30) = total := by simpa using honce
  exact absurd hsum (by decide)

end Roster

end StudentRoster
