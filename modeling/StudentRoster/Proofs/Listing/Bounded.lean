import StudentRoster.Proofs.Listing.Reread
import StudentRoster.Roster

/-!
# A bounded sink holds a prefix

A line reaches a sink in small pieces, and the first piece that does not fit ends the listing. How
a line is cut does not show: pieces that are written one after another leave what their
concatenation leaves when it is written at once (`writePieces_eq_write`). `print_bounded` is the
statement on listings: a sink holds the first bytes of the listing, as many as it has room for, and
the answer is the failure exactly when that is not all of it.
-/

set_option autoImplicit false

namespace StudentRoster

-- The equality of bytes is that of core, whatever else is in scope.
attribute [local instance (high)] ByteArray.instDecidableEq

/-- A way to cut the line of every student into the pieces that are written one at a time. -/
structure LineCut where
  pieces : Student → List String
  join_pieces : ∀ s, String.join (pieces s) = s.line ++ "\n"

/-- The cut at the fields: they and what stands between them are pieces of their own. -/
def LineCut.atFields : LineCut where
  pieces s := (s.fields.intersperse [' '] ++ [['\n']]).map String.ofList
  join_pieces s := by
    rw [← String.toList_inj, String.toList_join, String.toList_append, Student.line,
      String.toList_ofList]
    simp [List.intercalate, List.flatMap_map]

namespace Sink

/-- Writes pieces until one does not fit. -/
def writePieces (sink : Sink) : List String → Sink × Except FileError Unit
  | [] => (sink, .ok ())
  | piece :: rest =>
    match sink.write piece.toUTF8 with
    | (sink, .ok ()) => sink.writePieces rest
    | (sink, .error e) => (sink, .error e)

/-- Writes the line of a student piece by piece. -/
def printStudent (cut : LineCut) (sink : Sink) (s : Student) : Sink × Except Failure Unit :=
  let (sink, answer) := sink.writePieces (cut.pieces s)
  (sink, answer.mapError Failure.file)

/-- Prints students until a piece of one does not fit. -/
def printStudents (cut : LineCut) (sink : Sink) : List Student → Sink × Except Failure Unit
  | [] => (sink, .ok ())
  | student :: rest =>
    match sink.printStudent cut student with
    | (sink, .ok ()) => sink.printStudents cut rest
    | (sink, .error e) => (sink, .error e)

/-- Prints all students of a roster. -/
def printRoster (cut : LineCut) (sink : Sink) (roster : Roster) : Sink × Except Failure Unit :=
  sink.printStudents cut roster.students

/-- What a sink of this capacity holds of a text that was printed into it, and the answer. -/
def holding (capacity : Nat) (text : String) : Sink × Except Failure Unit :=
  let bytes := text.toUTF8
  (⟨some capacity, bytes.extract 0 (min capacity bytes.size)⟩,
    if bytes.size ≤ capacity then .ok () else .error (.file .sinkFull))

/-- Nothing at all fits anywhere. -/
theorem write_empty (sink : Sink) : sink.write ByteArray.empty = (sink, .ok ()) := by
  obtain ⟨capacity, written⟩ := sink
  cases capacity with
  | none => simp only [write, ByteArray.append_empty]
  | some capacity =>
    have hextract : ByteArray.empty.extract 0 (capacity - written.size) = ByteArray.empty := by
      rw [ByteArray.extract_eq_empty_iff]
      exact Nat.min_le_right _ 0
    simp only [write, hextract, ByteArray.append_empty, ByteArray.size_empty, Nat.zero_le, if_true]

/-- Bytes in two parts: the second part is written where the first ends, if that one fits. -/
theorem write_append (sink : Sink) (a b : ByteArray) :
    sink.write (a ++ b) =
      match sink.write a with
      | (sink, .ok ()) => sink.write b
      | (sink, .error e) => (sink, .error e) := by
  obtain ⟨capacity, written⟩ := sink
  cases capacity with
  | none => simp only [write, ByteArray.append_assoc]
  | some capacity =>
    simp only [write, ByteArray.extract_append, ByteArray.size_append, Nat.zero_sub]
    by_cases hfits : a.size ≤ capacity - written.size
    -- The first part fits, and the second is cut to what room it leaves.
    · have hall : a.extract 0 (capacity - written.size) = a := by
        rw [← max_eq_left hfits, ByteArray.extract_zero_max_size]
      have hroom : capacity - (written ++ a).size = capacity - written.size - a.size := by
        rw [ByteArray.size_append]
        omega
      have hiff : a.size + b.size ≤ capacity - written.size ↔
          b.size ≤ capacity - written.size - a.size := by
        omega
      simp only [hall, if_pos hfits, hroom, hiff, ByteArray.append_assoc]
    -- The first part fills the sink, and of the second nothing is written.
    · have hfull : capacity - written.size - a.size = 0 := by
        omega
      have hlong : ¬ a.size + b.size ≤ capacity - written.size := by
        omega
      simp only [hfull, ByteArray.extract_same, ByteArray.append_empty, if_neg hfits, if_neg hlong]

/-- Pieces one after another leave what their concatenation leaves at once. -/
theorem writePieces_eq_write (sink : Sink) (pieces : List String) :
    sink.writePieces pieces = sink.write (String.join pieces).toUTF8 := by
  induction pieces generalizing sink with
  | nil => exact (write_empty sink).symm
  | cons piece rest ih =>
    rw [writePieces, String.join_cons, String.toUTF8_eq_toByteArray, String.toUTF8_eq_toByteArray,
      String.toByteArray_append, write_append]
    simp only [ih, String.toUTF8_eq_toByteArray]

/-- Whole lines are pieces of a kind. -/
theorem writeStudents_eq_writePieces (sink : Sink) (students : List Student) :
    sink.writeStudents students = sink.writePieces (students.map Listing.printLine) := by
  induction students generalizing sink with
  | nil => rfl
  | cons student rest ih =>
    rw [writeStudents, List.map_cons, writePieces]
    obtain ⟨after, answer⟩ := sink.write (Listing.printLine student).toUTF8
    cases answer with
    | ok _ => exact ih after
    | error e => rfl

/-- In however many pieces a line is written, it goes as far as in one. -/
theorem printStudent_eq_write (cut : LineCut) (sink : Sink) (s : Student) :
    sink.printStudent cut s =
      Prod.map id (Except.mapError Failure.file) (sink.write (Listing.printLine s).toUTF8) := by
  rw [printStudent, writePieces_eq_write, cut.join_pieces, ← Listing.printLine, Prod.map, id]

/-- However the lines are cut, a listing leaves what its whole lines leave. -/
theorem printStudents_eq_writeStudents (cut : LineCut) (sink : Sink) (students : List Student) :
    sink.printStudents cut students =
      Prod.map id (Except.mapError Failure.file) (sink.writeStudents students) := by
  induction students generalizing sink with
  | nil => rfl
  | cons student rest ih =>
    rw [printStudents, printStudent_eq_write, writeStudents]
    obtain ⟨after, answer⟩ := sink.write (Listing.printLine student).toUTF8
    cases answer with
    | ok _ => exact ih after
    | error e => rfl

/-- The first bytes of no more than there are. -/
theorem extract_min_size (bytes : ByteArray) (n : Nat) :
    bytes.extract 0 (min n bytes.size) = bytes.extract 0 n := by
  have h := ByteArray.extract_extract (a := bytes) (i := 0) (j := bytes.size) (k := 0) (l := n)
  rw [ByteArray.extract_zero_size, Nat.add_zero, Nat.zero_add] at h
  exact h.symm

/-- A sink that holds nothing yet takes the first bytes, as many as it has room for. -/
theorem write_text_of_empty (capacity : Nat) (text : String) :
    Prod.map id (Except.mapError Failure.file) ((empty (some capacity)).write text.toUTF8) =
      holding capacity text := by
  simp only [empty, write, holding, ByteArray.size_empty, Nat.sub_zero, ByteArray.empty_append,
    extract_min_size, Prod.map, id]
  by_cases hfits : text.toUTF8.size ≤ capacity
  · rw [if_pos hfits, if_pos hfits]
    rfl
  · rw [if_neg hfits, if_neg hfits]
    rfl

/-- Some of the pieces leave a prefix of what all of them are. -/
theorem written_writePieces_take (capacity : Nat) (pieces : List String) (k : Nat) :
    ((empty (some capacity)).writePieces (pieces.take k)).1.written =
      (String.join pieces).toUTF8.extract 0
        (min capacity (String.join (pieces.take k)).toUTF8.size) := by
  have hjoin : (String.join pieces).toUTF8 =
      (String.join (pieces.take k)).toUTF8 ++ (String.join (pieces.drop k)).toUTF8 := by
    rw [String.toUTF8_eq_toByteArray, String.toUTF8_eq_toByteArray, String.toUTF8_eq_toByteArray,
      ← String.toByteArray_append, ← String.join_append, List.take_append_drop]
  have hshort : min capacity (String.join (pieces.take k)).toUTF8.size -
      (String.join (pieces.take k)).toUTF8.size = 0 := by
    omega
  rw [writePieces_eq_write, hjoin, ByteArray.extract_append, hshort, Nat.zero_sub,
    ByteArray.extract_same, ByteArray.append_empty, extract_min_size]
  simp only [empty, write, ByteArray.size_empty, Nat.sub_zero, ByteArray.empty_append]

/-- The pieces of a listing are the listing. -/
theorem join_flatMap_pieces (cut : LineCut) (students : List Student) :
    String.join (students.flatMap cut.pieces) = Listing.print students := by
  induction students with
  | nil => rfl
  | cons student rest ih =>
    rw [List.flatMap_cons, String.join_append, cut.join_pieces, ih, Listing.print_cons,
      Listing.printLine]

/-- A sink of limited capacity into which a student, students or a roster are printed holds the
first bytes of the lines, as many as it has room for, and the answer is the failure exactly when
these are not all. It is the same for whole lines and for any way to cut them, and no number of
pieces leaves anything but a prefix. -/
theorem print_bounded (cut : LineCut) (capacity : Nat) :
    (∀ s : Student,
      (empty (some capacity)).printStudent cut s = holding capacity (s.line ++ "\n")) ∧
    (∀ students : List Student,
      let rendering := String.join (students.map fun s => s.line ++ "\n")
      let lines := (empty (some capacity)).writeStudents students
      (empty (some capacity)).printStudents cut students = holding capacity rendering ∧
      (lines.1, lines.2.mapError Failure.file) = holding capacity rendering ∧
      ∀ k : Nat,
        let handed := (students.flatMap cut.pieces).take k
        ((empty (some capacity)).writePieces handed).1.written =
          rendering.toUTF8.extract 0 (min capacity (String.join handed).toUTF8.size)) ∧
    ∀ roster : Roster,
      (empty (some capacity)).printRoster cut roster =
        holding capacity (String.join (roster.students.map fun s => s.line ++ "\n")) := by
  have hlines (students : List Student) :
      Prod.map id (Except.mapError Failure.file)
          ((empty (some capacity)).writeStudents students) =
        holding capacity (String.join (students.map fun s => s.line ++ "\n")) := by
    rw [writeStudents_eq_writePieces, writePieces_eq_write, write_text_of_empty]
    rfl
  have hpieces (students : List Student) :
      (empty (some capacity)).printStudents cut students =
        holding capacity (String.join (students.map fun s => s.line ++ "\n")) := by
    rw [printStudents_eq_writeStudents, hlines]
  refine ⟨?_, ?_, ?_⟩
  · intro s
    rw [printStudent_eq_write, write_text_of_empty, Listing.printLine]
  · intro students rendering lines
    refine ⟨hpieces students, hlines students, ?_⟩
    intro k handed
    have hprefix := written_writePieces_take capacity (students.flatMap cut.pieces) k
    rw [join_flatMap_pieces] at hprefix
    exact hprefix
  · intro roster
    exact hpieces roster.students

/-- The room ends inside a character. -/
theorem print_bounded_inside_character :
    (empty (some 5)).printStudents .atFields
        [⟨7, "Zoë", "Lim", ⟨false, 0x40700000⟩, "CS"⟩] =
      (⟨some 5, ⟨#[55, 32, 90, 111, 195]⟩⟩, .error (.file .sinkFull)) := by
  have h := ((print_bounded .atFields 5).2.1 [⟨7, "Zoë", "Lim", ⟨false, 0x40700000⟩, "CS"⟩]).1
  exact h.trans (by decide +kernel)

end Sink

end StudentRoster
