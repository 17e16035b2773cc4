import Mathlib.Data.List.Basic
import StudentRoster.Proofs.Listing.Lines
import StudentRoster.Proofs.Listing.Reread
import StudentRoster.Proofs.Roster.Load
import StudentRoster.Proofs.Student.Recased

/-!
# What a loading counts

The events of a loading and its notes are kept apart from each other and from the roster, but they
tell of the same students and of the same input that was passed over (`Roster.load_tellsOf`). Each
student that was loaded, recased or not, is one line when it is printed, so that the lines of a
listing count its students (`count_linefeed_print`, `linefeed_not_mem_line_of_mem_pathStudents`).
-/

set_option autoImplicit false

namespace StudentRoster

open Text

/-! ## Events and notes -/

namespace Event

/-- Those of the events that say this in words. -/
def titled (title : String) (events : List Event) : List Event :=
  events.filter (·.title == title)

/-- Whether an event is about input that is passed over. -/
def isSkipping (event : Event) : Bool :=
  event.title == "failed to load roster" || event.title == "skipping roster line"

/-- What the events of a loading say in words. -/
def loadTitles : List String :=
  ["inserting record", "imported records", "failed to load roster", "skipping roster line"]

/-- Events may be searched for words in two parts. -/
theorem titled_append (title : String) (front back : List Event) :
    titled title (front ++ back) = titled title front ++ titled title back :=
  List.filter_append ..

/-- Events that say other things are left out. -/
theorem titled_eq_nil {title : String} {events : List Event}
    (h : ∀ event ∈ events, event.title ≠ title) : titled title events = [] :=
  List.filter_eq_nil_iff.mpr fun event hevent htitle => h event hevent (by simpa using htitle)

end Event

namespace Note

/-- The number of students that a note says were loaded. -/
def loadedCount? : Note → Option Int32
  | loaded count => some count
  | _ => none

/-- The event about the same file or line that was passed over, if a note is about one. -/
def event? : Note → Option Event
  | unreadable path cause => some (.unreadable path cause)
  | badLine path line => some (.badLine path line)
  | _ => none

end Note

/-- The events and the notes of a loading in which these students came, in this order. Their number
is told in 32 bits. -/
structure Report.TellsOf (report : Report) (came : List Student) : Prop where
  inserted : Event.titled "inserting record" report.events =
    came.map fun student => .inserting student.id
  imported : Event.titled "imported records" report.events = [.loaded (.ofNat came.length)]
  loaded : report.notes.filterMap Note.loadedCount? = [.ofNat came.length]
  skipped : report.events.filter Event.isSkipping = report.notes.filterMap Note.event?
  titles : ∀ event ∈ report.events, event.title ∈ Event.loadTitles

section files

variable (tree : FileTree) (casing? : Option Casing) (taken : List Int32)

/-- Of the students that a file offers the newcomers are told to come in. -/
theorem titled_inserting_fileEvents (path : String) :
    Event.titled "inserting record" (fileEvents tree casing? taken path) =
      (newcomers taken (fileStudents tree casing? path)).map fun student =>
        .inserting student.id := by
  unfold fileEvents
  cases htext : tree.readText path with
  | error cause => simp [Event.titled, Event.title, fileStudents, htext]
  | ok text => simp [Event.titled, Event.title, List.filter_map, Function.comp_def]

/-- The events about what was passed over in a file are those of its notes. -/
theorem filter_isSkipping_fileEvents (path : String) :
    (fileEvents tree casing? taken path).filter Event.isSkipping =
      (fileNotes tree casing? taken path).filterMap Note.event? := by
  unfold fileEvents fileNotes
  cases tree.readText path with
  | error cause => rfl
  | ok text =>
    simp [Event.isSkipping, Event.title, Note.event?, List.filter_map, Function.comp_def]

/-- What the events of a file say is said by loadings, and none of it is a number. -/
theorem title_of_mem_fileEvents {path : String} {event : Event}
    (h : event ∈ fileEvents tree casing? taken path) :
    event.title ∈ Event.loadTitles ∧ event.title ≠ "imported records" := by
  unfold fileEvents at h
  split at h
  · rcases List.mem_append.mp h with hbad | hcame
    · obtain ⟨line, _, rfl⟩ := List.mem_map.mp hbad
      simp [Event.title, Event.loadTitles]
    · obtain ⟨student, _, rfl⟩ := List.mem_map.mp hcame
      simp [Event.title, Event.loadTitles]
  · rw [List.mem_singleton.mp h]
    simp [Event.title, Event.loadTitles]

/-- No note on a file says how many students were loaded. -/
theorem loadedCount?_of_mem_fileNotes {path : String} {note : Note}
    (h : note ∈ fileNotes tree casing? taken path) : note.loadedCount? = none := by
  unfold fileNotes at h
  split at h
  · rcases List.mem_append.mp h with hbad | hlate
    · obtain ⟨line, _, rfl⟩ := List.mem_map.mp hbad
      rfl
    · obtain ⟨student, _, rfl⟩ := List.mem_map.mp hlate
      rfl
  · rw [List.mem_singleton.mp h]
    rfl

/-- Of the students that all files offer the newcomers are told to come in. -/
theorem titled_inserting_pathwise (paths : List String) :
    Event.titled "inserting record" (pathwise tree casing? (fileEvents tree casing?) taken paths) =
      (newcomers taken (pathStudents tree casing? paths)).map fun student =>
        .inserting student.id := by
  induction paths generalizing taken with
  | nil => rfl
  | cons path rest ih =>
    rw [pathwise_cons, Event.titled_append, titled_inserting_fileEvents, ih, pathStudents_cons,
      newcomers_append, List.map_append]

/-- The events about what was passed over in all files are those of the notes. -/
theorem filter_isSkipping_pathwise (paths : List String) :
    (pathwise tree casing? (fileEvents tree casing?) taken paths).filter Event.isSkipping =
      (pathwise tree casing? (fileNotes tree casing?) taken paths).filterMap Note.event? := by
  induction paths generalizing taken with
  | nil => rfl
  | cons path rest ih =>
    rw [pathwise_cons, pathwise_cons, List.filter_append, List.filterMap_append, ih,
      filter_isSkipping_fileEvents]

end files

/-- The events and the notes of a loading tell of the same students, those that came to the roster,
and of the same files and lines that were passed over. -/
theorem Roster.load_tellsOf (roster : Roster) (tree : FileTree) (paths : List String)
    (casing? : Option Casing) :
    (roster.load tree paths casing?).2.TellsOf
      (newcomers roster.ids (pathStudents tree casing? paths)) := by
  have htitle {event : Event}
      (h : event ∈ pathwise tree casing? (fileEvents tree casing?) roster.ids paths) :
      event.title ∈ Event.loadTitles ∧ event.title ≠ "imported records" := by
    obtain ⟨entry, _, hevent⟩ := List.mem_flatMap.mp h
    exact title_of_mem_fileEvents tree casing? _ hevent
  have hcount : (pathwise tree casing? (fileNotes tree casing?) roster.ids paths).filterMap
      Note.loadedCount? = [] := by
    refine List.filterMap_eq_nil_iff.mpr fun note hnote => ?_
    obtain ⟨entry, _, hmem⟩ := List.mem_flatMap.mp hnote
    exact loadedCount?_of_mem_fileNotes tree casing? _ hmem
  rw [load_eq]
  constructor
  · rw [Event.titled_append, titled_inserting_pathwise]
    exact List.append_nil _
  · rw [Event.titled_append, Event.titled_eq_nil fun event hevent => (htitle hevent).2]
    rfl
  · rw [List.filterMap_append, hcount]
    rfl
  · rw [List.filter_append, List.filterMap_append, filter_isSkipping_pathwise]
    rfl
  · intro event hevent
    rcases List.mem_append.mp hevent with hfile | hlast
    · exact (htitle hfile).1
    · rw [List.mem_singleton.mp hlast]
      simp [Event.title, Event.loadTitles]

/-! ## Lines -/

namespace Listing

/-- A listing of students of one line each has as many line feeds as students. -/
theorem count_linefeed_print {students : List Student}
    (h : ∀ s ∈ students, '\n' ∉ s.line.toList) :
    (print students).toList.count '\n' = students.length := by
  induction students with
  | nil => rfl
  | cons student rest ih =>
    obtain ⟨hstudent, hrest⟩ := List.forall_mem_cons.mp h
    rw [print_cons, printLine, String.toList_append, String.toList_append, List.count_append,
      List.count_append, List.count_eq_zero.mpr hstudent, ih hrest, List.length_cons]
    exact Nat.add_comm ..

end Listing

namespace Casing

variable (casing : Casing)

/-- No casing makes a line feed in front. -/
theorem capital_ne_linefeed {c : Char} (h : isBlank c = false) : casing.capital c ≠ '\n' := by
  intro heq
  have hblank := casing.isBlank_capital h
  rw [heq] at hblank
  simp [isBlank] at hblank

/-- The one blank that a casing makes is the space. -/
theorem small_ne_linefeed {c : Char} (h : isBlank c = false) : casing.small c ≠ '\n' := by
  intro heq
  obtain ⟨rfl, rfl⟩ := (casing.isBlank_small_iff h).mp (by rw [heq]; decide)
  revert heq
  decide

/-- A recased name has no line feed. -/
theorem linefeed_not_mem_fixName {name : String} (h : IsField name.toList) :
    '\n' ∉ (casing.fixName name).toList := by
  rw [toList_fixName]
  intro hmem
  cases hname : name.toList with
  | nil => exact h.1 hname
  | cons first later =>
    rw [hname] at hmem h
    rcases List.mem_cons.mp hmem with hfirst | hlater
    · exact casing.capital_ne_linefeed (h.2 first List.mem_cons_self) hfirst.symm
    · obtain ⟨c, hc, heq⟩ := List.mem_map.mp hlater
      exact casing.small_ne_linefeed (h.2 c (List.mem_cons_of_mem first hc)) heq

end Casing

namespace Student

/-- A recased student stays on one line even where the casing makes blanks. -/
theorem linefeed_not_mem_recase {s : Student} (h : s.IsWellFormed) (casing : Casing) :
    '\n' ∉ (s.recase casing).line.toList := by
  apply Listing.linefeed_not_mem_line_of_fields
  simp only [fields, List.forall_mem_cons]
  exact ⟨s.isField_id.linefeed_not_mem, casing.linefeed_not_mem_fixName h.firstName,
    casing.linefeed_not_mem_fixName h.lastName, s.gpa.isField_text.linefeed_not_mem,
    (casing.isField_fixMajor h.major).linefeed_not_mem, List.forall_mem_nil _⟩

/-- The students of a text are well formed. -/
theorem isWellFormed_of_mem_ofText {text : String} {s : Student}
    (h : s ∈ (Listing.ofText text).students) : s.IsWellFormed := by
  rw [Listing.ofText_eq] at h
  obtain ⟨entry, _, hgood⟩ := List.mem_filterMap.mp h
  unfold Listing.goodLine? at hgood
  split at hgood
  next student hparse =>
    obtain rfl := Option.some.inj hgood
    exact isWellFormed_of_ofLine hparse
  next => cases hgood

end Student

/-- The students of files, recased or not, are one line each. -/
theorem linefeed_not_mem_line_of_mem_pathStudents {tree : FileTree} {casing? : Option Casing}
    {paths : List String} {s : Student} (h : s ∈ pathStudents tree casing? paths) :
    '\n' ∉ s.line.toList := by
  obtain ⟨path, _, hfile⟩ := List.mem_flatMap.mp h
  unfold fileStudents at hfile
  split at hfile
  next text _ =>
    cases casing? with
    | none => exact Listing.linefeed_not_mem_line (Student.isWellFormed_of_mem_ofText hfile)
    | some casing =>
      obtain ⟨read, hread, rfl⟩ := List.mem_map.mp hfile
      exact Student.linefeed_not_mem_recase (Student.isWellFormed_of_mem_ofText hread) casing
  next => cases hfile

end StudentRoster
