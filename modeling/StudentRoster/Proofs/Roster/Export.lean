import Mathlib.Data.List.Forall2
import Mathlib.Data.List.Nodup
import StudentRoster.Proofs.Files.Walk
import StudentRoster.Proofs.Listing.Reread
import StudentRoster.Proofs.Roster.Load
import StudentRoster.Roster.Sample

/-!
# An exported roster loads again

The listing of a roster whose students are well formed has no bad line, and a loading of it into an
empty roster keeps, of each id, the student that a search would find, in reverse order
(`export_load_inverse`). Only averages change, and those only where they are not shown. When the ids
are distinct nobody is left out, so that a second export and loading restore the order and with it
the bytes of the first export.
-/

set_option autoImplicit false

namespace StudentRoster

/-- Students with distinct ids, none of them taken, are all newcomers. -/
theorem newcomers_eq_self {taken : List Int32} {offered : List Student}
    (hfresh : ∀ student ∈ offered, student.id ∉ taken) (hnodup : (offered.map (·.id)).Nodup) :
    newcomers taken offered = offered := by
  induction offered generalizing taken with
  | nil => rfl
  | cons student rest ih =>
    rw [List.map_cons, List.nodup_cons] at hnodup
    have hrest : newcomers (student.id :: taken) rest = rest := by
      refine ih ?_ hnodup.2
      intro other hother hmem
      rcases List.mem_cons.mp hmem with heq | htaken
      · exact hnodup.1 (heq ▸ List.mem_map_of_mem hother)
      · exact hfresh other (List.mem_cons_of_mem student hother) htaken
    rw [newcomers_cons, if_neg (hfresh student List.mem_cons_self), hrest, List.singleton_append]

/-- Students that a listing does not tell apart are listed alike. -/
theorem Listing.print_map {change : Student → Student} (students : List Student)
    (h : ∀ student, (change student).PrintsAs student) :
    print (students.map change) = print students := by
  have hline : printLine ∘ change = printLine := by
    funext student
    rw [Function.comp_apply, printLine, printLine, (h student).line_eq]
  rw [print, print, List.map_map, hline]

namespace Roster

/-- The bytes that a roster is written as. -/
def exported (roster : Roster) : ByteArray :=
  ((Sink.empty none).writeStudents roster.students).1.written

/-- What is exported are the bytes of the listing. -/
theorem exported_eq (roster : Roster) :
    roster.exported = (Listing.print roster.students).toUTF8 := by
  rw [exported, Sink.empty, Sink.writeStudents_unbounded, ByteArray.empty_append]

section load

variable {roster : Roster} {tree : FileTree} {path : String}

/-- What comes of loading a file into an empty roster. -/
theorem students_load_of_readBytes {text : String} (h : tree.readBytes path = .ok text.toUTF8) :
    (empty.load tree [path] none).1.students =
      (newcomers [] (Listing.ofText text).students).reverse := by
  have hoffered : pathStudents tree none [path] = (Listing.ofText text).students := by
    rw [pathStudents, List.flatMap_singleton, fileStudents, FileTree.readText_of_readBytes h]
    rfl
  rw [load_eq, hoffered, students_insertAll, students_empty, List.append_nil]
  rfl

/-- Loading an exported roster reads its students again, the newest first. -/
theorem students_load_exported (hwf : ∀ s ∈ roster.students, s.IsWellFormed)
    (hfile : tree.readBytes path = .ok roster.exported) :
    (empty.load tree [path] none).1.students =
      (newcomers [] (roster.students.map Student.reread)).reverse := by
  rw [exported_eq] at hfile
  rw [students_load_of_readBytes hfile, Listing.ofText_print hwf]

/-- Each id comes in once, and the id that was listed last is the newest. -/
theorem ids_load_exported (hwf : ∀ s ∈ roster.students, s.IsWellFormed)
    (hfile : tree.readBytes path = .ok roster.exported) :
    (empty.load tree [path] none).1.ids = roster.ids.eraseDups.reverse := by
  have hids : (roster.students.map Student.reread).map (·.id) = roster.ids := by
    rw [List.map_map]
    rfl
  have hfresh : roster.ids.filter (fun id => !([] : List Int32).contains id) = roster.ids :=
    List.filter_eq_self.mpr fun id _ => rfl
  rw [ids, students_load_exported hwf hfile, List.map_reverse, ids_newcomers, hids, hfresh]

/-- Of each id the student comes in that a search in the exported roster finds. -/
theorem find?_of_mem_load_exported (hwf : ∀ s ∈ roster.students, s.IsWellFormed)
    (hfile : tree.readBytes path = .ok roster.exported) {student : Student}
    (h : student ∈ (empty.load tree [path] none).1.students) :
    ∃ original, roster.find? student.id = some original ∧ student.PrintsAs original := by
  rw [students_load_exported hwf hfile, List.mem_reverse] at h
  have hfirst := find?_of_mem_newcomers h
  rw [List.find?_map] at hfirst
  obtain ⟨original, horiginal, rfl⟩ := Option.map_eq_some_iff.mp hfirst
  exact ⟨original, horiginal, original.printsAs_reread⟩

/-- When the ids are distinct, all students come in. -/
theorem students_load_exported_of_nodup (hwf : ∀ s ∈ roster.students, s.IsWellFormed)
    (hnodup : roster.ids.Nodup) (hfile : tree.readBytes path = .ok roster.exported) :
    (empty.load tree [path] none).1.students = (roster.students.map Student.reread).reverse := by
  rw [students_load_exported hwf hfile, newcomers_eq_self]
  · simp
  · rw [List.map_map]
    exact hnodup

/-- When the ids are distinct, a second export and loading restore the bytes of the first export. -/
theorem exported_load_load (hwf : ∀ s ∈ roster.students, s.IsWellFormed)
    (hnodup : roster.ids.Nodup) (hfile : tree.readBytes path = .ok roster.exported)
    {again : FileTree} {place : String}
    (hagain : again.readBytes place = .ok (empty.load tree [path] none).1.exported) :
    (empty.load again [place] none).1.exported = roster.exported := by
  have hsecond := students_load_exported_of_nodup hwf hnodup hfile
  have hwf' : ∀ s ∈ (empty.load tree [path] none).1.students, s.IsWellFormed := by
    intro s hs
    rw [hsecond, List.mem_reverse] at hs
    obtain ⟨original, horiginal, rfl⟩ := List.mem_map.mp hs
    exact Student.isWellFormed_reread (hwf original horiginal)
  have hnodup' : (empty.load tree [path] none).1.ids.Nodup := by
    rw [ids, hsecond, List.map_reverse, List.map_map, List.nodup_reverse]
    exact hnodup
  have hthird := students_load_exported_of_nodup hwf' hnodup' hagain
  rw [hsecond, List.map_reverse, List.reverse_reverse] at hthird
  rw [exported_eq, exported_eq, hthird, Listing.print_map _ Student.printsAs_reread,
    Listing.print_map _ Student.printsAs_reread]

end load

/-- What a line gives is well formed. The listing of well-formed students is written in full, and
its bytes are a text without bad lines that gives students which print as they do, in their order.
Loaded into an empty roster it brings every id once, in reverse, with the student that a search
finds. When the ids are distinct, exporting and loading a second time restores the bytes. -/
theorem export_load_inverse (roster : Roster) (hwf : ∀ s ∈ roster.students, s.IsWellFormed) :
    (∀ line s, Student.ofLine line = .ok s → s.IsWellFormed) ∧
    ((Sink.empty none).writeStudents roster.students).2 = .ok () ∧
    (∃ text, String.fromUTF8? roster.exported = some text ∧ (Listing.ofText text).badLines = [] ∧
      List.Forall₂ Student.PrintsAs (Listing.ofText text).students roster.students) ∧
    ∀ tree path, tree.readBytes path = .ok roster.exported →
      (empty.load tree [path] none).1.ids = roster.ids.eraseDups.reverse ∧
      (∀ student ∈ (empty.load tree [path] none).1.students, ∃ original,
        roster.find? student.id = some original ∧ student.PrintsAs original) ∧
      (roster.ids.Nodup → ∀ again place,
        again.readBytes place = .ok (empty.load tree [path] none).1.exported →
        (empty.load again [place] none).1.exported = roster.exported) := by
  refine ⟨fun line s => Student.isWellFormed_of_ofLine, ?_, ?_, ?_⟩
  · rw [Sink.empty, Sink.writeStudents_unbounded]
  · refine ⟨Listing.print roster.students, ?_, ?_, ?_⟩
    · rw [exported_eq, fromUTF8?_toUTF8]
    · rw [Listing.ofText_print hwf]
    · rw [Listing.ofText_print hwf, List.forall₂_map_left_iff, List.forall₂_same]
      exact fun student _ => student.printsAs_reread
  · intro tree path hfile
    refine ⟨ids_load_exported hwf hfile, ?_, ?_⟩
    · exact fun student => find?_of_mem_load_exported hwf hfile
    · exact fun hnodup again place => exported_load_load hwf hnodup hfile

/-- Two students go to a file and come back, and go to a second file and come back. -/
theorem export_load_inverse_sample :
    (∀ s ∈ (sample 2).students, s.IsWellFormed) ∧
    ∃ tree again : FileTree,
      (empty.load tree ["a"] none).1.ids = [1, 2] ∧
      (empty.load again ["a"] none).1.exported = (sample 2).exported := by
  have hwf : ∀ s ∈ (sample 2).students, s.IsWellFormed := by decide
  have hfile (content : ByteArray) :
      ((FileTree.empty []).place ["a"] (.file content)).readBytes "a" = .ok content := rfl
  have hnodup : (sample 2).ids.Nodup := by decide
  have hdups : (sample 2).ids.eraseDups.reverse = [1, 2] := by decide
  obtain ⟨_, _, _, hload⟩ := export_load_inverse (sample 2) hwf
  obtain ⟨hids, _, hagain⟩ := hload _ "a" (hfile (sample 2).exported)
  exact ⟨hwf, _, _, hids.trans hdups, hagain hnodup _ "a" (hfile _)⟩

end Roster

end StudentRoster
