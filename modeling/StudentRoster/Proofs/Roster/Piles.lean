import Mathlib.Logic.Function.Basic
import StudentRoster.Proofs.Listing.Reread
import StudentRoster.Proofs.Roster.Actions

/-!
# A roster is a pile for each id

Students of one id lie on a pile, each with the moment at which it came, and the moments order the
students of all piles. The actions on such piles are plain: an insertion pushes, a removal pops,
an enrollment asks for an empty pile. A roster that was built from a list and changed by any
actions answers like the piles that were built and changed in the same way, and all ways of looking
at it show what is on the piles (`run_shows_piles`). What carries the proof is that the students
of the roster are the entries of the piles by their moments (`Follows`), which every action keeps
(`act_follows`).
-/

set_option autoImplicit false

namespace StudentRoster

/-! ## Piles -/

/-- A student with the moment at which it came. -/
structure Entry where
  moment : Nat
  student : Student

/-- The entry of the recased student, at the moment at which it came. -/
def Entry.recase (casing : Casing) (entry : Entry) : Entry :=
  { entry with student := entry.student.recase casing }

/-- A pile of entries for each id, and the moment that comes next. -/
structure Piles where
  clock : Nat
  pile : Int32 → List Entry

namespace Piles

/-- No entry on any pile, and the first moment. -/
def empty : Piles := ⟨0, fun _ => []⟩

/-- Puts a student on the pile of its id. -/
def push (piles : Piles) (student : Student) : Piles where
  clock := piles.clock + 1
  pile := Function.update piles.pile student.id
    (⟨piles.clock, student⟩ :: piles.pile student.id)

/-- Takes the top off the pile of an id. -/
def pop (piles : Piles) (id : Int32) : Piles :=
  { piles with pile := Function.update piles.pile id (piles.pile id).tail }

/-- Puts students on their piles, one after the other. -/
def pushAll (piles : Piles) (students : List Student) : Piles :=
  students.foldl push piles

/-- The piles of students that came one after the other. -/
def ofList (students : List Student) : Piles := empty.pushAll students

/-- Takes everything off; the moments go on. -/
def clear (piles : Piles) : Piles := { piles with pile := fun _ => [] }

/-- Recases all entries where they lie. -/
def recase (piles : Piles) (casing : Casing) : Piles :=
  { piles with pile := fun id => (piles.pile id).map (Entry.recase casing) }

/-- The student on top of the pile of an id. -/
def top? (piles : Piles) (id : Int32) : Option Student :=
  (piles.pile id).head?.map (·.student)

/-- The piles after an action, and the answer. -/
def act (piles : Piles) : RosterAction → Piles × RosterAnswer
  | .insert student => (piles.push student, .done)
  | .enroll student =>
    match piles.pile student.id with
    | [] => (piles.push student, .done)
    | _ :: _ => (piles, .refused (.duplicateId student.id))
  | .insertAll students => (piles.pushAll students, .done)
  | .take id =>
    match piles.pile id with
    | [] => (piles, .taken none)
    | top :: _ => (piles.pop id, .taken (some top.student))
  | .clear => (piles.clear, .done)
  | .recase casing => (piles.recase casing, .done)

/-! ## The entries of all piles -/

/-- The entries of all piles by their moments, the newest first. -/
structure IsTraversal (piles : Piles) (entries : List Entry) : Prop where
  newest_first : entries.Pairwise fun newer older => older.moment < newer.moment
  past : ∀ entry ∈ entries, entry.moment < piles.clock
  pile_eq : ∀ id, piles.pile id = entries.filter fun entry => entry.student.id = id

section traversal

variable {piles : Piles} {entries : List Entry}

/-- Empty piles have no entries. -/
theorem isTraversal_empty : empty.IsTraversal [] :=
  ⟨List.Pairwise.nil, by simp, fun _ => rfl⟩

/-- Cleared piles have no entries. -/
theorem isTraversal_clear (piles : Piles) : piles.clear.IsTraversal [] :=
  ⟨List.Pairwise.nil, by simp, fun _ => rfl⟩

/-- What is pushed is the newest. -/
theorem IsTraversal.push (h : piles.IsTraversal entries) (student : Student) :
    (piles.push student).IsTraversal (⟨piles.clock, student⟩ :: entries) := by
  refine ⟨List.pairwise_cons.mpr ⟨h.past, h.newest_first⟩, ?_, ?_⟩
  · intro entry hentry
    rcases List.mem_cons.mp hentry with rfl | hold
    · exact Nat.lt_succ_self piles.clock
    · exact Nat.lt_succ_of_lt (h.past entry hold)
  · intro id
    show Function.update piles.pile student.id _ id = _
    by_cases hid : id = student.id
    · subst hid
      rw [Function.update_self, List.filter_cons_of_pos (by simp), h.pile_eq]
    · rw [Function.update_of_ne hid, List.filter_cons_of_neg (by simpa using Ne.symm hid),
        h.pile_eq]

/-- Recasing keeps ids and moments. -/
theorem IsTraversal.recase (h : piles.IsTraversal entries) (casing : Casing) :
    (piles.recase casing).IsTraversal (entries.map (Entry.recase casing)) := by
  refine ⟨List.pairwise_map.mpr h.newest_first, ?_, ?_⟩
  · intro entry hentry
    obtain ⟨old, hold, rfl⟩ := List.mem_map.mp hentry
    exact h.past old hold
  · intro id
    show (piles.pile id).map (Entry.recase casing) = _
    rw [h.pile_eq, List.filter_map]
    rfl

/-- The top of a pile stands behind entries of other ids only. -/
theorem IsTraversal.exists_split (h : piles.IsTraversal entries) {id : Int32} {top : Entry}
    {rest : List Entry} (hpile : piles.pile id = top :: rest) :
    ∃ newer older, entries = newer ++ top :: older ∧ top.student.id = id ∧
      ∀ entry ∈ newer, entry.student.id ≠ id := by
  rw [h.pile_eq] at hpile
  obtain ⟨newer, older, hentries, hnewer, htop, _⟩ := List.filter_eq_cons_iff.mp hpile
  exact ⟨newer, older, hentries, by simpa using htop, by simpa using hnewer⟩

/-- Without the top of one pile the other entries stay in their order. -/
theorem IsTraversal.pop {id : Int32} {top : Entry} {newer older : List Entry}
    (h : piles.IsTraversal (newer ++ top :: older)) (htop : top.student.id = id)
    (hnewer : ∀ entry ∈ newer, entry.student.id ≠ id) :
    (piles.pop id).IsTraversal (newer ++ older) := by
  have hsub : (newer ++ older).Sublist (newer ++ top :: older) :=
    List.Sublist.append_left (List.sublist_cons_self top older) newer
  refine ⟨h.newest_first.sublist hsub, fun entry hentry => h.past entry (hsub.subset hentry), ?_⟩
  intro other
  show Function.update piles.pile id _ other = _
  by_cases hother : other = id
  · subst hother
    have hnone : newer.filter (fun entry => entry.student.id = other) = [] :=
      List.filter_eq_nil_iff.mpr fun entry hentry => by simpa using hnewer entry hentry
    rw [Function.update_self, h.pile_eq, List.filter_append, List.filter_append, hnone,
      List.nil_append, List.filter_cons_of_pos (by simpa using htop), List.tail_cons,
      List.nil_append]
  · have hskip : top.student.id ≠ other := fun heq => hother (heq.symm.trans htop)
    rw [Function.update_of_ne hother, h.pile_eq, List.filter_append, List.filter_append,
      List.filter_cons_of_neg (by simpa using hskip)]

end traversal

end Piles

/-! ## A roster and its piles -/

namespace Roster

variable {roster : Roster} {piles : Piles}

/-- The students of a roster are the entries of all piles, the newest first. -/
def Follows (roster : Roster) (piles : Piles) : Prop :=
  ∃ entries, piles.IsTraversal entries ∧ roster.students = entries.map (·.student)

/-- The empty roster follows the empty piles. -/
theorem follows_empty : empty.Follows Piles.empty :=
  ⟨[], Piles.isTraversal_empty, rfl⟩

/-- A student that is inserted is put on its pile. -/
theorem Follows.insert (h : roster.Follows piles) (student : Student) :
    (roster.insert student).Follows (piles.push student) := by
  obtain ⟨entries, htraversal, hstudents⟩ := h
  refine ⟨_, htraversal.push student, ?_⟩
  rw [students_insert, hstudents, List.map_cons]

/-- Students that are inserted are put on their piles. -/
theorem Follows.insertAll (h : roster.Follows piles) (students : List Student) :
    (roster.insertAll students).Follows (piles.pushAll students) := by
  induction students generalizing roster piles with
  | nil => exact h
  | cons student rest ih => exact ih (h.insert student)

/-- The top of a pile is the newest match in the roster. -/
theorem Follows.exists_split (h : roster.Follows piles) {id : Int32} {top : Entry}
    {rest : List Entry} (hpile : piles.pile id = top :: rest) :
    ∃ newer older, roster.IsSplit id newer top.student older ∧
      (⟨(older.reverse ++ newer.reverse).toArray⟩ : Roster).Follows (piles.pop id) := by
  obtain ⟨entries, htraversal, hstudents⟩ := h
  obtain ⟨newer, older, rfl, htop, hnewer⟩ := htraversal.exists_split hpile
  refine ⟨newer.map (·.student), older.map (·.student), ⟨?_, htop, ?_⟩, newer ++ older, ?_, ?_⟩
  · rw [hstudents, List.map_append, List.map_cons]
  · rw [List.map_map]
    intro hmem
    obtain ⟨entry, hentry, hid⟩ := List.mem_map.mp hmem
    exact hnewer entry hentry hid
  · exact htraversal.pop htop hnewer
  · simp [students]

/-- An id is taken exactly when its pile is not empty. -/
theorem Follows.mem_ids_iff (h : roster.Follows piles) (id : Int32) :
    id ∈ roster.ids ↔ piles.pile id ≠ [] := by
  obtain ⟨entries, htraversal, hstudents⟩ := h
  rw [ids, hstudents, List.map_map, htraversal.pile_eq, ne_eq, List.filter_eq_nil_iff]
  simp

/-- An id whose pile is empty is not in the roster. -/
theorem Follows.not_mem_ids (h : roster.Follows piles) {id : Int32} (hpile : piles.pile id = []) :
    id ∉ roster.ids :=
  fun hid => (h.mem_ids_iff id).mp hid hpile

/-- A student whose id is there is refused. -/
theorem act_enroll_of_mem {student : Student} (h : student.id ∈ roster.ids) :
    roster.act (.enroll student) = (roster, .refused (.duplicateId student.id)) := by
  rw [act, enroll, if_pos (contains_eq_true_iff.mpr h)]

/-- A student whose id is not there is inserted. -/
theorem act_enroll_of_not_mem {student : Student} (h : student.id ∉ roster.ids) :
    roster.act (.enroll student) = (roster.insert student, .done) := by
  rw [act, enroll, if_neg (mt contains_eq_true_iff.mp h)]

/-- The newest student with an id is taken out from between the others. -/
theorem act_take_of_split {id : Int32} {newer older : List Student} {student : Student}
    (h : roster.IsSplit id newer student older) :
    roster.act (.take id) =
      (⟨(older.reverse ++ newer.reverse).toArray⟩, .taken (some student)) := by
  rw [act, take?_of_split h]

/-- Nothing is taken out for an id that is not there. -/
theorem act_take_of_not_mem {id : Int32} (h : id ∉ roster.ids) :
    roster.act (.take id) = (roster, .taken none) := by
  rw [act, take?_of_not_mem_ids h]

/-- Every action on a roster is answered as on its piles, and the roster goes on to follow them. -/
theorem act_follows (h : roster.Follows piles) (action : RosterAction) :
    (roster.act action).1.Follows (piles.act action).1 ∧
      (roster.act action).2 = (piles.act action).2 := by
  cases action with
  | insert student => exact ⟨h.insert student, rfl⟩
  | enroll student =>
    rw [Piles.act]
    cases hpile : piles.pile student.id with
    | nil =>
      rw [act_enroll_of_not_mem (h.not_mem_ids hpile)]
      exact ⟨h.insert student, rfl⟩
    | cons top rest =>
      rw [act_enroll_of_mem ((h.mem_ids_iff student.id).mpr (by simp [hpile]))]
      exact ⟨h, rfl⟩
  | insertAll students => exact ⟨h.insertAll students, rfl⟩
  | take id =>
    rw [Piles.act]
    cases hpile : piles.pile id with
    | nil =>
      rw [act_take_of_not_mem (h.not_mem_ids hpile)]
      exact ⟨h, rfl⟩
    | cons top rest =>
      obtain ⟨newer, older, hsplit, hnext⟩ := h.exists_split hpile
      rw [act_take_of_split hsplit]
      exact ⟨hnext, rfl⟩
  | clear => exact ⟨⟨[], piles.isTraversal_clear, rfl⟩, rfl⟩
  | recase casing =>
    obtain ⟨entries, htraversal, hstudents⟩ := h
    refine ⟨⟨entries.map (Entry.recase casing), htraversal.recase casing, ?_⟩, rfl⟩
    show (roster.recase casing).students = _
    rw [students_recase, hstudents, List.map_map, List.map_map]
    rfl

/-! ## What a roster shows -/

/-- All that can be seen of a roster is what lies on its piles. -/
structure Shows (roster : Roster) (piles : Piles) : Prop where
  /-- A walk through the roster and its listing give the entries of all piles, the newest first. -/
  students : ∃ entries, piles.IsTraversal entries ∧
    roster.students = entries.map (·.student) ∧
    (Sink.empty none).writeStudents roster.students =
      (⟨none, (String.join (entries.map fun entry => entry.student.line ++ "\n")).toUTF8⟩, .ok ())
  /-- A search finds the top of a pile, and a removal takes it. -/
  find : ∀ id, roster.find? id = piles.top? id ∧ (roster.take? id).map Prod.fst = piles.top? id
  contains : ∀ id, roster.contains id = true ↔ piles.pile id ≠ []
  /-- An enrollment is refused, and then changes nothing, exactly when the pile is not empty. -/
  enroll : ∀ student, piles.pile student.id ≠ [] ↔
    roster.act (.enroll student) = (roster, .refused (.duplicateId student.id))
  take_none : ∀ id, piles.pile id = [] → roster.act (.take id) = (roster, .taken none)
  /-- A removal takes the top of a pile and leaves all others in their order. -/
  take_some : ∀ id student, piles.top? id = some student → ∃ newer older rest,
    roster.students = newer ++ student :: older ∧ student.id = id ∧ id ∉ newer.map (·.id) ∧
    roster.act (.take id) = (rest, .taken (some student)) ∧ rest.students = newer ++ older

/-- What is found is what lies on top of the pile. -/
theorem Follows.find?_eq (h : roster.Follows piles) (id : Int32) :
    roster.find? id = piles.top? id := by
  rw [Piles.top?]
  cases hpile : piles.pile id with
  | nil => exact find?_of_not_mem_ids (h.not_mem_ids hpile)
  | cons top rest =>
    obtain ⟨newer, older, hsplit, _⟩ := h.exists_split hpile
    exact find?_of_split hsplit

/-- An enrollment is refused when there is a pile for the id. -/
theorem Follows.enroll_refused_iff (h : roster.Follows piles) (student : Student) :
    piles.pile student.id ≠ [] ↔
      roster.act (.enroll student) = (roster, .refused (.duplicateId student.id)) := by
  rw [← h.mem_ids_iff]
  refine ⟨act_enroll_of_mem, fun hact => ?_⟩
  by_contra hid
  rw [act_enroll_of_not_mem hid] at hact
  cases (Prod.mk.inj hact).2

/-- What follows the piles shows them. -/
theorem Follows.shows (h : roster.Follows piles) : roster.Shows piles where
  students := by
    obtain ⟨entries, htraversal, hstudents⟩ := h
    refine ⟨entries, htraversal, hstudents, ?_⟩
    rw [Sink.empty, Sink.writeStudents_unbounded, ByteArray.empty_append, Listing.print, hstudents,
      List.map_map]
    rfl
  find id := by
    rw [map_fst_take?]
    exact ⟨h.find?_eq id, h.find?_eq id⟩
  contains id := by rw [contains_eq_true_iff, h.mem_ids_iff]
  enroll := h.enroll_refused_iff
  take_none id hpile := act_take_of_not_mem (h.not_mem_ids hpile)
  take_some id student htop := by
    obtain ⟨top, hhead, rfl⟩ := Option.map_eq_some_iff.mp htop
    obtain ⟨rest, hpile⟩ := List.head?_eq_some_iff.mp hhead
    obtain ⟨newer, older, hsplit, _⟩ := h.exists_split hpile
    refine ⟨newer, older, _, hsplit.students_eq, hsplit.id_eq, hsplit.not_mem,
      act_take_of_split hsplit, ?_⟩
    simp [Roster.students]

/-- A roster that was built from a list and then changed by any actions answers like piles that were
built and changed in the same way, and shows what lies on them. Its size with the number of students
taken out since it was last cleared is the number that came in since then, where those of the list
count unless it was cleared. -/
theorem run_shows_piles (initial : List Student) (actions : List RosterAction) :
    (runActions act (ofList initial) actions).2 =
      (runActions Piles.act (Piles.ofList initial) actions).2 ∧
    (runActions act (ofList initial) actions).1.Shows
      (runActions Piles.act (Piles.ofList initial) actions).1 ∧
    (runActions act (ofList initial) actions).1.size +
        ((sinceClear (runActions act (ofList initial) actions).2).map takenOut).sum =
      (if .clear ∈ actions then 0 else initial.length) +
        ((sinceClear (runActions act (ofList initial) actions).2).map broughtIn).sum := by
  have hstart : (ofList initial).Follows (Piles.ofList initial) := follows_empty.insertAll initial
  obtain ⟨hfollows, hhistory⟩ := runActions_simulates act_follows hstart actions
  have hsize : (ofList initial).size = initial.length := by
    rw [← length_students, students_ofList, List.length_reverse]
  refine ⟨hhistory, hfollows.shows, ?_⟩
  rw [← hsize]
  exact size_run (ofList initial) actions

end Roster

end StudentRoster
