import Mathlib.Data.List.Forall2
import StudentRoster.Proofs.Gpa.Number
import StudentRoster.Proofs.Roster.Actions
import StudentRoster.Proofs.Roster.Questions

/-!
# Rosters that are the same

Two rosters are the same when their students are alike one by one: equal in ids and texts, with
averages that stand for the same number (`sameAs_iff_alike`). A roster with an average that is no
number is not even the same as itself. Alike is less than equal, since the two zeros are the same
number; but no action, no search and no look-up sees the difference (`act_alike`,
`Alike.answers`), and a listing shows it only as the minus in front of a zero
(`Student.Alike.showsAlike`). So rosters that are the same stay so, whatever is done to both
(`sameAs_is_congruence`).
-/

set_option autoImplicit false

namespace StudentRoster

/-! ## Students -/

namespace Student

/-- Two students agree in ids and texts, and their averages stand for the same number. -/
structure Alike (a b : Student) : Prop where
  id : a.id = b.id
  firstName : a.firstName = b.firstName
  lastName : a.lastName = b.lastName
  gpa : ∃ x, a.gpa.number? = some x ∧ b.gpa.number? = some x
  major : a.major = b.major

/-- Two lines are the same, or else the same but for the minus in front of an average, and then both
averages are zero. -/
inductive ShowsAlike (a b : Student) : Prop
  | same (hline : a.line = b.line)
  | zero (front back : String) (ha : a.gpa.number? = some (.finite 0))
      (hb : b.gpa.number? = some (.finite 0))
      (hline : a.line = front ++ (if a.gpa.negative then "-" else "") ++ "0.00" ++ back)
      (hother : b.line = front ++ (if b.gpa.negative then "-" else "") ++ "0.00" ++ back)

variable {a b : Student}

/-- The comparison of two students says whether they are alike. -/
theorem sameAs_iff_alike : a.sameAs b = true ↔ a.Alike b := by
  simp only [sameAs, Bool.and_eq_true, beq_iff_eq, Gpa.sameValue_iff_number?]
  constructor
  · rintro ⟨⟨⟨⟨hid, hfirst⟩, hlast⟩, hgpa⟩, hmajor⟩
    exact ⟨hid, hfirst, hlast, hgpa, hmajor⟩
  · rintro ⟨hid, hfirst, hlast, hgpa, hmajor⟩
    exact ⟨⟨⟨⟨hid, hfirst⟩, hlast⟩, hgpa⟩, hmajor⟩

/-- A student is alike to itself unless the average is no number. -/
theorem alike_self_iff : a.Alike a ↔ a.gpa.isNaN = false := by
  rw [← sameAs_iff_alike, sameAs_self, Bool.not_eq_true']

/-- A recasing works on the texts and leaves the averages. -/
theorem Alike.recase (h : a.Alike b) (casing : Casing) :
    (a.recase casing).Alike (b.recase casing) where
  id := h.id
  firstName := congrArg casing.fixName h.firstName
  lastName := congrArg casing.fixName h.lastName
  gpa := h.gpa
  major := congrArg casing.fixMajor h.major

/-- What stands in front of the average on a line. -/
def beforeGpa (s : Student) : String :=
  String.ofList (Text.integerDigits s.id.toInt ++ ' ' :: s.firstName.toList ++
    ' ' :: s.lastName.toList ++ [' '])

/-- What stands behind the average on a line. -/
def behindGpa (s : Student) : String :=
  String.ofList (' ' :: s.major.toList)

/-- A line is the average with what stands around it. -/
theorem line_eq_around (s : Student) :
    s.line = s.beforeGpa ++ String.ofList s.gpa.text ++ s.behindGpa := by
  rw [line, beforeGpa, behindGpa, ← String.ofList_append, ← String.ofList_append, fields]
  simp [List.intercalate]

/-- The line of a student whose average is one of the zeros shows its sign. -/
theorem line_of_zero {s : Student} (h : (s.gpa.magnitude : ℕ) = 0) :
    s.line = s.beforeGpa ++ (if s.gpa.negative then "-" else "") ++ "0.00" ++ s.behindGpa := by
  have hsign (negative : Bool) :
      String.ofList ((if negative then ['-'] else []) ++ "0.00".toList) =
        (if negative then "-" else "") ++ "0.00" := by
    cases negative <;> decide
  rw [line_eq_around, Gpa.text_of_zero h, hsign, ← String.append_assoc]

/-- Students that are alike are shown alike. -/
theorem Alike.showsAlike (h : a.Alike b) : a.ShowsAlike b := by
  obtain ⟨hid, hfirst, hlast, ⟨x, hax, hbx⟩, hmajor⟩ := h
  rcases Gpa.eq_or_zero_of_number? hax hbx with hsame | ⟨ha, hb⟩
  · refine .same ?_
    rw [line, line, fields, fields, hid, hfirst, hlast, hsame, hmajor]
  · have hbefore : b.beforeGpa = a.beforeGpa := by
      rw [beforeGpa, beforeGpa, hid, hfirst, hlast]
    have hbehind : b.behindGpa = a.behindGpa := by
      rw [behindGpa, behindGpa, hmajor]
    refine .zero a.beforeGpa a.behindGpa (Gpa.number?_of_zero ha) (Gpa.number?_of_zero hb)
      (line_of_zero ha) ?_
    rw [line_of_zero hb, hbefore, hbehind]

end Student

/-! ## Rosters -/

namespace Roster

variable {s t : Roster}

/-- The students of two rosters are alike one by one, in the order in which they came. -/
def Alike (s t : Roster) : Prop :=
  List.Forall₂ Student.Alike s.arrivals.toList t.arrivals.toList

/-- Rosters are alike when they have the same size and alike students at each place. -/
theorem alike_iff : s.Alike t ↔ s.size = t.size ∧
    ∀ (place : Nat) (a b : Student), s.arrivals[place]? = some a →
      t.arrivals[place]? = some b → a.Alike b := by
  rw [Alike, List.forall₂_iff_get]
  refine and_congr Iff.rfl ⟨fun h place a b ha hb => ?_, fun h place hs ht => ?_⟩
  · obtain ⟨hs, rfl⟩ := Array.getElem?_eq_some_iff.mp ha
    obtain ⟨ht, rfl⟩ := Array.getElem?_eq_some_iff.mp hb
    exact h place hs ht
  · exact h place _ _ (Array.getElem?_eq_getElem hs) (Array.getElem?_eq_getElem ht)

/-- The comparison of two rosters says whether they are alike. -/
theorem sameAs_iff_alike : s.sameAs t = true ↔ s.Alike t := by
  rw [sameAs, Array.isEqv_iff_rel, Alike, List.forall₂_iff_get]
  simp only [Student.sameAs_iff_alike]
  constructor
  · rintro ⟨hsize, h⟩
    exact ⟨hsize, fun place hs _ => h place hs⟩
  · rintro ⟨hsize, h⟩
    exact ⟨hsize, fun place hs => h place hs (hsize ▸ hs)⟩

/-- A roster is alike to itself exactly when all its averages are numbers. -/
theorem alike_self_iff : s.Alike s ↔ ∀ student ∈ s.students, student.gpa.isNaN = false := by
  rw [Alike, List.forall₂_same]
  simp only [Student.alike_self_iff, students, List.mem_reverse]

/-- The students of alike rosters are alike one by one. -/
theorem Alike.students (h : s.Alike t) : List.Forall₂ Student.Alike s.students t.students :=
  List.forall₂_reverse_iff.mpr h

/-- Alike rosters have the same size. -/
theorem Alike.size_eq (h : s.Alike t) : s.size = t.size :=
  (alike_iff.mp h).1

/-- Students that are alike one by one have the same ids. -/
theorem ids_eq_of_forall₂ {found others : List Student}
    (h : List.Forall₂ Student.Alike found others) :
    found.map (·.id) = others.map (·.id) := by
  induction h with
  | nil => rfl
  | cons hhead _ ih => rw [List.map_cons, List.map_cons, hhead.id, ih]

/-- Alike rosters have the same ids. -/
theorem Alike.ids_eq (h : s.Alike t) : s.ids = t.ids :=
  ids_eq_of_forall₂ h.students

/-! ## Questions -/

/-- A test that does not tell alike students apart finds alike students. -/
theorem forall₂_filter {found others : List Student} {test : Student → Bool}
    (htest : ∀ a b : Student, a.Alike b → test a = test b)
    (h : List.Forall₂ Student.Alike found others) :
    List.Forall₂ Student.Alike (found.filter test) (others.filter test) :=
  List.rel_filter (fun a b hab => iff_of_eq (congrArg (· = true) (htest a b hab))) h

/-- The student that is found for an id has it. -/
theorem map_id_find? (roster : Roster) (id : Int32) :
    (roster.find? id).map (·.id) = roster.ids.find? (· == id) := by
  rw [find?, ids, List.find?_map]
  rfl

/-- A search by major reports the ids of the students that it finds. -/
theorem map_ids_searchMajor (roster : Roster) (query : String) :
    (roster.searchMajor query).map Report.ids =
      (roster.withMajor query).map fun found => found.map (·.id) := by
  rw [searchMajor]
  cases roster.withMajor query <;> rfl

/-- Two rosters answer every question about ids, last names and majors with the same ids. -/
structure AnswersAlike (s t : Roster) : Prop where
  contains : ∀ id, s.contains id = t.contains id
  find? : ∀ id, (s.find? id).map (·.id) = (t.find? id).map (·.id)
  withLastName : ∀ name,
    (s.withLastName name).map (·.id) = (t.withLastName name).map (·.id)
  withMajor : ∀ query, (s.withMajor query).map (fun found => found.map (·.id)) =
    (t.withMajor query).map fun found => found.map (·.id)
  lookUp : ∀ id, (s.lookUp id).ids = (t.lookUp id).ids
  check : ∀ id, (s.check id).ids = (t.check id).ids
  searchLastName : ∀ name, (s.searchLastName name).ids = (t.searchLastName name).ids
  searchMajor : ∀ query, (s.searchMajor query).map Report.ids = (t.searchMajor query).map Report.ids

/-- Alike rosters answer all questions alike. -/
theorem Alike.answers (h : s.Alike t) : s.AnswersAlike t := by
  have hlastName (name : String) :
      (s.withLastName name).map (·.id) = (t.withLastName name).map (·.id) :=
    ids_eq_of_forall₂ (forall₂_filter (fun a b hab => by rw [hab.lastName]) h.students)
  have hmajor (query : String) : (s.withMajor query).map (fun found => found.map (·.id)) =
      (t.withMajor query).map fun found => found.map (·.id) := by
    rw [withMajor, withMajor]
    split
    · rfl
    · exact congrArg Except.ok
        (ids_eq_of_forall₂ (forall₂_filter (fun a b hab => by rw [hab.major]) h.students))
  have hlookUp (id : Int32) : (s.lookUp id).ids = (t.lookUp id).ids := by
    rw [(s.lookUp_looksUp id).ids_eq, (t.lookUp_looksUp id).ids_eq, ← ids, ← ids, h.ids_eq]
  exact {
    contains := fun id => by
      rw [Bool.eq_iff_iff, contains_eq_true_iff, contains_eq_true_iff, h.ids_eq]
    find? := fun id => by rw [map_id_find?, map_id_find?, h.ids_eq]
    withLastName := hlastName
    withMajor := hmajor
    lookUp := hlookUp
    check := fun id => by rw [ids_check, ids_check, hlookUp]
    searchLastName := hlastName
    searchMajor := fun query => by rw [map_ids_searchMajor, map_ids_searchMajor, hmajor] }

/-! ## Actions -/

/-- The place of the newest student with an id is counted by the ids. -/
theorem place?_eq (roster : Roster) (id : Int32) :
    roster.place? id =
      (roster.ids.findIdx? (· == id)).map fun newer => roster.size - 1 - newer := by
  rw [place?, ids, List.findIdx?_map]
  rfl

/-- A removal finds the same place in both rosters, with students that are alike. -/
theorem Alike.take? (h : s.Alike t) (id : Int32) :
    Option.Rel (fun x y => x.1.Alike y.1 ∧ x.2.Alike y.2) (s.take? id) (t.take? id) := by
  have hplace : s.place? id = t.place? id := by
    rw [place?_eq, place?_eq, h.ids_eq, h.size_eq]
  rw [Roster.take?, Roster.take?, hplace]
  cases t.place? id with
  | none => exact .none
  | some place =>
    have hrest : List.Forall₂ Student.Alike (s.arrivals.toList.eraseIdx place)
        (t.arrivals.toList.eraseIdx place) := by
      rw [List.eraseIdx_eq_take_drop_succ, List.eraseIdx_eq_take_drop_succ]
      exact List.rel_append (List.forall₂_take place h) (List.forall₂_drop (place + 1) h)
    obtain ⟨hsize, hstudents⟩ := alike_iff.mp h
    simp only [Option.bind_eq_bind, Option.bind_some]
    by_cases hplace : place < s.size
    · have hplace' : place < t.size := hsize ▸ hplace
      have hs : s.arrivals[place]? = some s.arrivals[place] := Array.getElem?_eq_getElem hplace
      have ht : t.arrivals[place]? = some t.arrivals[place] := Array.getElem?_eq_getElem hplace'
      rw [hs, ht]
      refine .some ⟨hstudents place _ _ hs ht, ?_⟩
      rw [Alike, Array.toList_eraseIdxIfInBounds, Array.toList_eraseIdxIfInBounds]
      exact hrest
    · have hplace' : ¬place < t.size := hsize ▸ hplace
      have hs : s.arrivals[place]? = none := Array.getElem?_eq_none (Nat.le_of_not_lt hplace)
      have ht : t.arrivals[place]? = none := Array.getElem?_eq_none (Nat.le_of_not_lt hplace')
      rw [hs, ht]
      exact .none

end Roster

/-- An action brings only students whose averages are numbers. -/
def RosterAction.BringsNumbers : RosterAction → Prop
  | .insert student | .enroll student => student.gpa.isNaN = false
  | .insertAll students => ∀ student ∈ students, student.gpa.isNaN = false
  | .take _ | .clear | .recase _ => True

/-- Two answers are equal, but for students that are alike. -/
inductive RosterAnswer.Alike : RosterAnswer → RosterAnswer → Prop
  | done : RosterAnswer.Alike .done .done
  | refused (failure : Failure) : RosterAnswer.Alike (.refused failure) (.refused failure)
  | nobody : RosterAnswer.Alike (.taken none) (.taken none)
  | taken {a b : Student} (h : a.Alike b) : RosterAnswer.Alike (.taken (some a)) (.taken (some b))

namespace Roster

variable {s t : Roster}

/-- Alike rosters stay alike when the same student with a number is inserted. -/
theorem Alike.insert (h : s.Alike t) {student : Student} (hnumber : student.gpa.isNaN = false) :
    (s.insert student).Alike (t.insert student) := by
  rw [Alike, Roster.insert, Roster.insert, Array.toList_push, Array.toList_push]
  exact List.rel_append h (.cons (Student.alike_self_iff.mpr hnumber) .nil)

/-- Alike rosters stay alike when the same students with numbers are inserted. -/
theorem Alike.insertAll (h : s.Alike t) {students : List Student}
    (hnumbers : ∀ student ∈ students, student.gpa.isNaN = false) :
    (s.insertAll students).Alike (t.insertAll students) := by
  induction students generalizing s t with
  | nil => exact h
  | cons student rest ih =>
    obtain ⟨hfirst, hrest⟩ := List.forall_mem_cons.mp hnumbers
    exact ih (h.insert hfirst) hrest

/-- Alike rosters stay alike when both are recased. -/
theorem Alike.recase (h : s.Alike t) (casing : Casing) :
    (s.recase casing).Alike (t.recase casing) := by
  rw [Alike, Roster.recase, Roster.recase, Array.toList_map, Array.toList_map]
  exact List.rel_map (fun a b hab => hab.recase casing) h

/-- One action keeps rosters alike, and its answers are. -/
theorem act_alike (h : s.Alike t) {action : RosterAction} (hbrings : action.BringsNumbers) :
    (s.act action).1.Alike (t.act action).1 ∧ (s.act action).2.Alike (t.act action).2 := by
  cases action with
  | insert student => exact ⟨h.insert hbrings, .done⟩
  | enroll student =>
    rw [act, act, enroll, enroll, h.answers.contains]
    by_cases htaken : t.contains student.id = true
    · simp only [if_pos htaken]
      exact ⟨h, .refused _⟩
    · simp only [if_neg htaken]
      exact ⟨h.insert hbrings, .done⟩
  | insertAll students => exact ⟨h.insertAll hbrings, .done⟩
  | take id =>
    rw [act, act]
    rcases hs : s.take? id with _ | ⟨a, rest⟩ <;> rcases ht : t.take? id with _ | ⟨b, rest'⟩ <;>
      have htaken := h.take? id <;> rw [hs, ht] at htaken
    · exact ⟨h, .nobody⟩
    · cases htaken
    · cases htaken
    · obtain ⟨hab, hrest⟩ : a.Alike b ∧ rest.Alike rest' := by
        cases htaken
        assumption
      exact ⟨hrest, .taken hab⟩
  | clear => exact ⟨.nil, .done⟩
  | recase casing => exact ⟨h.recase casing, .done⟩

/-! ## The congruence -/

/-- Two rosters are the same exactly when they have the same size and students that are alike place
by place; so a roster is the same as itself exactly when all its averages are numbers. Whatever is
done to two rosters that are the same, as long as no average comes in that is no number, they stay
the same and give answers that are alike. They answer every question with the same ids, and their
listings have the same lines, but for a minus in front of an average that is zero. -/
theorem sameAs_is_congruence (s t : Roster) :
    (s.sameAs t = true ↔ s.size = t.size ∧
      ∀ (place : Nat) (a b : Student), s.arrivals[place]? = some a →
        t.arrivals[place]? = some b → a.Alike b) ∧
    (s.sameAs s = true ↔ ∀ student ∈ s.students, student.gpa.isNaN = false) ∧
    (s.sameAs t = true →
      (∀ actions : List RosterAction, (∀ action ∈ actions, action.BringsNumbers) →
        (runActions act s actions).1.sameAs (runActions act t actions).1 = true ∧
        List.Forall₂ (fun entry other => entry.1 = other.1 ∧ entry.2.Alike other.2)
          (runActions act s actions).2 (runActions act t actions).2) ∧
      s.AnswersAlike t ∧
      Listing.print s.students = String.join (s.students.map fun a => a.line ++ "\n") ∧
      Listing.print t.students = String.join (t.students.map fun a => a.line ++ "\n") ∧
      List.Forall₂ Student.ShowsAlike s.students t.students) := by
  refine ⟨sameAs_iff_alike.trans alike_iff, sameAs_iff_alike.trans alike_self_iff, fun hsame => ?_⟩
  have h := sameAs_iff_alike.mp hsame
  refine ⟨fun actions hbrings => ?_, h.answers, rfl, rfl,
    h.students.imp fun a b hab => hab.showsAlike⟩
  obtain ⟨hlast, hhistory⟩ := runActions_relates act_alike h hbrings
  exact ⟨sameAs_iff_alike.mpr hlast, hhistory⟩

/-- The two zeros are the same and listed differently, and a removal gives back students that are
alike and not equal. -/
theorem sameAs_is_congruence_zeros :
    let ann (negative : Bool) : Student := ⟨1, "ann", "lee", ⟨negative, 0⟩, "art"⟩
    let s := ofList [ann false]
    let t := ofList [ann true]
    s.sameAs t = true ∧ s ≠ t ∧ Listing.print s.students ≠ Listing.print t.students ∧
      (runActions act s [.take 1]).2 ≠ (runActions act t [.take 1]).2 ∧
      (runActions act s [.take 1, .insert (ann true)]).1.sameAs
        (runActions act t [.take 1, .insert (ann true)]).1 = true ∧
      (ofList [{ ann false with gpa := .nan }]).sameAs (ofList [{ ann false with gpa := .nan }]) =
        false := by
  intro ann s t
  have hsame : s.sameAs t = true := by decide +kernel
  have hruns := ((sameAs_is_congruence s t).2.2 hsame).1 [.take 1, .insert (ann true)]
    (List.forall_mem_cons.mpr ⟨trivial, List.forall_mem_singleton.mpr rfl⟩)
  exact ⟨hsame, by decide +kernel, by decide +kernel, by decide +kernel, hruns.1,
    by decide +kernel⟩

end Roster

end StudentRoster
