import StudentRoster.Proofs.Casing.Letters
import StudentRoster.Roster

/-!
# Searches and their places

A search answers with some of the students in their order. Its places are those at which these
students stand, counted from the newest. They are the places of the students that pass its test
(`placesOf_filter`), and the answer has one student for each of them, in their order
(`isInOrder_filter`). When roster and query are recased together, what was found stays found, and in
the title casing a search finds exactly what differs from the query in letter case only
(`recased_search_finds`).
-/

set_option autoImplicit false

namespace StudentRoster

/-! ## Places in a list -/

section list

variable {α : Type} {test other : α → Bool} {items : List α}

/-- Tests that agree on a list find the same places in it. -/
theorem findIdxs_congr (h : ∀ item ∈ items, test item = other item) (start : Nat) :
    items.findIdxs test start = items.findIdxs other start := by
  induction items generalizing start with
  | nil => rfl
  | cons item rest ih =>
    have hrest := ih fun later hlater => h later (List.mem_cons_of_mem item hlater)
    rw [List.findIdxs_cons, List.findIdxs_cons, h item List.mem_cons_self, hrest]

/-- A test that more items pass finds more places. -/
theorem findIdxs_subset (h : ∀ item ∈ items, test item = true → other item = true) :
    items.findIdxs test ⊆ items.findIdxs other := by
  intro place hplace
  rw [List.mem_findIdxs_iff_exists_getElem_pos] at hplace ⊢
  obtain ⟨hlt, htest⟩ := hplace
  exact ⟨hlt, h _ (List.getElem_mem hlt) htest⟩

end list

namespace Roster

open Text

variable (roster : Roster)

/-! ## Places of an answer -/

/-- The places, counted from the newest student, at which students of an answer stand. -/
def placesOf (found : List Student) : List Nat :=
  roster.students.findIdxs fun student => student ∈ found

/-- An answer that is made by a test has the places of the students that pass it. -/
theorem placesOf_filter (test : Student → Bool) :
    roster.placesOf (roster.students.filter test) = roster.students.findIdxs test := by
  apply findIdxs_congr
  intro student hstudent
  simp [hstudent]

/-- The places of an answer are told in the order of the roster, each once. -/
theorem pairwise_placesOf (found : List Student) : (roster.placesOf found).Pairwise (· < ·) :=
  List.pairwise_findIdxs

/-- An answer has one student for each of its places, the one that stands there, in the order of the
roster. -/
def IsInOrder (found : List Student) : Prop :=
  (roster.placesOf found).Pairwise (· < ·) ∧
    (roster.placesOf found).map (roster.students[·]?) = found.map some

/-- An answer that is made by a test is in order. -/
theorem isInOrder_filter (test : Student → Bool) :
    roster.IsInOrder (roster.students.filter test) := by
  refine ⟨roster.pairwise_placesOf _, ?_⟩
  rw [placesOf_filter]
  apply List.ext_getElem
  · rw [List.length_map, List.length_map, List.length_findIdxs, List.countP_eq_length_filter]
  · intro place hplace hfound
    rw [List.getElem_map, List.getElem_map, List.getElem?_eq_getElem,
      List.getElem_filter_eq_getElem_getElem_findIdxs]

/-- The places of a search in a recased roster, told by the students before. -/
theorem placesOf_filter_recase (casing : Casing) (test : Student → Bool) :
    (roster.recase casing).placesOf ((roster.recase casing).students.filter test) =
      roster.students.findIdxs fun student => test (student.recase casing) := by
  rw [placesOf_filter, students_recase, List.findIdxs_map]
  rfl

/-! ## Searches by major -/

/-- The students that a search by major finds if its query is long enough. -/
theorem withMajor_eq_ok_iff (query : String) {found : List Student} :
    roster.withMajor query = .ok found ↔
      majorWidth ≤ (majorCode query).length ∧
        found = roster.students.filter fun student =>
          majorCode student.major == majorCode query := by
  rw [withMajor]
  split
  next hshort => simp [Nat.not_le_of_lt hshort]
  next hlong => simp [Nat.le_of_not_lt hlong, eq_comm]

/-- The searches by major that are refused. -/
theorem withMajor_eq_error_iff (query : String) :
    roster.withMajor query = .error (.shortMajor query) ↔
      (majorCode query).length < majorWidth := by
  rw [withMajor]
  split
  next hshort => simp [hshort]
  next hlong => simp [hlong]

/-- A search by major answers in order. -/
theorem isInOrder_of_withMajor {query : String} {found : List Student}
    (h : roster.withMajor query = .ok found) : roster.IsInOrder found := by
  obtain ⟨-, rfl⟩ := (roster.withMajor_eq_ok_iff query).mp h
  exact roster.isInOrder_filter _

/-- A casing treats the characters of a major one by one, so that it may as well treat the code. -/
theorem majorCode_fixMajor (casing : Casing) (major : String) :
    majorCode (casing.fixMajor major) = (majorCode major).map casing.capital := by
  rw [majorCode, majorCode, Casing.toList_fixMajor, List.map_take]

/-- A casing keeps the length of the code. -/
theorem length_majorCode_fixMajor (casing : Casing) (major : String) :
    (majorCode (casing.fixMajor major)).length = (majorCode major).length := by
  rw [majorCode_fixMajor, List.length_map]

/-! ## Roster and query recased together -/

variable (casing : Casing) (query : String)

/-- The places of a search by last name in a recased roster, told by the students before. -/
theorem placesOf_withLastName_recase :
    (roster.recase casing).placesOf
        ((roster.recase casing).withLastName (casing.fixName query)) =
      roster.students.findIdxs fun s => casing.fixName s.lastName == casing.fixName query :=
  roster.placesOf_filter_recase casing fun s => s.lastName == casing.fixName query

/-- The places of a search by major in a recased roster, told by the students before. -/
theorem placesOf_withMajor_recase {found : List Student}
    (h : (roster.recase casing).withMajor (casing.fixMajor query) = .ok found) :
    (roster.recase casing).placesOf found =
      roster.students.findIdxs fun s =>
        (majorCode s.major).map casing.capital == (majorCode query).map casing.capital := by
  obtain ⟨-, rfl⟩ := ((roster.recase casing).withMajor_eq_ok_iff _).mp h
  rw [placesOf_filter_recase]
  simp only [Student.recase, majorCode_fixMajor]

/-- A search by last name loses no place when roster and query are recased. -/
theorem placesOf_withLastName_subset :
    roster.placesOf (roster.withLastName query) ⊆
      (roster.recase casing).placesOf
        ((roster.recase casing).withLastName (casing.fixName query)) := by
  rw [placesOf_withLastName_recase, withLastName, placesOf_filter]
  apply findIdxs_subset
  intro s _ hname
  rw [beq_iff_eq] at hname ⊢
  rw [hname]

/-- A search by major loses no place when roster and query are recased. -/
theorem placesOf_withMajor_subset {found : List Student} (h : roster.withMajor query = .ok found) :
    ∃ later, (roster.recase casing).withMajor (casing.fixMajor query) = .ok later ∧
      roster.placesOf found ⊆ (roster.recase casing).placesOf later := by
  obtain ⟨hlong, rfl⟩ := (roster.withMajor_eq_ok_iff query).mp h
  have hlater := ((roster.recase casing).withMajor_eq_ok_iff (casing.fixMajor query)).mpr
    ⟨by rwa [length_majorCode_fixMajor], rfl⟩
  refine ⟨_, hlater, ?_⟩
  rw [placesOf_withMajor_recase roster casing query hlater, placesOf_filter]
  apply findIdxs_subset
  intro s _ hcode
  rw [beq_iff_eq] at hcode ⊢
  rw [hcode]

/-- A search by major is refused after a recasing when it was before. -/
theorem withMajor_recase_error_iff :
    (roster.recase casing).withMajor (casing.fixMajor query) =
        .error (.shortMajor (casing.fixMajor query)) ↔
      roster.withMajor query = .error (.shortMajor query) := by
  rw [withMajor_eq_error_iff, withMajor_eq_error_iff, length_majorCode_fixMajor]

/-- After roster and query were recased together, a search by last name finds every place that it
found before, and so does a search by major, which is refused exactly when it was refused before. In
the title casing the places are exactly those of the students whose last name, or the code of whose
major, differs from that of the query in letter case only. Each of these answers has one student for
each of its places, in the order of the places. -/
theorem recased_search_finds (roster : Roster) (casing : Casing) (query : String) :
    let later := roster.recase casing
    let named := roster.withLastName query
    let renamed := later.withLastName (casing.fixName query)
    let recasedMajor := later.withMajor (casing.fixMajor query)
    (roster.IsInOrder named ∧ later.IsInOrder renamed ∧
      roster.placesOf named ⊆ later.placesOf renamed) ∧
    (∀ found, roster.withMajor query = .ok found → roster.IsInOrder found ∧
      ∃ again, recasedMajor = .ok again ∧ later.IsInOrder again ∧
        roster.placesOf found ⊆ later.placesOf again) ∧
    (recasedMajor = .error (.shortMajor (casing.fixMajor query)) ↔
      roster.withMajor query = .error (.shortMajor query)) ∧
    (casing = .title →
      later.placesOf renamed =
        roster.students.findIdxs (fun s => SameLetters s.lastName.toList query.toList) ∧
      ∀ again, recasedMajor = .ok again → later.IsInOrder again ∧
        later.placesOf again =
          roster.students.findIdxs fun s => SameLetters (majorCode s.major) (majorCode query)) := by
  intro later named renamed recasedMajor
  refine ⟨⟨roster.isInOrder_filter _, later.isInOrder_filter _,
    roster.placesOf_withLastName_subset casing query⟩, fun found hfound => ?_,
    roster.withMajor_recase_error_iff casing query, ?_⟩
  · obtain ⟨again, hagain, hsubset⟩ := roster.placesOf_withMajor_subset casing query hfound
    exact ⟨roster.isInOrder_of_withMajor hfound, again, hagain,
      later.isInOrder_of_withMajor hagain, hsubset⟩
  -- two texts have the same title exactly when they differ in letter case only
  rintro rfl
  refine ⟨?_, fun again hagain => ⟨later.isInOrder_of_withMajor hagain, ?_⟩⟩
  · rw [placesOf_withLastName_recase]
    apply findIdxs_congr
    intro s _
    rw [Bool.eq_iff_iff, beq_iff_eq, decide_eq_true_eq, Casing.title_fixName_eq_iff]
  · rw [placesOf_withMajor_recase roster .title query hagain]
    apply findIdxs_congr
    intro s _
    rw [Bool.eq_iff_iff, beq_iff_eq, decide_eq_true_eq, Casing.map_title_capital_eq_iff]

/-- Before a recasing one of two students called Lee is found, and afterwards both are, the newer
one first. -/
theorem recased_search_finds_lee :
    let ann : Student := ⟨1, "ann", "lee", .ofDecimal false 35 (-1), "csc"⟩
    let bob : Student := ⟨2, "bob", "LEE", .ofDecimal false 28 (-1), "CSci"⟩
    let cal : Student := ⟨3, "cal", "lee-kim", .ofDecimal false 39 (-1), "math"⟩
    let roster := ofList [ann, bob, cal]
    let later := roster.recase .title
    let renamed := later.withLastName (Casing.title.fixName "lee")
    roster.placesOf (roster.withLastName "lee") = [2] ∧ later.placesOf renamed = [1, 2] ∧
      renamed.map some = [some (bob.recase .title), some (ann.recase .title)] ∧
      roster.withMajor "csc" = .ok [ann] ∧ roster.placesOf [ann] = [2] ∧
      ∃ again, later.withMajor (Casing.title.fixMajor "csc") = .ok again ∧
        later.placesOf again = [1, 2] ∧
        again.map some = [some (bob.recase .title), some (ann.recase .title)] := by
  intro ann bob cal roster later renamed
  have hmajor : roster.withMajor "csc" = .ok [ann] := by decide +kernel
  have hplaces : [1, 2].map (later.students[·]?) =
      [some (bob.recase .title), some (ann.recase .title)] := by
    decide +kernel
  obtain ⟨⟨-, ⟨-, hordered⟩, -⟩, -, -, hname⟩ := recased_search_finds roster .title "lee"
  obtain ⟨-, hkept, -, hcode⟩ := recased_search_finds roster .title "csc"
  obtain ⟨-, again, hagain, -, -⟩ := hkept [ann] hmajor
  have hnamed : later.placesOf renamed = [1, 2] := by
    rw [(hname rfl).1]
    decide +kernel
  obtain ⟨⟨-, hinOrder⟩, hplaced⟩ := (hcode rfl).2 again hagain
  have hcoded : later.placesOf again = [1, 2] := by
    rw [hplaced]
    decide +kernel
  rw [hnamed] at hordered
  rw [hcoded] at hinOrder
  exact ⟨by decide +kernel, hnamed, hordered.symm.trans hplaces, hmajor, by decide +kernel, again,
    hagain, hcoded, hinOrder.symm.trans hplaces⟩

end Roster

end StudentRoster
