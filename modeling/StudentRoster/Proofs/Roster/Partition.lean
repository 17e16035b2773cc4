import Mathlib.Data.List.Nodup
import StudentRoster.Proofs.Roster.Search
import StudentRoster.Roster.Query

/-!
# Searches by major part the roster

Whether a search by major is refused is a matter of its query alone, and what it finds a matter of
the first three characters of the query. Searches for different codes have no place in common, and a
student is found by the search for the own major, unless the major is too short for any search
(`withMajor_partitions`).
-/

set_option autoImplicit false

namespace StudentRoster.Roster

variable (roster : Roster)

/-! ## Codes -/

/-- A code is too short when the major has fewer than three characters. -/
theorem length_majorCode_lt_iff (major : String) :
    (majorCode major).length < majorWidth ↔ major.length < 3 := by
  rw [majorCode, List.length_take, majorWidth, String.length_toList]
  omega

/-- A short major is no code, and so it has the code of no query that is long enough. -/
theorem majorCode_ne_of_length_lt {major query : String} (hmajor : major.length < 3)
    (hquery : majorWidth ≤ (majorCode query).length) : majorCode major ≠ majorCode query := by
  intro hcode
  have hshort := (length_majorCode_lt_iff major).mpr hmajor
  rw [hcode] at hshort
  exact absurd hquery (Nat.not_le_of_lt hshort)

/-- A search is refused when its query has fewer than three characters. -/
theorem withMajor_refused_iff (query : String) :
    roster.withMajor query = .error (.shortMajor query) ↔ query.length < 3 := by
  rw [withMajor_eq_error_iff, length_majorCode_lt_iff]

/-- A search by a query that is long enough finds the students with its code. -/
theorem withMajor_of_length {query : String} (h : 3 ≤ query.length) :
    roster.withMajor query =
      .ok (roster.students.filter fun student =>
        majorCode student.major == majorCode query) := by
  refine (roster.withMajor_eq_ok_iff query).mpr ⟨Nat.le_of_not_lt fun hshort => ?_, rfl⟩
  exact absurd h (Nat.not_le_of_lt ((length_majorCode_lt_iff query).mp hshort))

/-! ## Places of a search by major -/

/-- A search finds the places of the students whose major has the code of the query. -/
theorem mem_placesOf_withMajor_iff {query : String} {found : List Student}
    (h : roster.withMajor query = .ok found) {place : Nat} :
    place ∈ roster.placesOf found ↔
      ∃ student, roster.students[place]? = some student ∧
        majorCode student.major = majorCode query := by
  obtain ⟨-, rfl⟩ := (roster.withMajor_eq_ok_iff query).mp h
  rw [placesOf_filter, List.mem_findIdxs_iff_exists_getElem_pos]
  constructor
  · rintro ⟨hlt, hcode⟩
    exact ⟨_, List.getElem?_eq_getElem hlt, beq_iff_eq.mp hcode⟩
  · rintro ⟨student, hplace, hcode⟩
    obtain ⟨hlt, rfl⟩ := List.getElem?_eq_some_iff.mp hplace
    exact ⟨hlt, beq_iff_eq.mpr hcode⟩

/-- Queries with the same code find the same students. -/
theorem withMajor_congr {query other : String} {found others : List Student}
    (h : roster.withMajor query = .ok found) (hother : roster.withMajor other = .ok others)
    (hcode : majorCode query = majorCode other) : found = others := by
  obtain ⟨-, rfl⟩ := (roster.withMajor_eq_ok_iff query).mp h
  obtain ⟨-, rfl⟩ := (roster.withMajor_eq_ok_iff other).mp hother
  rw [hcode]

/-- A student stands at one place and has one code, so searches for different codes share no
place. -/
theorem disjoint_placesOf_withMajor {query other : String} {found others : List Student}
    (h : roster.withMajor query = .ok found) (hother : roster.withMajor other = .ok others)
    (hcode : majorCode query ≠ majorCode other) :
    (roster.placesOf found).Disjoint (roster.placesOf others) := by
  intro place hplace hplace'
  obtain ⟨student, hstudent, hquery⟩ := (roster.mem_placesOf_withMajor_iff h).mp hplace
  obtain ⟨student', hstudent', hother'⟩ := (roster.mem_placesOf_withMajor_iff hother).mp hplace'
  obtain rfl : student = student' := Option.some.inj (hstudent.symm.trans hstudent')
  exact hcode (hquery.symm.trans hother')

/-- The report of a search by major shows what is found, with the ids. -/
theorem map_searchMajor (query : String) :
    (roster.searchMajor query).map (fun report => (report.students, report.ids)) =
      (roster.withMajor query).map fun found => (found, found.map (·.id)) := by
  rw [searchMajor]
  cases roster.withMajor query <;> rfl

/-! ## The partition -/

/-- A search by major is refused exactly when the query has fewer than three characters, whoever is
in the roster. Otherwise it answers with the students at some places, in their order. Two answers
are the same if the first three characters of the queries are, and otherwise have no place in
common. A student with a major of three or more characters is found exactly once by the search for
this major, and one with a shorter major by no search. The report of the search shows the same
students, with their ids. -/
theorem withMajor_partitions :
    (∀ query, roster.withMajor query = .error (.shortMajor query) ↔ query.length < 3) ∧
    (∀ query, 3 ≤ query.length → ∃ found, roster.withMajor query = .ok found ∧
      (roster.placesOf found).Pairwise (· < ·) ∧
      (roster.placesOf found).map (roster.students[·]?) = found.map some) ∧
    (∀ query other found others, roster.withMajor query = .ok found →
      roster.withMajor other = .ok others →
        if query.toList.take 3 = other.toList.take 3 then found = others
        else (roster.placesOf found).Disjoint (roster.placesOf others)) ∧
    (∀ place student, roster.students[place]? = some student →
      if 3 ≤ student.major.length then
        ∃ found, roster.withMajor student.major = .ok found ∧
          (roster.placesOf found).count place = 1
      else ∀ query found, roster.withMajor query = .ok found → place ∉ roster.placesOf found) ∧
    ∀ query, (roster.searchMajor query).map (fun report => (report.students, report.ids)) =
      (roster.withMajor query).map fun found => (found, found.map (·.id)) := by
  refine ⟨roster.withMajor_refused_iff, fun query hlong => ?_,
    fun query other found others h hother => ?_, fun place student hstudent => ?_,
    roster.map_searchMajor⟩
  · exact ⟨_, roster.withMajor_of_length hlong, roster.isInOrder_filter _⟩
  · split
    next hcode => exact roster.withMajor_congr h hother hcode
    next hcode => exact roster.disjoint_placesOf_withMajor h hother hcode
  · split
    next hlong =>
      have hown := roster.withMajor_of_length hlong
      have hmem := (roster.mem_placesOf_withMajor_iff hown).mpr ⟨student, hstudent, rfl⟩
      exact ⟨_, hown, List.count_eq_one_of_mem (roster.pairwise_placesOf _).nodup hmem⟩
    next hshort =>
      intro query found h hplace
      obtain ⟨other, hother, hcode⟩ := (roster.mem_placesOf_withMajor_iff h).mp hplace
      obtain rfl : student = other := Option.some.inj (hstudent.symm.trans hother)
      exact majorCode_ne_of_length_lt (Nat.lt_of_not_le hshort)
        ((roster.withMajor_eq_ok_iff query).mp h).1 hcode

/-- Two letters with the same first byte belong to different codes, and a major of two letters
belongs to none, whatever its number of bytes. -/
theorem withMajor_partitions_accents :
    let ann : Student := ⟨1, "ann", "lee", .ofDecimal false 35 (-1), "économie"⟩
    let bob : Student := ⟨2, "bob", "kim", .ofDecimal false 28 (-1), "êco"⟩
    let cal : Student := ⟨3, "cal", "lee", .ofDecimal false 39 (-1), "éc"⟩
    let dee : Student := ⟨1, "dee", "ng", .ofDecimal false 30 (-1), "éco"⟩
    let roster := ofList [ann, bob, cal, dee]
    roster.withMajor "éc" = .error (.shortMajor "éc") ∧
      roster.withMajor "écologie" = .ok [dee, ann] ∧ roster.withMajor "êcole" = .ok [bob] ∧
      (roster.placesOf [dee, ann]).Disjoint (roster.placesOf [bob]) ∧
      (∃ found, roster.withMajor "économie" = .ok found ∧
        (roster.placesOf found).count 3 = 1) ∧
      1 ∉ roster.placesOf [dee, ann] := by
  intro ann bob cal dee roster
  obtain ⟨hrefused, -, hcodes, hstudents, -⟩ := withMajor_partitions roster
  have hlong : roster.withMajor "écologie" = .ok [dee, ann] := by decide +kernel
  have hother : roster.withMajor "êcole" = .ok [bob] := by decide +kernel
  refine ⟨(hrefused "éc").mpr (by decide), hlong, hother, ?_, ?_, ?_⟩
  · have hdisjoint := hcodes _ _ _ _ hlong hother
    rwa [if_neg (by decide)] at hdisjoint
  · have hfound := hstudents 3 ann (by decide +kernel)
    rwa [if_pos (by decide)] at hfound
  · have hnever := hstudents 1 cal (by decide +kernel)
    rw [if_neg (by decide)] at hnever
    exact hnever _ _ hlong

end StudentRoster.Roster
