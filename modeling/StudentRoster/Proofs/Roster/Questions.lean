import StudentRoster.Proofs.Roster.LookUp
import StudentRoster.Proofs.Roster.Partition

/-!
# Questions agree with the listing

The listing shows all students, the newest first. A search shows those of them that pass its test,
each beside the own id (`Report.Selects`), a look-up the first of them with its id
(`Report.LooksUp`), and a check finds an id exactly when a look-up does. Repeated ids make no
difference to this, because no answer is put together by looking up ids. All of it together is
`questions_agree_with_listing`.
-/

set_option autoImplicit false

namespace StudentRoster

namespace Report

/-- A report shows those of the listed students that pass a test, in their order and each beside the
own id, and tells nothing else. -/
structure Selects (report : Report) (listed : List Student) (test : Student → Prop)
    [DecidablePred test] : Prop where
  students : report.students = listed.filter test
  ids : report.ids = report.students.map (·.id)
  notes : report.notes = []

/-- A report shows the first of the listed students with an id, beside this id, or else shows none
and tells with one warning that none has it. -/
inductive LooksUp (report : Report) (listed : List Student) (id : Int32) : Prop
  | found {newer older : List Student} {student : Student}
      (hlisted : listed = newer ++ student :: older) (hid : student.id = id)
      (hnewer : ∀ other ∈ newer, other.id ≠ id) (hstudents : report.students = [student])
      (hids : report.ids = [id]) (hnotes : report.notes = [])
  | missing (hlisted : ∀ student ∈ listed, student.id ≠ id) (hstudents : report.students = [])
      (hids : report.ids = []) (hnotes : report.notes.map Note.level = [.warning])

variable {report : Report} {listed : List Student}

/-- A report of selected students is no error. -/
theorem Selects.hasErrors {test : Student → Prop} [DecidablePred test]
    (h : report.Selects listed test) : report.hasErrors = false := by
  rw [Report.hasErrors, h.notes, List.any_nil]

/-- A report of a look-up is no error, also when nothing was found. -/
theorem LooksUp.hasErrors {id : Int32} (h : report.LooksUp listed id) :
    report.hasErrors = false := by
  rw [Report.hasErrors]
  cases h with
  | found hlisted hid hnewer hstudents hids hnotes => rw [hnotes, List.any_nil]
  | missing hlisted hstudents hids hnotes =>
    have hwarning : (report.notes.map Note.level).any (· == .error) = false := by
      rw [hnotes]
      rfl
    rwa [List.any_map] at hwarning

/-- A look-up reports the id if it is there. -/
theorem LooksUp.ids_eq {id : Int32} (h : report.LooksUp listed id) :
    report.ids = if id ∈ listed.map (·.id) then [id] else [] := by
  cases h with
  | @found newer older student hlisted hid hnewer hstudents hids hnotes =>
    have hmem : id ∈ listed.map (·.id) := by
      rw [hlisted]
      exact List.mem_map.mpr ⟨student, List.mem_append_right _ List.mem_cons_self, hid⟩
    rw [hids, if_pos hmem]
  | missing hlisted hstudents hids hnotes =>
    have hmem : id ∉ listed.map (·.id) := by
      rw [List.mem_map]
      exact fun ⟨student, hstudent, hid⟩ => hlisted student hstudent hid
    rw [hids, if_neg hmem]

/-- A look-up reports the id when it shows a student. -/
theorem LooksUp.ids_eq_singleton_iff {id : Int32} (h : report.LooksUp listed id) :
    report.ids = [id] ↔ report.students ≠ [] := by
  cases h with
  | found hlisted hid hnewer hstudents hids hnotes =>
    rw [hids, hstudents]
    exact iff_of_true rfl (List.cons_ne_nil _ _)
  | missing hlisted hstudents hids hnotes =>
    rw [hids, hstudents]
    exact iff_of_false (List.cons_ne_nil _ _).symm fun hne => hne rfl

end Report

namespace Roster

variable (roster : Roster)

/-! ## Searches -/

/-- A search by last name selects the students with this name. -/
theorem searchLastName_selects (name : String) :
    (roster.searchLastName name).Selects roster.students (·.lastName = name) where
  students := rfl
  ids := rfl
  notes := rfl

/-- A search by major has an answer if the query has three characters. -/
theorem searchMajor_selects {query : String} (h : 3 ≤ query.length) :
    ∃ report, roster.searchMajor query = .ok report ∧
      (report.Selects roster.students fun s => s.major.toList.take 3 = query.toList.take 3) ∧
      roster.withMajor query = .ok report.students := by
  have hfound := roster.withMajor_of_length h
  refine ⟨_, by rw [searchMajor, hfound]; rfl, ⟨?_, rfl, rfl⟩, hfound⟩
  exact List.filter_congr fun s _ => by rw [Bool.eq_iff_iff, beq_iff_eq, decide_eq_true_eq]; rfl

/-! ## Ids -/

/-- The report of a look-up is one. -/
theorem lookUp_looksUp (id : Int32) : (roster.lookUp id).LooksUp roster.students id := by
  by_cases h : id ∈ roster.ids
  · obtain ⟨newer, student, older, hsplit⟩ := exists_isSplit h
    have hlookUp : roster.lookUp id =
        { students := [student], ids := [id], events := [.lookingUp id] } := by
      rw [lookUp, find?_of_split hsplit]
    rw [hlookUp]
    exact .found hsplit.students_eq hsplit.id_eq
      (fun other hother heq => hsplit.not_mem (List.mem_map.mpr ⟨other, hother, heq⟩)) rfl rfl rfl
  · have hlookUp : roster.lookUp id = { notes := [.unknownId id], events := [.lookingUp id] } := by
      rw [lookUp, find?_of_not_mem_ids h]
    rw [hlookUp]
    exact .missing (fun student hstudent heq => h (List.mem_map.mpr ⟨student, hstudent, heq⟩))
      rfl rfl rfl

/-- A check goes through the roster the other way round and still finds what a look-up finds. -/
theorem ids_check (id : Int32) : (roster.check id).ids = (roster.lookUp id).ids := by
  rw [(roster.lookUp_looksUp id).ids_eq, ← ids, check]
  by_cases h : id ∈ roster.ids
  · rw [if_pos (contains_eq_true_iff.mpr h), if_pos h]
  · rw [if_neg (mt contains_eq_true_iff.mp h), if_neg h]

/-- A check is no error, whatever it finds. -/
theorem hasErrors_check (id : Int32) : (roster.check id).hasErrors = false := by
  rw [check]
  split <;> rfl

/-! ## All questions -/

/-- The listing shows all students, the newest first. A search by last name shows exactly those of
them with this name, and a search by major, when it is not refused, exactly those whose major
begins with the same three characters, each beside the own id. A look-up shows exactly the first of
them with its id, or tells with one warning that there is none, and a check reports an id exactly
when a look-up shows a student. No answer tells of an error. -/
theorem questions_agree_with_listing :
    roster.listAll.students = roster.arrivals.toList.reverse ∧
    (∀ name, (roster.searchLastName name).Selects roster.listAll.students (·.lastName = name) ∧
      (roster.searchLastName name).ids = (roster.withLastName name).map (·.id)) ∧
    (∀ query,
      if query.length < 3 then roster.searchMajor query = .error (.shortMajor query)
      else ∃ report, roster.searchMajor query = .ok report ∧
        (report.Selects roster.listAll.students fun s =>
          s.major.toList.take 3 = query.toList.take 3) ∧
        (roster.withMajor query).map (fun found => found.map (·.id)) = .ok report.ids ∧
        report.hasErrors = false) ∧
    (∀ id, (roster.lookUp id).LooksUp roster.listAll.students id ∧
      (roster.check id).ids = (roster.lookUp id).ids ∧
      ((roster.check id).ids = [id] ↔ (roster.lookUp id).students ≠ [])) ∧
    roster.listAll.hasErrors = false ∧
    (∀ name, (roster.searchLastName name).hasErrors = false) ∧
    ∀ id, (roster.lookUp id).hasErrors = false ∧ (roster.check id).hasErrors = false := by
  refine ⟨rfl, fun name => ⟨roster.searchLastName_selects name, rfl⟩, fun query => ?_,
    fun id => ⟨roster.lookUp_looksUp id, roster.ids_check id, ?_⟩, rfl,
    fun name => (roster.searchLastName_selects name).hasErrors,
    fun id => ⟨(roster.lookUp_looksUp id).hasErrors, roster.hasErrors_check id⟩⟩
  · split
    next hshort =>
      rw [searchMajor, (roster.withMajor_refused_iff query).mpr hshort]
      rfl
    next hlong =>
      obtain ⟨report, hreport, hselects, hfound⟩ :=
        roster.searchMajor_selects (Nat.le_of_not_lt hlong)
      refine ⟨report, hreport, hselects, ?_, hselects.hasErrors⟩
      rw [hfound, hselects.ids]
      rfl
  · rw [ids_check]
    exact (roster.lookUp_looksUp id).ids_eq_singleton_iff

-- A search shows the student that passed its test, also when a newer one has the same id.
example :
    let ann : Student := ⟨5, "ann", "ng", .ofDecimal false 10 (-1), "art"⟩
    let bob : Student := ⟨5, "bob", "wu", .ofDecimal false 20 (-1), "art"⟩
    ((ofList [ann, bob]).searchLastName "ng").students = [ann] ∧
      ((ofList [ann, bob]).searchLastName "ng").ids = [5] ∧
      ((ofList [ann, bob]).lookUp 5).students = [bob] := by
  decide +kernel

end Roster

end StudentRoster
