import StudentRoster.Proofs.Roster.Recasing
import StudentRoster.Proofs.Session.Situations
import StudentRoster.Proofs.Student.Identity

/-!
# The roster of a session only grows

Whatever is done in a session either brings newcomers, recases the students or leaves the roster
alone (`roster_act_cases`). So each student keeps its place and its identity, and an id that is
taken once stays taken by the same student (`run_only_appends`). What others do to the files between
the steps, be it a listing that is saved, decides at most who comes in later.
-/

set_option autoImplicit false

namespace StudentRoster

/-! ## Rosters that continue others -/

namespace Roster

variable {roster middle later : Roster}

/-- At each place of a roster a later one has the same student, though perhaps recased. -/
def Continues (roster later : Roster) : Prop :=
  ∀ (place : Nat) (student : Student), roster.arrivals[place]? = some student →
    ∃ other, later.arrivals[place]? = some other ∧ student.SameIdentity other

/-- Nothing at all continues a roster. -/
theorem Continues.refl (roster : Roster) : roster.Continues roster :=
  fun _ student hstudent => ⟨student, hstudent, .refl student⟩

/-- What continues a continuation continues the roster that came first. -/
theorem Continues.trans (h : roster.Continues middle) (h' : middle.Continues later) :
    roster.Continues later := by
  intro place student hstudent
  obtain ⟨other, hother, hsame⟩ := h place student hstudent
  obtain ⟨last, hlast, hsame'⟩ := h' place other hother
  exact ⟨last, hlast, hsame.trans hsame'⟩

/-- Bringing students in continues a roster: the newcomers come on top. -/
theorem continues_insertAll (roster : Roster) (students : List Student) :
    roster.Continues (roster.insertAll students) := by
  intro place student hstudent
  refine ⟨student, ?_, .refl student⟩
  rw [← Array.getElem?_toList] at hstudent ⊢
  rw [arrivals_insertAll, List.getElem?_append_left (List.getElem?_eq_some_iff.mp hstudent).1]
  exact hstudent

/-- Recasing continues a roster: nobody comes and nobody leaves, and ids and averages stay. -/
theorem continues_recase (roster : Roster) (casing : Casing) :
    roster.Continues (roster.recase casing) := by
  intro place student hstudent
  refine ⟨student.recase casing, ?_, student.sameIdentity_recase casing⟩
  simp [recase, hstudent]

/-- The ids of a roster are those of a later one without the ids that have come in front. -/
theorem Continues.ids_isSuffix (h : roster.Continues later) : roster.ids <:+ later.ids := by
  have harrivals : roster.arrivals.toList.map (·.id) <+: later.arrivals.toList.map (·.id) := by
    rw [List.prefix_iff_getElem?]
    intro place hplace
    have hstudent : place < roster.arrivals.size := by simpa using hplace
    obtain ⟨other, hother, hsame⟩ := h place _ (Array.getElem?_eq_getElem hstudent)
    simp [hother, hsame.id_eq]
  have hids (some : Roster) : some.ids = (some.arrivals.toList.map (·.id)).reverse := by
    rw [ids, students, List.map_reverse]
  rw [hids, hids]
  exact List.reverse_suffix.mpr harrivals

end Roster

/-! ## Runs of a session -/

namespace Situation

variable {situation : Situation}

/-- What can become of the roster in one step. -/
theorem roster_act_cases (situation : Situation) (action : SessionAction) :
    (situation.act action).1.session.roster = situation.session.roster ∨
      (∃ offered, (situation.act action).1.session.roster =
        situation.session.roster.insertAll
          (newcomers situation.session.roster.ids offered)) ∨
      ∃ casing, (situation.act action).1.session.roster =
        situation.session.roster.recase casing := by
  cases action with
  | load paths normalize =>
    refine .inr (.inl ⟨pathStudents situation.tree (situation.session.loadCasing? normalize) paths,
      ?_⟩)
    simp only [act, Session.load, Roster.load_eq]
  | normalize casing? => exact .inr (.inr ⟨_, rfl⟩)
  | perform command =>
    left
    cases command with
    | list => rfl
    | get id => rfl
    | lastName name => rfl
    | check id => rfl
    | settings request => rw [act_settings]
    | major query =>
      simp only [act, Program.perform]
      cases situation.session.roster.searchMajor query <;> rfl

/-- A request only continues the roster of its session. -/
theorem continues_act (situation : Situation) (action : SessionAction) :
    situation.session.roster.Continues (situation.act action).1.session.roster := by
  rcases situation.roster_act_cases action with hsame | ⟨offered, hloaded⟩ | ⟨casing, hrecased⟩
  · rw [hsame]
    exact .refl _
  · rw [hloaded]
    exact Roster.continues_insertAll _ _
  · rw [hrecased]
    exact Roster.continues_recase _ casing

/-- A request neither makes nor removes a second student of an id. -/
theorem nodup_ids_act (situation : Situation) (action : SessionAction) :
    (situation.act action).1.session.roster.ids.Nodup ↔ situation.session.roster.ids.Nodup := by
  rcases situation.roster_act_cases action with hsame | ⟨offered, hloaded⟩ | ⟨casing, hrecased⟩
  · rw [hsame]
  · rw [hloaded]
    exact Roster.nodup_ids_insertAll_newcomers _ offered
  · rw [hrecased, Roster.ids_recase]

/-- So does a run of requests, with whatever others do to the files between them. -/
theorem continues_run (situation : Situation) (steps : List SessionStep) :
    situation.session.roster.Continues (runActions step situation steps).1.session.roster := by
  induction steps generalizing situation with
  | nil => exact .refl _
  | cons first rest ih =>
    refine Roster.Continues.trans ?_ (ih (situation.step first).1)
    cases first with
    | act action => exact situation.continues_act action
    | meanwhile tree => exact .refl _

/-- No run makes a second student of an id or removes one. -/
theorem nodup_ids_run (situation : Situation) (steps : List SessionStep) :
    (runActions step situation steps).1.session.roster.ids.Nodup ↔
      situation.session.roster.ids.Nodup := by
  induction steps generalizing situation with
  | nil => rfl
  | cons first rest ih =>
    refine (ih (situation.step first).1).trans ?_
    cases first with
    | act action => exact situation.nodup_ids_act action
    | meanwhile tree => rfl

/-- In a run of a session, whatever is done in it and to the files around it, the roster at any time
continues the roster at any time before: at each place that there was stands the same student, by
id, average and the shape of its texts. So the earlier ids are the end of the later ones, and ids
that are distinct at the beginning stay distinct. -/
theorem run_only_appends (situation : Situation) (front back : List SessionStep) :
    let earlier := (runActions step situation front).1.session.roster
    let later := (runActions step situation (front ++ back)).1.session.roster
    earlier.Continues later ∧ earlier.ids <:+ later.ids ∧
      (later.ids.Nodup ↔ situation.session.roster.ids.Nodup) := by
  intro earlier later
  have hcontinues : earlier.Continues later := by
    have hrun := continues_run (runActions step situation front).1 back
    rwa [← congrArg Prod.fst (runActions_append step situation front back)] at hrun
  exact ⟨hcontinues, hcontinues.ids_isSuffix, nodup_ids_run situation (front ++ back)⟩

end Situation

end StudentRoster
