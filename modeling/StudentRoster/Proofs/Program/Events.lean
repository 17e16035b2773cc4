import StudentRoster.Proofs.Program.OutputFile

/-!
# The events of a run

A run that no failure ends loads its files, carries out its command and shows the answer
(`run_of_not_isFailure`). When all of its events are logged, they stand in this order between the
start and the release of the roster, apart from the texts of the notes on the loading
(`tells_of_not_isFailure`). All events are logged under the filter for the details of the program
(`passesAll_choose_debug`), and without a filter when details are asked for
(`passesAll_choose_verbose`).
-/

set_option autoImplicit false

namespace StudentRoster

/-! ## Events and failures -/

/-- All events pass a filter. -/
def Event.Filter.PassesAll (filter : Event.Filter) : Prop :=
  ∀ event, filter.passes event = true

/-- What the events of commands say in words. -/
def Event.commandTitles : List String :=
  ["listing records", "looking up record", "searched", "checking id", "saved config"]

/-- The event of a diagnostic that is one. -/
def Diagnostic.event? : Diagnostic → Option Event
  | .event told => some told
  | .text _ => none

namespace Outcome

/-- The events that a run logs. -/
def events (outcome : Outcome) : List Event :=
  outcome.diagnostics.filterMap Diagnostic.event?

/-- A failure ended the run. -/
def IsFailure (outcome : Outcome) : Prop :=
  ∃ tree before failure, outcome = Program.failed tree before failure

end Outcome

/-! ## Filters that everything passes -/

namespace Event.Filter

/-- All events belong to the program and are details at least. -/
theorem passesAll_debug : (⟨[⟨"roster", false, none, some .debug⟩]⟩ : Event.Filter).PassesAll := by
  intro event
  have htarget : "roster".toList.isPrefixOf event.target.toList = true := by
    cases event <;> simp [target, List.isPrefixOf]
  have hlevel : EventLevel.debug.rank ≤ event.level.rank := by
    cases event <;> simp [level, EventLevel.rank]
  have hcovers : (⟨"roster", false, none, some .debug⟩ : Directive).covers event = true := by
    simp only [Directive.covers, htarget]
    rfl
  simp [passes, hcovers, moreSpecific, hlevel]

/-- The setting of the log that names the program and its lowest level. -/
theorem ofText?_debug :
    ofText? "roster=debug" = some ⟨[⟨"roster", false, none, some .debug⟩]⟩ := by
  decide +kernel

/-- At the lowest level every event of the program passes. -/
theorem passesAll_choose_debug (verbose : Bool) :
    (choose (some "roster=debug") verbose).PassesAll := by
  simp only [choose, Option.bind_some, ofText?_debug]
  exact passesAll_debug

/-- With the switch for details every event of the program passes. -/
theorem passesAll_choose_verbose : (choose none true).PassesAll := by
  have hdefault : defaultText true = "roster=debug" := rfl
  simp only [choose, Option.bind_none, hdefault, ofText?_debug]
  exact passesAll_debug

end Event.Filter

namespace Program

variable {environment : Environment} {invocation : Invocation} {tree after : FileTree}
  {session next : Session} {answer : Report}

/-! ## One run -/

/-- The session of a run whose files have been loaded, and what the loading reports. -/
def loading (environment : Environment) (options : Options) (tree : FileTree) :
    Except Failure (Session × Report) := do
  let directory ← Settings.directory environment.places
  let session ← Session.start tree .empty directory
  return loadInputs session tree options

/-- What a run leaves behind that no failure ends. -/
theorem run_of_not_isFailure (h : ¬ (run environment invocation tree).IsFailure) :
    ∃ directory session loaded after next answer written text,
      loading environment invocation.options tree = .ok (session, loaded) ∧
        perform session tree invocation.command = (after, .ok (next, answer)) ∧
        present after invocation answer = (written, .ok text) ∧
        run environment invocation tree =
          let filter := Event.Filter.choose environment.log invocation.options.verbose
          { exitCode := if answer.hasErrors then 1 else 0
            output := text ++ noteLines environment answer
            diagnostics :=
              opening environment invocation.options filter directory loaded ++
                logged filter answer.events ++ logged filter [.releasing next.roster.size]
            tree := written } := by
  have hfailed {outcome : Outcome} {tree : FileTree} {before : List Diagnostic} {failure : Failure}
      {goal : Prop} (hne : ¬ outcome.IsFailure) (heq : outcome = failed tree before failure) :
      goal :=
    absurd ⟨tree, before, failure, heq⟩ hne
  -- a run can fail at four places, and behind the last of them it has come to its end
  unfold run loading at *
  cases hdirectory : Settings.directory environment.places with
  | error failure =>
    rw [hdirectory] at h
    exact hfailed h rfl
  | ok directory =>
    rw [hdirectory] at h
    simp only [bind, Except.bind, pure, Except.pure] at h ⊢
    cases hstart : Session.start tree .empty directory with
    | error failure =>
      rw [hstart] at h
      exact hfailed h rfl
    | ok session =>
      rw [hstart] at h
      simp only [conclude] at h ⊢
      generalize hperform :
        perform (loadInputs session tree invocation.options).1 tree invocation.command = performed
      obtain ⟨after, result⟩ := performed
      cases result with
      | error failure =>
        simp only [hperform] at h
        exact hfailed h rfl
      | ok answered =>
        obtain ⟨next, answer⟩ := answered
        simp only [hperform] at h ⊢
        obtain ⟨written, shown, hpresent⟩ :
            ∃ written shown, present after invocation answer = (written, shown) := ⟨_, _, rfl⟩
        cases shown with
        | error cause =>
          simp only [hpresent] at h
          exact hfailed h rfl
        | ok text =>
          refine ⟨directory, _, _, after, next, answer, written, text, rfl, hperform, hpresent, ?_⟩
          simp only [hpresent]
          rfl

/-! ## Commands -/

/-- A request about settings has no event but that of a change. -/
theorem title_of_mem_events_answer {directory : String} {request : SettingsRequest}
    (h : (Settings.answer tree directory request).2 = .ok answer) :
    ∀ event ∈ answer.events, event.title = "saved config" := by
  have hnone {answer : Report} (h : answer.events = []) :
      ∀ event ∈ answer.events, event.title = "saved config" := by
    rw [h]
    exact List.forall_mem_nil _
  cases request with
  | showAll =>
    obtain ⟨settings, _, rfl⟩ := map_eq_ok_iff.mp h
    exact hnone rfl
  | showKey key =>
    simp only [Settings.answer] at h
    split at h
    · obtain rfl := Except.ok.inj h
      exact hnone rfl
    · obtain ⟨settings, _, rfl⟩ := map_eq_ok_iff.mp h
      exact hnone rfl
  | change key value =>
    obtain ⟨_, -, hanswer⟩ | ⟨_, -, hanswer⟩ | ⟨_, _, _, -, -, -, hanswer⟩ :=
      Settings.answer_change_cases tree directory key value
    all_goals rw [hanswer] at h
    · obtain rfl := Except.ok.inj h
      exact hnone rfl
    · cases h
    · obtain ⟨_, -, rfl⟩ := map_eq_ok_iff.mp h
      simp [Settings.savedReport, Event.title]

/-- A command leaves the roster as it is, and its events are those of commands. -/
theorem perform_eq_ok {command : Command}
    (h : perform session tree command = (after, .ok (next, answer))) :
    next.roster = session.roster ∧ ∀ event ∈ answer.events, event.title ∈ Event.commandTitles := by
  have hone {event : Event} (h : event.title ∈ Event.commandTitles) :
      ∀ other ∈ [event], other.title ∈ Event.commandTitles :=
    List.forall_mem_singleton.mpr h
  cases command with
  | list | lastName name =>
    obtain ⟨rfl, hanswer⟩ := Prod.mk.inj h
    obtain ⟨rfl, rfl⟩ := Prod.mk.inj (Except.ok.inj hanswer)
    exact ⟨rfl, hone (by simp [Event.title, Event.commandTitles])⟩
  | get id =>
    obtain ⟨rfl, hanswer⟩ := Prod.mk.inj h
    obtain ⟨rfl, rfl⟩ := Prod.mk.inj (Except.ok.inj hanswer)
    refine ⟨rfl, ?_⟩
    unfold Roster.lookUp
    split <;> exact hone (by simp [Event.title, Event.commandTitles])
  | check id =>
    obtain ⟨rfl, hanswer⟩ := Prod.mk.inj h
    obtain ⟨rfl, rfl⟩ := Prod.mk.inj (Except.ok.inj hanswer)
    refine ⟨rfl, ?_⟩
    unfold Roster.check
    split <;> exact hone (by simp [Event.title, Event.commandTitles])
  | major query =>
    obtain ⟨rfl, hanswer⟩ := Prod.mk.inj h
    obtain ⟨report, hreport, heq⟩ := map_eq_ok_iff.mp hanswer
    obtain ⟨rfl, rfl⟩ := Prod.mk.inj heq
    obtain ⟨students, _, rfl⟩ := map_eq_ok_iff.mp hreport
    exact ⟨rfl, hone (by simp [Event.title, Event.commandTitles])⟩
  | settings request =>
    obtain ⟨rfl, hanswer⟩ := Prod.mk.inj h
    obtain ⟨report, hreport, heq⟩ := map_eq_ok_iff.mp hanswer
    obtain ⟨rfl, rfl⟩ := Prod.mk.inj heq
    refine ⟨rfl, fun event hevent => ?_⟩
    rw [title_of_mem_events_answer hreport event hevent]
    simp [Event.commandTitles]

/-! ## What a run tells -/

/-- Where every event passes, the diagnostics of a log give its events back. -/
theorem events_logged {filter : Event.Filter} (h : filter.PassesAll) (events : List Event) :
    (logged filter events).filterMap Diagnostic.event? = events := by
  rw [logged, List.filter_eq_self.mpr fun event _ => h event, List.filterMap_map]
  exact List.filterMap_some

/-- The events of a run that is logged and that no failure ends, in their order, and the texts on
the stream for diagnostics. -/
theorem tells_of_not_isFailure
    (hlogged : (Event.Filter.choose environment.log invocation.options.verbose).PassesAll)
    (h : ¬ (run environment invocation tree).IsFailure) :
    ∃ directory session loaded after next answer written text,
      loading environment invocation.options tree = .ok (session, loaded) ∧
        perform session tree invocation.command = (after, .ok (next, answer)) ∧
        present after invocation answer = (written, .ok text) ∧
        (run environment invocation tree).events =
          .starting directory :: (loaded.events ++ answer.events ++
            [.releasing session.roster.size]) ∧
        (run environment invocation tree).texts = loaded.notes.filterMap
          (Terminal.loadLine? environment.color invocation.options.verbose) ∧
        (run environment invocation tree).output = text ++ noteLines environment answer ∧
        (run environment invocation tree).tree = written := by
  obtain ⟨directory, session, loaded, after, next, answer, written, text, hloading, hperform,
    hpresent, hrun⟩ := run_of_not_isFailure h
  have hroster := (perform_eq_ok hperform).1
  refine ⟨directory, session, loaded, after, next, answer, written, text, hloading, hperform,
    hpresent, ?_, ?_, by rw [hrun], by rw [hrun]⟩
  · rw [hrun, Outcome.events, ← hroster]
    have htexts (lines : List String) :
        (lines.map Diagnostic.text).filterMap Diagnostic.event? = [] := by
      rw [List.filterMap_map]
      exact List.filterMap_eq_nil_iff.mpr fun _ _ => rfl
    simp only [opening, List.filterMap_append, events_logged hlogged, htexts]
    simp
  · rw [hrun, Outcome.texts]
    have htexts (lines : List String) :
        (lines.map Diagnostic.text).filterMap Diagnostic.text? = lines := by
      rw [List.filterMap_map]
      exact List.filterMap_some
    simp only [opening, List.filterMap_append, texts_logged, htexts]
    simp

end Program

end StudentRoster
