import StudentRoster.Proofs.Program.Events
import StudentRoster.Proofs.Roster.Counts
import StudentRoster.Proofs.Roster.Crowd

/-!
# The log, the notes and the output count the same

A run counts students in five places: an event for each one that comes into the roster, the loading
by a number of its own, the command by the length of its answer, the output by its lines, and the
end of the run by the size of the roster. When no failure ends the run and all of its events are
logged, they agree (`counts_agree`), the number of the loading as far as its 32 bits reach
(`counts_differ_beyond_32_bits`).
-/

set_option autoImplicit false

namespace StudentRoster

/-! ## What is counted -/

/-- Whether an event counts the students of an answer. -/
def Event.isAnswer (event : Event) : Bool :=
  event.title == "listing records" || event.title == "searched"

/-- The event of a command that counts the students of its answer. -/
def Command.countEvent? : Command → Option (Nat → Event)
  | list => some .listed
  | lastName name => some (.searchedLastName name)
  | major query => some (.searchedMajor query)
  | get _ | check _ | settings _ => none

/-- A run wrote this text and nothing else, on the standard output or to its output file. -/
def Outcome.Wrote (outcome : Outcome) (output : Option String) (text : String) : Prop :=
  match output with
  | none => outcome.output = text
  | some path => outcome.output = "" ∧ outcome.tree.Holds path text.toUTF8

namespace Program

variable {environment : Environment} {arguments : List String} {invocation : Invocation}
  {tree after : FileTree} {session next : Session} {answer : Report}

/-! ## Loading and answering -/

/-- Without files to load a run starts with an empty roster and has nothing to tell. With files the
newcomers among their students are in the roster, and the events and notes tell of them. -/
theorem loading_eq_ok {options : Options} {report : Report}
    (h : loading environment options tree = .ok (session, report)) :
    (options.inputs = [] → session.roster = .empty ∧ report = {}) ∧
      (options.inputs ≠ [] → ∃ casing?,
        let came := newcomers [] (pathStudents tree casing? options.inputs)
        session.roster = .ofList came ∧ report.TellsOf came) := by
  unfold loading at h
  cases hdirectory : Settings.directory environment.places with
  | error failure =>
    rw [hdirectory] at h
    cases h
  | ok directory =>
    simp only [hdirectory, bind, Except.bind, pure, Except.pure, Session.start] at h
    cases hsettings : Settings.load tree directory with
    | error failure =>
      rw [hsettings] at h
      cases h
    | ok settings =>
      simp only [hsettings, Except.map, Except.ok.injEq, loadInputs, List.isEmpty_iff] at h
      split at h
      next hnone =>
        obtain ⟨rfl, rfl⟩ := Prod.mk.inj h
        exact ⟨fun _ => ⟨rfl, rfl⟩, fun hinputs => absurd hnone hinputs⟩
      next hinputs =>
        obtain ⟨rfl, rfl⟩ := Prod.mk.inj h
        exact ⟨fun hnone => absurd hnone hinputs, fun _ => ⟨_,
          congrArg Prod.fst (Roster.load_eq .empty tree options.inputs _),
          Roster.load_tellsOf .empty tree options.inputs _⟩⟩

/-- Every student that a run has loaded is one line when it is printed. -/
theorem linefeed_not_mem_of_loading {options : Options} {report : Report}
    (h : loading environment options tree = .ok (session, report)) {student : Student}
    (hstudent : student ∈ session.roster.students) : '\n' ∉ student.line.toList := by
  obtain ⟨hnone, hsome⟩ := loading_eq_ok h
  by_cases hinputs : options.inputs = []
  · rw [(hnone hinputs).1] at hstudent
    cases hstudent
  · obtain ⟨casing?, hroster, -⟩ := hsome hinputs
    rw [hroster, Roster.students_ofList, List.mem_reverse] at hstudent
    exact linefeed_not_mem_line_of_mem_pathStudents
      (List.mem_of_find?_eq_some (find?_of_mem_newcomers hstudent))

/-- A command that counts the students of its answer tells this number and nothing else. It answers
with students of the roster and changes no file. -/
theorem perform_countEvent {command : Command} {event : Nat → Event}
    (hevent : command.countEvent? = some event)
    (h : perform session tree command = (after, .ok (next, answer))) :
    after = tree ∧ answer.events = [event answer.students.length] ∧ answer.notes = [] ∧
      ∀ student ∈ answer.students, student ∈ session.roster.students := by
  cases command with
  | list =>
    obtain rfl := Option.some.inj hevent
    obtain ⟨rfl, hanswer⟩ := Prod.mk.inj h
    obtain ⟨rfl, rfl⟩ := Prod.mk.inj (Except.ok.inj hanswer)
    exact ⟨rfl, rfl, rfl, fun _ hstudent => hstudent⟩
  | lastName name =>
    obtain rfl := Option.some.inj hevent
    obtain ⟨rfl, hanswer⟩ := Prod.mk.inj h
    obtain ⟨rfl, rfl⟩ := Prod.mk.inj (Except.ok.inj hanswer)
    exact ⟨rfl, rfl, rfl, fun _ hstudent => List.mem_of_mem_filter hstudent⟩
  | major query =>
    obtain rfl := Option.some.inj hevent
    obtain ⟨rfl, hanswer⟩ := Prod.mk.inj h
    obtain ⟨report, hreport, heq⟩ := map_eq_ok_iff.mp hanswer
    obtain ⟨rfl, rfl⟩ := Prod.mk.inj heq
    obtain ⟨students, hstudents, rfl⟩ := map_eq_ok_iff.mp hreport
    refine ⟨rfl, rfl, rfl, fun student hstudent => ?_⟩
    unfold Roster.withMajor at hstudents
    split at hstudents
    · cases hstudents
    · obtain rfl := Except.ok.inj hstudents
      exact List.mem_of_mem_filter hstudent
  | get id | check id | settings request => cases hevent

/-! ## Which part of a run tells what -/

section parts

variable {select : Event → Bool} {titles : List String} {events : List Event}

/-- Nothing is selected among events that say other things in words. -/
theorem filter_eq_nil_of_titles (h : ∀ event ∈ events, event.title ∈ titles)
    (hselect : ∀ event, select event = true → event.title ∉ titles) : events.filter select = [] :=
  List.filter_eq_nil_iff.mpr fun event hevent hselected =>
    hselect event hselected (h event hevent)

variable {directory : String} {front back : List Event} {size : Nat}

/-- The parts of a run may be searched one by one, and its start when nothing is looked for there.
-/
theorem filter_parts (hstart : select (.starting directory) = false) :
    (.starting directory :: (front ++ back ++ [.releasing size])).filter select =
      front.filter select ++ (back.filter select ++ [.releasing size].filter select) := by
  rw [List.filter_cons_of_neg (by rw [hstart]; exact Bool.false_ne_true), List.filter_append,
    List.filter_append, List.append_assoc]

/-- What a loading tells is told by no other part of a run. -/
theorem filter_of_loadTitles (hback : ∀ event ∈ back, event.title ∈ Event.commandTitles)
    (hselect : ∀ event, select event = true → event.title ∈ Event.loadTitles) :
    (.starting directory :: (front ++ back ++ [.releasing size])).filter select =
      front.filter select := by
  have hother {event : Event} (htitle : event.title ∉ Event.loadTitles) : select event = false :=
    Bool.eq_false_iff.mpr (mt (hselect event) htitle)
  have hapart : ∀ title ∈ Event.loadTitles, title ∉ Event.commandTitles := by decide
  rw [filter_parts (hother (by simp [Event.title, Event.loadTitles])),
    filter_eq_nil_of_titles hback fun event hevent => hapart _ (hselect event hevent),
    List.filter_cons_of_neg (by rw [hother (by simp [Event.title, Event.loadTitles])]; decide)]
  exact List.append_nil _

/-- What the end of a run tells is told by no other part of it. -/
theorem titled_releasing (hfront : ∀ event ∈ front, event.title ∈ Event.loadTitles)
    (hback : ∀ event ∈ back, event.title ∈ Event.commandTitles) :
    Event.titled "releasing store"
        (.starting directory :: (front ++ back ++ [.releasing size])) = [.releasing size] := by
  have hload : "releasing store" ∉ Event.loadTitles := by decide
  have hcommand : "releasing store" ∉ Event.commandTitles := by decide
  rw [Event.titled, filter_parts (by simp [Event.title]),
    filter_eq_nil_of_titles hfront fun event hevent => by rwa [beq_iff_eq.mp hevent],
    filter_eq_nil_of_titles hback fun event hevent => by rwa [beq_iff_eq.mp hevent]]
  simp [Event.title]

/-- The answer of a command is told by no other part of a run. -/
theorem filter_isAnswer (hfront : ∀ event ∈ front, event.title ∈ Event.loadTitles) :
    (.starting directory :: (front ++ back ++ [.releasing size])).filter Event.isAnswer =
      back.filter Event.isAnswer := by
  have hload (event : Event) (hanswer : event.isAnswer = true) :
      event.title ∉ Event.loadTitles := by
    have htitles : event.title = "listing records" ∨ event.title = "searched" := by
      simpa [Event.isAnswer] using hanswer
    rcases htitles with htitle | htitle <;> rw [htitle] <;> decide
  rw [filter_parts (by simp [Event.isAnswer, Event.title]), filter_eq_nil_of_titles hfront hload]
  simp [Event.isAnswer, Event.title]

end parts

/-- A note on input that was passed over is shown whether or not details are asked for. -/
theorem isSome_loadLine? {note : Note} (h : note.event?.isSome = true) (color verbose : Bool) :
    (Terminal.loadLine? color verbose note).isSome = true := by
  cases note with
  | unreadable path cause => rfl
  | badLine path line => rfl
  | _ => cases h

/-- The event that counts the students of an answer is one of an answer. -/
theorem isAnswer_of_countEvent {command : Command} {event : Nat → Event}
    (h : command.countEvent? = some event) (count : Nat) : (event count).isAnswer = true := by
  cases command with
  | list | lastName name | major query =>
    obtain rfl := Option.some.inj h
    rfl
  | get id | check id | settings request => cases h

/-- What a command writes that counts the students of its answer is one line for each of them. -/
theorem wrote_of_countEvent {event : Nat → Event} {written : FileTree} {text : String}
    (hevent : invocation.command.countEvent? = some event)
    (hperform : perform session tree invocation.command = (after, .ok (next, answer)))
    (hpresent : present after invocation answer = (written, .ok text))
    {outcome : Outcome} (houtput : outcome.output = text ++ noteLines environment answer)
    (htree : outcome.tree = written) :
    outcome.Wrote invocation.options.output (Listing.print answer.students) := by
  obtain ⟨rfl, -, hnotes, -⟩ := perform_countEvent hevent hperform
  have hlists : invocation.command.listsStudents = true := by
    cases hcommand : invocation.command with
    | list | lastName name | major query => rfl
    | get id | check id | settings request =>
      rw [hcommand] at hevent
      cases hevent
  have hnone : noteLines environment answer = "" := by
    rw [noteLines, hnotes]
    rfl
  rw [hnone, String.append_empty] at houtput
  rw [present, if_pos hlists] at hpresent
  unfold Outcome.Wrote
  cases hpath : invocation.options.output with
  | none =>
    rw [hpath] at hpresent
    obtain rfl := Except.ok.inj (Prod.mk.inj hpresent).2
    exact houtput
  | some path =>
    rw [hpath] at hpresent
    obtain ⟨hwritten, hresult⟩ := Prod.mk.inj hpresent
    obtain ⟨_, hdone, rfl⟩ := map_eq_ok_iff.mp hresult
    exact ⟨houtput, FileTree.holds_of_writeBytes (Prod.ext (hwritten.trans htree.symm) hdone)⟩

/-- In a run with files to load whose events are all logged and that no failure ends, the students
that come in one by one and the size of the roster at the end are the same count, which the loading
tells in 32 bits. The events of files and lines that were passed over are those of the notes on
them, and each of these notes is shown. -/
theorem counts_of_inputs
    (hlogged : (Event.Filter.choose environment.log invocation.options.verbose).PassesAll)
    (hends : ¬ (run environment invocation tree).IsFailure)
    (hinputs : invocation.options.inputs ≠ []) :
    let outcome := run environment invocation tree
    let options := invocation.options
    ∃ session report, loading environment options tree = .ok (session, report) ∧
      (Event.titled "inserting record" outcome.events).length = session.roster.size ∧
      Event.titled "imported records" outcome.events = [.loaded (.ofNat session.roster.size)] ∧
      report.notes.filterMap Note.loadedCount? = [.ofNat session.roster.size] ∧
      Event.titled "releasing store" outcome.events = [.releasing session.roster.size] ∧
      outcome.texts =
        report.notes.filterMap (Terminal.loadLine? environment.color options.verbose) ∧
      outcome.events.filter Event.isSkipping = report.notes.filterMap Note.event? ∧
      ∀ note ∈ report.notes, note.event?.isSome = true →
        (Terminal.loadLine? environment.color options.verbose note).isSome = true := by
  intro outcome options
  obtain ⟨directory, session, report, after, next, answer, written, text, hloading, hperform, -,
    hevents, htexts, -⟩ := tells_of_not_isFailure hlogged hends
  obtain ⟨casing?, hroster, htells⟩ := (loading_eq_ok hloading).2 hinputs
  have hback := (perform_eq_ok hperform).2
  -- events with the titles of a loading come from the loading alone
  have hload {select : Event → Bool}
      (hselect : ∀ event, select event = true → event.title ∈ Event.loadTitles) :
      outcome.events.filter select = report.events.filter select := by
    simp only [outcome, hevents]
    exact filter_of_loadTitles hback hselect
  have htitled {title : String} (htitle : title ∈ Event.loadTitles) :
      Event.titled title outcome.events = Event.titled title report.events :=
    hload fun event hevent => by rwa [beq_iff_eq.mp hevent]
  have hsize : session.roster.size =
      (newcomers [] (pathStudents tree casing? options.inputs)).length := by
    rw [hroster, ← Roster.length_students, Roster.students_ofList, List.length_reverse]
  refine ⟨session, report, hloading, ?_⟩
  rw [htitled (by decide), htitled (by decide)]
  refine ⟨?_, ?_, ?_, ?_, htexts, ?_, fun note _ hnote => isSome_loadLine? hnote _ _⟩
  · rw [htells.inserted, List.length_map, hsize]
  · rw [htells.imported, hsize]
  · rw [htells.loaded, hsize]
  · simp only [outcome, hevents]
    exact titled_releasing htells.titles hback
  · rw [hload, htells.skipped]
    intro event hevent
    have htitles : event.title = "failed to load roster" ∨
        event.title = "skipping roster line" := by
      simpa [Event.isSkipping] using hevent
    rcases htitles with htitle | htitle <;> rw [htitle] <;> decide

/-- In a run whose events are all logged and that no failure ends, the students that come in one by
one and the size of the roster at the end are the same count, which is zero without files to load.
The number of the loading, in the log and in its note, is this count in 32 bits, and so the same
when fewer than `2 ^ 31` students come in. The events of files and lines that were passed over are
those of the notes on them, in the same order, and each of these notes is shown. The event of a
command that counts its answer has the number of students that were written, one on each line. -/
theorem counts_agree (hparse : CommandLine.parse arguments = .ok (.run invocation))
    (hlogged : (Event.Filter.choose environment.log invocation.options.verbose).PassesAll)
    (hends : ¬ (execute environment arguments tree).IsFailure) :
    let outcome := execute environment arguments tree
    let options := invocation.options
    (options.inputs ≠ [] → ∃ session report,
      loading environment options tree = .ok (session, report) ∧
        (Event.titled "inserting record" outcome.events).length = session.roster.size ∧
        Event.titled "imported records" outcome.events = [.loaded (.ofNat session.roster.size)] ∧
        report.notes.filterMap Note.loadedCount? = [.ofNat session.roster.size] ∧
        (session.roster.size < 2 ^ 31 →
          (Int32.ofNat session.roster.size).toInt = session.roster.size) ∧
        Event.titled "releasing store" outcome.events = [.releasing session.roster.size] ∧
        outcome.texts =
          report.notes.filterMap (Terminal.loadLine? environment.color options.verbose) ∧
        outcome.events.filter Event.isSkipping = report.notes.filterMap Note.event? ∧
        ∀ note ∈ report.notes, note.event?.isSome = true →
          (Terminal.loadLine? environment.color options.verbose note).isSome = true) ∧
      (options.inputs = [] → Event.titled "releasing store" outcome.events = [.releasing 0]) ∧
      ∀ event, invocation.command.countEvent? = some event → ∃ students,
        outcome.Wrote options.output (Listing.print students) ∧
          (Listing.print students).toList.count '\n' = students.length ∧
          outcome.events.filter Event.isAnswer = [event students.length] := by
  intro outcome options
  have hrun : outcome = run environment invocation tree := by
    simp only [outcome, execute, hparse]
  have hends' : ¬ (run environment invocation tree).IsFailure := by
    rwa [← hrun]
  obtain ⟨directory, session, report, after, next, answer, written, text, hloading, hperform,
    hpresent, hevents, htexts, houtput, htree⟩ := tells_of_not_isFailure hlogged hends'
  rw [← hrun] at hevents htexts houtput htree
  obtain ⟨hnone, hsome⟩ := loading_eq_ok hloading
  refine ⟨fun hinputs => ?_, fun hinputs => ?_, fun event hevent => ?_⟩
  · obtain ⟨session, report, hloaded, hinserted, himported, htold, hrest⟩ :=
      counts_of_inputs hlogged hends' hinputs
    rw [← hrun] at hinserted himported hrest
    exact ⟨session, report, hloaded, hinserted, himported, htold, Int32.toInt_ofNat_of_lt, hrest⟩
  · obtain ⟨hroster, rfl⟩ := hnone hinputs
    rw [hevents, titled_releasing (List.forall_mem_nil _) (perform_eq_ok hperform).2, hroster]
    rfl
  · obtain ⟨-, hanswer, -, hstudents⟩ := perform_countEvent hevent hperform
    refine ⟨answer.students, wrote_of_countEvent hevent hperform hpresent houtput htree, ?_, ?_⟩
    · exact Listing.count_linefeed_print fun student hstudent =>
        linefeed_not_mem_of_loading hloading (hstudents student hstudent)
    · have hfront : ∀ event ∈ report.events, event.title ∈ Event.loadTitles := by
        by_cases hinputs : options.inputs = []
        · rw [(hnone hinputs).2]
          exact List.forall_mem_nil _
        · obtain ⟨_, -, htells⟩ := hsome hinputs
          exact htells.titles
      rw [hevents, filter_isAnswer hfront, hanswer, List.filter_cons_of_pos, List.filter_nil]
      exact isAnswer_of_countEvent hevent _

/-- A search in a listing with a bad line and an id that is repeated, and in a file that is missing,
whose lines go to a file. -/
theorem counts_agree_search :
    let environment := { surroundings "config" with log := some "roster=debug" }
    let tree := (FileTree.empty ["work"]).place ["a.txt", "work"]
      (.file "1 ann ray 3.0 bio\n2 bo\n1 cy lee 2.0 art\n3 di roe 3.5 law\n".toUTF8)
    let arguments := ["-i", "a.txt", "-i", "missing.txt", "major", "bio", "-o", "out.txt"]
    let options : Options := ⟨["a.txt", "missing.txt"], some "out.txt", false, false⟩
    let outcome := execute environment arguments tree
    CommandLine.parse arguments = .ok (.run ⟨options, .major "bio"⟩) ∧
      (Event.Filter.choose environment.log false).PassesAll ∧ ¬ outcome.IsFailure ∧
      (Event.titled "inserting record" outcome.events).length = 2 ∧
      Event.titled "imported records" outcome.events = [.loaded 2] ∧
      Event.titled "releasing store" outcome.events = [.releasing 2] ∧
      outcome.events.filter Event.isSkipping =
        [.badLine "a.txt" ⟨2, .fieldCount 2⟩, .unreadable "missing.txt" .notFound] ∧
      ∃ students, outcome.Wrote (some "out.txt") (Listing.print students) ∧
        (Listing.print students).toList.count '\n' = students.length ∧
        outcome.events.filter Event.isAnswer = [.searchedMajor "bio" students.length] := by
  intro environment tree arguments options outcome
  have hparse : CommandLine.parse arguments = .ok (.run ⟨options, .major "bio"⟩) := by
    decide +kernel
  have hlogged : (Event.Filter.choose environment.log false).PassesAll :=
    Event.Filter.passesAll_choose_debug false
  have hends : ¬ outcome.IsFailure := by
    rintro ⟨after, before, failure, heq⟩
    have hcode : outcome.exitCode = 0 := by decide +kernel
    rw [heq] at hcode
    cases hcode
  have hloaded : (loading environment options tree).toOption.map
      (fun loaded => (loaded.1.roster.size, loaded.2.notes.filterMap Note.event?)) =
      some (2, [.badLine "a.txt" ⟨2, .fieldCount 2⟩, .unreadable "missing.txt" .notFound]) := by
    decide +kernel
  obtain ⟨hfiles, -, hanswer⟩ := @counts_agree environment _ _ tree hparse hlogged hends
  obtain ⟨session, report, hloading, hinserted, himported, -, -, hreleased, -, hskipped, -⟩ :=
    hfiles (List.cons_ne_nil _ _)
  rw [hloading] at hloaded
  obtain ⟨hsize, hnotes⟩ := Prod.mk.inj (Option.some.inj hloaded)
  rw [hsize] at hinserted himported hreleased
  exact ⟨hparse, hlogged, hends, hinserted, himported, hreleased, hskipped.trans hnotes,
    hanswer _ rfl⟩

/-- Once the settings are loaded, a run loads its files into an empty roster. -/
theorem loading_of_load {options : Options} {directory : String} {settings : Settings}
    (hdirectory : Settings.directory environment.places = .ok directory)
    (hload : Settings.load tree directory = .ok settings) :
    loading environment options tree =
      .ok (loadInputs ⟨.empty, directory, settings⟩ tree options) := by
  simp only [loading, hdirectory, Session.start, hload, bind, Except.bind, Except.map]
  rfl

/-- Beside the listings there are no settings. -/
theorem load_settings_crowd (front back : Nat) :
    Settings.load (crowd front back) "config" = .ok {} := by
  have hnone : (crowd front back).hasPath (Settings.filePath "config") = false := rfl
  rw [Settings.load, hnone]
  rfl

/-- A run that loads both listings without a casing has all of their students. -/
theorem size_of_loading_crowd {options : Options} {report : Report} {front back : Nat}
    (h : front + back < 2 ^ 32) (hdirectory : Settings.directory environment.places = .ok "config")
    (hinputs : options.inputs = ["a.txt", "b.txt"]) (hplain : options.normalize = false)
    (hloading : loading environment options (crowd front back) = .ok (session, report)) :
    session.roster.size = front + back := by
  rw [loading_of_load hdirectory (load_settings_crowd front back), loadInputs, hinputs, hplain]
    at hloading
  obtain rfl : _ = session := congrArg Prod.fst (Except.ok.inj hloading)
  exact (load_crowd h).1

/-- Once the settings are loaded, no failure ends a run that checks an id. -/
theorem not_isFailure_run_check {options : Options} {id : Int32} {directory : String}
    {settings : Settings} (hdirectory : Settings.directory environment.places = .ok directory)
    (hload : Settings.load tree directory = .ok settings) :
    ¬ (run environment ⟨options, .check id⟩ tree).IsFailure := by
  rintro ⟨after, before, failure, heq⟩
  have hnotes (roster : Roster) : (roster.check id).hasErrors = false := by
    unfold Roster.check
    split <;> rfl
  have hcode : (run environment ⟨options, .check id⟩ tree).exitCode = 0 := by
    simp [run, hdirectory, Session.start, hload, Except.map, conclude, perform, present,
      Command.listsStudents, hnotes]
  rw [heq] at hcode
  cases hcode

/-- A run can bring in more students than 32 bits count, and then the loading tells another number
than there are events of students that come in. -/
theorem counts_differ_beyond_32_bits :
    ¬ ∀ (environment : Environment) (arguments : List String) (invocation : Invocation)
        (tree : FileTree),
        CommandLine.parse arguments = .ok (.run invocation) →
        (Event.Filter.choose environment.log invocation.options.verbose).PassesAll →
        ¬ (execute environment arguments tree).IsFailure → invocation.options.inputs ≠ [] →
        let outcome := execute environment arguments tree
        ∃ number : Int32, Event.titled "imported records" outcome.events = [.loaded number] ∧
          number.toInt = (Event.titled "inserting record" outcome.events).length := by
  intro h
  let environment := { surroundings "config" with log := some "roster=debug" }
  let arguments := ["-i", "a.txt", "-i", "b.txt", "check", "1"]
  let options : Options := ⟨["a.txt", "b.txt"], none, false, false⟩
  let tree := crowd (2 ^ 30) (2 ^ 30)
  have hparse : CommandLine.parse arguments = .ok (.run ⟨options, .check 1⟩) := by
    decide +kernel
  have hlogged : (Event.Filter.choose environment.log false).PassesAll :=
    Event.Filter.passesAll_choose_debug false
  have hends : ¬ (run environment ⟨options, .check 1⟩ tree).IsFailure :=
    not_isFailure_run_check rfl (load_settings_crowd _ _)
  have hrun : execute environment arguments tree = run environment ⟨options, .check 1⟩ tree := by
    simp only [execute, hparse]
  obtain ⟨number, himported, hnumber⟩ :=
    h environment arguments ⟨options, .check 1⟩ tree hparse hlogged (by rwa [hrun]) (by decide)
  obtain ⟨session, report, hloading, hinserted, htold, -⟩ :=
    counts_of_inputs hlogged hends (by decide)
  have hsize : session.roster.size = 2 ^ 30 + 2 ^ 30 :=
    size_of_loading_crowd (by decide) rfl rfl rfl hloading
  rw [hrun] at himported hnumber
  rw [htold, hsize, List.cons.injEq, Event.loaded.injEq] at himported
  rw [hinserted, hsize, ← himported.1] at hnumber
  exact absurd hnumber (by decide)

end Program

end StudentRoster
