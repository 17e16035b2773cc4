import StudentRoster.Program
import StudentRoster.Proofs.Settings.Saving

/-!
# Requests about settings on the command line

A run of the program on a request about settings does to the files what the request does, and its
exit code is zero when the request succeeds (`execute_settings`). Before the request comes the start
of the session, which loads the saved settings. So a mistyped key, which the request refuses without
a look at the files, is refused in these words only when the settings can be loaded, and is
otherwise lost behind the failure of the loading (`execute_unknownKey`, `unknown_key_hidden`). The
files stay as they are in both cases.
-/

set_option autoImplicit false

namespace StudentRoster

/-- The text of a diagnostic that is no event. -/
def Diagnostic.text? : Diagnostic → Option String
  | .event _ => none
  | .text line => some line

/-- What stands on the stream for diagnostics apart from the events that are logged. -/
def Outcome.texts (outcome : Outcome) : List String :=
  outcome.diagnostics.filterMap Diagnostic.text?

namespace Program

variable {environment : Environment} {arguments : List String} {options : Options}
  {request : SettingsRequest} {tree : FileTree} {directory : String}

/-! ## What a run does to the files -/

/-- A session keeps its directory while files are loaded. -/
theorem loadInputs_directory (session : Session) (tree : FileTree) (options : Options) :
    (loadInputs session tree options).1.directory = session.directory := by
  unfold loadInputs
  split <;> rfl

/-- Once the settings are loaded, a run on a request does to the files what the request does, and
its exit code is zero when the request succeeds. -/
theorem conclude_settings {session : Session} (filter : Event.Filter) (before : List Diagnostic)
    (hsession : session.directory = directory) :
    let outcome := conclude environment ⟨options, .settings request⟩ filter before session tree
    outcome.tree = (Settings.answer tree directory request).1 ∧
      (outcome.exitCode = 0 ↔
        Settings.succeeds (Settings.answer tree directory request).2 = true) := by
  subst hsession
  intro outcome
  have hpresent (after : FileTree) (report : Report) :
      ∃ text, present after ⟨options, .settings request⟩ report = (after, .ok text) := by
    simp only [present, Command.listsStudents, Bool.false_eq_true, if_false]
    split <;> exact ⟨_, rfl⟩
  simp only [outcome, conclude, perform, Session.configure]
  cases hanswer : (Settings.answer tree session.directory request).2 with
  | error failure => simp [Except.map, failed, Settings.succeeds]
  | ok report =>
    obtain ⟨text, htext⟩ := hpresent (Settings.answer tree session.directory request).1 report
    simp only [Except.map, htext, Settings.succeeds]
    cases report.hasErrors <;> simp

/-- A run on a request about settings does to the files what the request does, and its exit code is
zero when the request succeeds. -/
theorem execute_settings (tree : FileTree)
    (hparse : CommandLine.parse arguments = .ok (.run ⟨options, .settings request⟩))
    (hdirectory : Settings.directory environment.places = .ok directory) :
    let outcome := execute environment arguments tree
    outcome.tree = (Settings.answer tree directory request).1 ∧
      (outcome.exitCode = 0 ↔
        Settings.succeeds (Settings.answer tree directory request).2 = true) := by
  simp only [execute, hparse, run, hdirectory, Session.start]
  cases hload : Settings.load tree directory with
  | error failure =>
    obtain ⟨htree, hrefused⟩ := Settings.answer_of_load_error hload request
    refine ⟨htree.symm, fun hcode => ?_, fun hsucceeds => ?_⟩
    · cases hcode
    · obtain ⟨report, hreport, herrors⟩ := Settings.succeeds_eq_true_iff.mp hsucceeds
      exact absurd (hrefused report hreport).1 (by simp [herrors])
  | ok settings =>
    exact conclude_settings _ _ (loadInputs_directory ⟨.empty, directory, settings⟩ tree options)

/-- A tree stays rooted when an answer is shown. -/
theorem isRooted_present (invocation : Invocation) (report : Report) (h : tree.IsRooted) :
    (present tree invocation report).1.IsRooted := by
  unfold present deliver
  split
  · split
    · exact h
    · exact h.writeBytes _ _
  · split <;> exact h

/-- A tree stays rooted whatever comes of a command. -/
theorem isRooted_conclude (invocation : Invocation) (filter : Event.Filter)
    (before : List Diagnostic) (session : Session) (h : tree.IsRooted) :
    (conclude environment invocation filter before session tree).tree.IsRooted := by
  have hperform : (perform session tree invocation.command).1.IsRooted := by
    cases invocation.command with
    | settings request => exact Settings.isRooted_answer h request
    | _ => exact h
  unfold conclude
  split
  next hfailed =>
    rw [hfailed] at hperform
    exact hperform
  next report hdone =>
    rw [hdone] at hperform
    have hpresent := isRooted_present invocation report hperform
    simp only
    split
    all_goals
      next hshown =>
      rw [hshown] at hpresent
      exact hpresent

/-- A tree stays rooted whatever comes of a run. -/
theorem isRooted_execute (arguments : List String) (h : tree.IsRooted) :
    (execute environment arguments tree).tree.IsRooted := by
  unfold execute run
  split
  · exact h
  · exact h
  · exact h
  · split
    · exact h
    · split
      · exact h
      · exact isRooted_conclude _ _ _ _ h

/-! ## Mistyped keys -/

/-- The settings that a run finds saved. -/
def savedSettings (environment : Environment) (tree : FileTree) : Except Failure Settings :=
  (Settings.directory environment.places).bind (Settings.load tree)

/-- The events that are logged are no texts. -/
theorem texts_logged (filter : Event.Filter) (events : List Event) :
    (logged filter events).filterMap Diagnostic.text? = [] := by
  simp [logged, List.filterMap_map, Function.comp_def, Diagnostic.text?]

/-- A request for an unknown key changes no file and has the exit code 1. It is refused in the same
words whatever the files are, as long as the settings can be loaded. Otherwise the failure of the
loading is all that is told. -/
theorem execute_unknownKey {key : String}
    (hparse : CommandLine.parse arguments = .ok (.run ⟨options, .settings request⟩))
    (hinputs : options.inputs = []) (hrequest : Settings.requestedKey? request = some key)
    (hkey : Setting.ofKey? key = none) :
    let outcome := execute environment arguments tree
    outcome.exitCode = 1 ∧ outcome.tree = tree ∧
      match savedSettings environment tree with
      | .ok _ =>
        outcome.output = Terminal.resultLine environment.color (.unknownKey key) ∧
          outcome.texts = []
      | .error failure =>
        outcome.output = "" ∧ outcome.texts = ["Error: " ++ failure.message ++ "\n"] := by
  have hfailed (failure : Failure) :
      (failed tree [] failure).texts = ["Error: " ++ failure.message ++ "\n"] := rfl
  simp only [execute, hparse, run, savedSettings]
  cases Settings.directory environment.places with
  | error failure => exact ⟨rfl, rfl, rfl, hfailed failure⟩
  | ok directory =>
    simp only [Except.bind, Session.start]
    cases Settings.load tree directory with
    | error failure => exact ⟨rfl, rfl, rfl, hfailed failure⟩
    | ok settings =>
      have hload : loadInputs ⟨.empty, directory, settings⟩ tree options =
          (⟨.empty, directory, settings⟩, {}) := by
        rw [loadInputs, hinputs]
        rfl
      have hshown : request ≠ .showAll := by
        rintro rfl
        cases hrequest
      have hpresent (report : Report) :
          present tree ⟨options, .settings request⟩ report = (tree, .ok "") := by
        simp [present, Command.listsStudents, hshown]
      simp only [Except.map, hload, conclude, perform, Session.configure,
        Settings.answer_of_unknownKey hrequest hkey, hpresent]
      refine ⟨rfl, trivial, ?_, ?_⟩
      · simp
      · simp [Outcome.texts, opening, texts_logged]

/-- The surroundings that name the directory of the settings outright. -/
def surroundings (directory : String) : Environment where
  places := ⟨some directory, none⟩
  color := false
  log := none

/-- A mistyped key where nothing is saved. -/
theorem execute_unknownKey_colour :
    let environment := surroundings "config"
    let outcome := execute environment ["config", "colour", "red"] (.empty ["work"])
    CommandLine.parse ["config", "colour", "red"] =
        .ok (.run ⟨{}, .settings (.change "colour" "red")⟩) ∧
      Settings.requestedKey? (.change "colour" "red") = some "colour" ∧
      Setting.ofKey? "colour" = none ∧ savedSettings environment (.empty ["work"]) = .ok {} ∧
      outcome.exitCode = 1 ∧ outcome.tree = .empty ["work"] ∧
      outcome.output =
        "Unknown config key: colour (expected one of: casing, normalize-on-load)\n" ∧
      outcome.texts = [] := by
  intro environment outcome
  have hparse : CommandLine.parse ["config", "colour", "red"] =
      .ok (.run ⟨{}, .settings (.change "colour" "red")⟩) := by
    decide +kernel
  have hsaved : savedSettings environment (.empty ["work"]) = .ok {} := by
    decide +kernel
  obtain ⟨hcode, htree, htold⟩ :=
    @execute_unknownKey environment _ _ _ (.empty ["work"]) _ hparse rfl rfl (by decide)
  rw [hsaved] at htold
  exact ⟨hparse, rfl, by decide, hsaved, hcode, htree, htold.1.trans (by decide +kernel), htold.2⟩

/-- A directory of settings whose file holds something else. -/
def spoiled : FileTree :=
  ((FileTree.empty ["work"]).place ["config", "work"] .directory).place
    [Settings.fileName, "config", "work"] (.file "not json".toUTF8)

/-- What a run says to a mistyped key does depend on the files: when the saved settings cannot be
read, that is all it says. -/
theorem unknown_key_hidden :
    ¬ ∀ (environment : Environment) (arguments : List String) (options : Options)
        (request : SettingsRequest) (key directory : String) (tree other : FileTree),
        Settings.directory environment.places = .ok directory →
        CommandLine.parse arguments = .ok (.run ⟨options, .settings request⟩) →
        options.inputs = [] → Settings.requestedKey? request = some key →
        Setting.ofKey? key = none →
        let outcome := execute environment arguments tree
        outcome.exitCode = 1 ∧ outcome.tree = tree ∧
          outcome.output = Terminal.resultLine environment.color (.unknownKey key) ∧
          outcome.texts = (execute environment arguments other).texts := by
  intro h
  have hparse : CommandLine.parse ["config", "colour", "red"] =
      .ok (.run ⟨{}, .settings (.change "colour" "red")⟩) := by
    decide +kernel
  obtain ⟨_, _, houtput, _⟩ := h (surroundings "config") _ _ _ "colour" "config" spoiled
    (.empty ["work"]) rfl hparse rfl rfl (by decide)
  exact absurd houtput (by decide +kernel)

end Program

end StudentRoster
