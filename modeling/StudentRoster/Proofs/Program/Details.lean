import StudentRoster.Proofs.CommandLine.Details
import StudentRoster.Proofs.Program.SettingsCommand
import StudentRoster.Proofs.Roster.Actions

/-!
# Details do not count

What the user wants to know about the work, by the switch for details or by a filter of events,
decides what stands on the stream for diagnostics and nothing else. A run is compared with the run
that is told of neither (`results_run`); so two sequences of runs that differ in these respects
only, however often, have the same results throughout (`details_change_no_result`).
-/

set_option autoImplicit false

namespace StudentRoster

-- The equality of bytes is that of core, whatever else is in scope.
attribute [local instance (high)] ByteArray.instDecidableEq

/-- All that a run leaves behind but what it says on the stream for diagnostics. -/
structure Results where
  exitCode : Nat
  output : String
  tree : FileTree
  deriving DecidableEq

/-- The results of a run. -/
def Outcome.results (outcome : Outcome) : Results :=
  ⟨outcome.exitCode, outcome.output, outcome.tree⟩

/-- The surroundings of a run without the filter of events. -/
def Environment.unlogged (environment : Environment) : Environment :=
  { environment with log := none }

/-- The surroundings and the arguments of a run of the program. -/
structure Launch where
  environment : Environment
  arguments : List String
  deriving DecidableEq, Repr

namespace Program

open CommandLine (DropsVerbose)

/-! ## One run -/

/-- What was told before a command and which events are logged has no part in its results. -/
theorem results_conclude (environment : Environment) (invocation : Invocation)
    (filter filter' : Event.Filter) (before before' : List Diagnostic) (session : Session)
    (tree : FileTree) :
    (conclude environment invocation filter before session tree).results =
      (conclude environment.unlogged invocation.quiet filter' before' session tree).results := by
  have hpresent (after : FileTree) (report : Report) :
      present after invocation.quiet report = present after invocation report := rfl
  have hcommand : invocation.quiet.command = invocation.command := rfl
  have hcolor : environment.unlogged.color = environment.color := rfl
  unfold conclude
  rw [hcommand]
  obtain ⟨after, result⟩ := perform session tree invocation.command
  cases result with
  | error failure => rfl
  | ok answer =>
    obtain ⟨next, report⟩ := answer
    simp only [hpresent, hcolor]
    obtain ⟨written, shown⟩ := present after invocation report
    cases shown <;> rfl

/-- A run has the results of the run without details. -/
theorem results_run (environment : Environment) (invocation : Invocation) (tree : FileTree) :
    (run environment invocation tree).results =
      (run environment.unlogged invocation.quiet tree).results := by
  have hplaces : environment.unlogged.places = environment.places := rfl
  unfold run
  rw [hplaces]
  cases Settings.directory environment.places with
  | error failure => rfl
  | ok directory =>
    simp only
    cases Session.start tree .empty directory with
    | error failure => rfl
    | ok session =>
      have hload : loadInputs session tree invocation.quiet.options =
          loadInputs session tree invocation.options := rfl
      simp only [hload]
      exact results_conclude environment invocation _ _ _ _ _ tree

/-- Two runs that ask for the same but for the details have the same results. -/
theorem results_execute_of_quiet {environment other : Environment}
    {arguments fewer : List String} {action action' : Action}
    (henvironment : other.unlogged = environment.unlogged)
    (hparse : CommandLine.parse arguments = .ok action)
    (hfewer : CommandLine.parse fewer = .ok action') (hquiet : action'.quiet = action.quiet)
    (tree : FileTree) :
    (execute other fewer tree).results = (execute environment arguments tree).results := by
  simp only [execute, hparse, hfewer]
  cases action with
  | run invocation =>
    cases action' with
    | run invocation' =>
      have hinvocation : invocation'.quiet = invocation.quiet := Action.run.inj hquiet
      simp only
      rw [results_run, results_run environment, henvironment, hinvocation]
    | showVersion => cases hquiet
    | showHelp => cases hquiet
  | showVersion =>
    cases action' with
    | showVersion => rfl
    | run invocation' => cases hquiet
    | showHelp => cases hquiet
  | showHelp =>
    cases action' with
    | showHelp => rfl
    | run invocation' => cases hquiet
    | showVersion => cases hquiet

/-- A launch without the switch for details has the results of the one with it. -/
theorem results_execute_of_dropsVerbose {environment other : Environment}
    {arguments fewer : List String} (henvironment : other.unlogged = environment.unlogged)
    (haccepted : (CommandLine.parse arguments).isOk = true)
    (hdrops : DropsVerbose arguments fewer) (tree : FileTree) :
    (execute other fewer tree).results = (execute environment arguments tree).results := by
  cases hparse : CommandLine.parse arguments with
  | error fault =>
    rw [hparse] at haccepted
    cases haccepted
  | ok action =>
    obtain ⟨action', hfewer, hquiet⟩ :=
      CommandLine.follows_parse_of_dropsVerbose hdrops action hparse
    exact results_execute_of_quiet henvironment hparse hfewer hquiet tree

/-- What is logged makes no difference to the results of a launch. -/
theorem results_execute_of_unlogged {environment other : Environment}
    (henvironment : other.unlogged = environment.unlogged) (arguments : List String)
    (tree : FileTree) :
    (execute other arguments tree).results = (execute environment arguments tree).results := by
  cases hparse : CommandLine.parse arguments with
  | error fault => simp only [execute, hparse, Outcome.results]
  | ok action => exact results_execute_of_quiet henvironment hparse hparse rfl tree

end Program

/-! ## Sequences of runs -/

namespace Launch

open CommandLine (DropsVerbose)

/-- Two launches differ at most in the filter of events and in one use of the switch for details.
The command line that has the switch is accepted. -/
structure DiffersInDetails (launch other : Launch) : Prop where
  unlogged_eq : other.environment.unlogged = launch.environment.unlogged
  arguments : other.arguments = launch.arguments ∨
    (CommandLine.parse launch.arguments).isOk = true ∧
      DropsVerbose launch.arguments other.arguments ∨
    (CommandLine.parse other.arguments).isOk = true ∧
      DropsVerbose other.arguments launch.arguments

/-- The files after a launch, and its outcome. -/
def step (tree : FileTree) (launch : Launch) : FileTree × Outcome :=
  let outcome := Program.execute launch.environment launch.arguments tree
  (outcome.tree, outcome)

variable {launch other : Launch} {launches others : List Launch}

/-- Launches that differ in details come to the same results. -/
theorem DiffersInDetails.results_eq (h : launch.DiffersInDetails other) (tree : FileTree) :
    (other.step tree).2.results = (launch.step tree).2.results := by
  rcases h.arguments with hsame | ⟨haccepted, hdrops⟩ | ⟨haccepted, hdrops⟩
  · simp only [step, hsame]
    exact Program.results_execute_of_unlogged h.unlogged_eq launch.arguments tree
  · exact Program.results_execute_of_dropsVerbose h.unlogged_eq haccepted hdrops tree
  · exact (Program.results_execute_of_dropsVerbose h.unlogged_eq.symm haccepted hdrops tree).symm

/-- Sequences of runs that start from the same files, and of which each run differs from its
counterpart at most in the switch for details and in the filter of events, have the same exit codes,
the same text on the standard output and the same files, run by run and at the end. -/
theorem details_change_no_result (h : List.Forall₂ DiffersInDetails launches others)
    (tree : FileTree) :
    (runActions step tree others).1 = (runActions step tree launches).1 ∧
      (runActions step tree others).2.map (·.2.results) =
        (runActions step tree launches).2.map (·.2.results) := by
  induction h generalizing tree with
  | nil => exact ⟨rfl, rfl⟩
  | @cons launch other launches others hfirst _ ih =>
    have hresults := hfirst.results_eq tree
    have htree : (other.step tree).1 = (launch.step tree).1 := congrArg Results.tree hresults
    obtain ⟨hlast, hrest⟩ := ih (launch.step tree).1
    simp only [runActions, htree, List.map_cons]
    exact ⟨hlast, by rw [hresults, hrest]⟩

/-- A change of the casing and a loading with details, and the same without. -/
theorem details_change_no_result_loading :
    let tree := (FileTree.empty ["work"]).place ["a.txt", "work"]
      (.file "1 o'neil ray 3.0 bio".toUTF8)
    let launches : List Launch :=
      [⟨Program.surroundings "config", ["config", "casing", "title", "--verbose"]⟩,
        ⟨{ Program.surroundings "config" with log := some "roster=debug" },
          ["-nvi", "a.txt", "major", "bio"]⟩]
    let others : List Launch :=
      [⟨{ Program.surroundings "config" with log := some "[[" }, ["config", "casing", "title"]⟩,
        ⟨Program.surroundings "config", ["-ni", "a.txt", "major", "bio"]⟩]
    List.Forall₂ DiffersInDetails launches others ∧
      (runActions step tree others).1 = (runActions step tree launches).1 ∧
      (runActions step tree others).2.map (·.2.results) =
        (runActions step tree launches).2.map (·.2.results) ∧
      (runActions step tree others).2.map (·.2.diagnostics) ≠
        (runActions step tree launches).2.map (·.2.diagnostics) := by
  intro tree launches others
  have hdetails : List.Forall₂ DiffersInDetails launches others := by
    refine .cons ⟨rfl, .inr (.inl ⟨by decide +kernel, ?_⟩)⟩
      (.cons ⟨rfl, .inr (.inl ⟨by decide +kernel, ?_⟩)⟩ .nil)
    · exact .argument ["config", "casing", "title"] [] (by decide) (.inr rfl)
    · exact .letter [] ["a.txt", "major", "bio"] ['n'] ['i'] (by decide)
        (List.forall_mem_singleton.mpr rfl) rfl (by decide)
  obtain ⟨htree, hresults⟩ := details_change_no_result hdetails tree
  exact ⟨hdetails, htree, hresults, by decide +kernel⟩

end Launch

end StudentRoster
