import StudentRoster.Proofs.Files.Contents
import StudentRoster.Proofs.Program.OutputFile

/-!
# What a run touches

A run leaves the files alone, but for one at most: a change of a setting may touch the settings
file, and a command that lists students its output file (`execute_changesOnly`). A setting is only
changed when the request can be carried out up to the saving, so that the settings file is not
touched by a mistake of the user.
-/

set_option autoImplicit false

namespace StudentRoster

-- The equality of bytes is that of core, whatever else is in scope.
attribute [local instance (high)] ByteArray.instDecidableEq

namespace Program

variable {environment : Environment} {arguments : List String} {invocation : Invocation}
  {tree : FileTree}

/-! ## Commands -/

/-- A run on a request about settings does to the files what the request does, if the settings have
a place, and otherwise nothing. -/
theorem execute_settings_cases {options : Options} {request : SettingsRequest} (tree : FileTree)
    (hparse : CommandLine.parse arguments = .ok (.run ⟨options, .settings request⟩)) :
    (execute environment arguments tree).tree = tree ∨
      ∃ directory, Settings.directory environment.places = .ok directory ∧
        (execute environment arguments tree).tree = (Settings.answer tree directory request).1 := by
  cases hdirectory : Settings.directory environment.places with
  | error failure =>
    left
    simp only [execute, hparse, run, hdirectory, failed]
  | ok directory => exact .inr ⟨directory, rfl, (execute_settings tree hparse hdirectory).1⟩

/-- Checking an id changes no file. -/
theorem execute_of_check {options : Options} {id : Int32} (tree : FileTree)
    (hparse : CommandLine.parse arguments = .ok (.run ⟨options, .check id⟩)) :
    (execute environment arguments tree).tree = tree := by
  simp only [execute, hparse, run]
  split
  · rfl
  split
  · rfl
  · rfl

/-- Showing settings changes no file. -/
theorem execute_of_show {options : Options} {request : SettingsRequest} (tree : FileTree)
    (hparse : CommandLine.parse arguments = .ok (.run ⟨options, .settings request⟩))
    (hrequest : ∀ key value, request ≠ .change key value) :
    (execute environment arguments tree).tree = tree := by
  obtain hsame | ⟨directory, -, hanswer⟩ := execute_settings_cases tree hparse
  · exact hsame
  · exact hanswer.trans (Settings.answer_fst_of_show hrequest)

/-- A change of a setting touches at most the settings file. -/
theorem execute_of_change {options : Options} {key value : String} (tree : FileTree)
    (hparse : CommandLine.parse arguments = .ok (.run ⟨options, .settings (.change key value)⟩)) :
    let after := (execute environment arguments tree).tree
    after = tree ∨ ∃ directory setting saved changed,
      Settings.directory environment.places = .ok directory ∧
      Setting.ofKey? key = some setting ∧ Settings.load tree directory = .ok saved ∧
      saved.set setting value = (changed, .ok ()) ∧
      tree.ChangesOnly after (Settings.filePath directory) := by
  intro after
  obtain hsame | ⟨directory, hdirectory, hanswer⟩ := execute_settings_cases tree hparse
  · exact .inl hsame
  obtain hsame | ⟨setting, saved, changed, hkey, hload, hset, hsave⟩ :=
    Settings.answer_fst_of_change tree directory key value
  · exact .inl (hanswer.trans hsame)
  · refine .inr ⟨directory, setting, saved, changed, hdirectory, hkey, hload, hset, ?_⟩
    have hafter : after = (changed.save tree directory).1 := hanswer.trans hsave
    rw [hafter]
    exact Settings.changesOnly_save changed tree directory

/-- A command that lists students either changes nothing or writes its output file, as far as there
is room for it. -/
theorem execute_eq_or_writes (environment : Environment) (tree : FileTree)
    (hparse : CommandLine.parse arguments = .ok (.run invocation))
    (hlists : invocation.command.listsStudents = true) :
    let after := (execute environment arguments tree).tree
    after = tree ∨ ∃ path content, invocation.options.output = some path ∧
      after = (tree.writeBytes path content).1 := by
  obtain ⟨before, rest, hrun⟩ := run_of_listsStudents environment tree hlists
  have hexecute : execute environment arguments tree =
      run environment (invocation.withOutput invocation.options.output) tree := by
    simp only [execute, hparse]
    rfl
  rw [hexecute, hrun]
  cases answer environment invocation tree with
  | error failure => exact .inl rfl
  | ok report =>
    cases houtput : invocation.options.output with
    | none => exact .inl rfl
    | some path =>
      refine .inr ⟨path, (Listing.print report.students).toUTF8, rfl, ?_⟩
      simp only [deliver]
      cases (tree.writeBytes path (Listing.print report.students).toUTF8).2 <;> rfl

/-- A command that lists students touches at most its output file. -/
theorem execute_of_listsStudents (environment : Environment) (tree : FileTree)
    (hparse : CommandLine.parse arguments = .ok (.run invocation))
    (hlists : invocation.command.listsStudents = true) :
    let after := (execute environment arguments tree).tree
    match invocation.options.output with
    | none => after = tree
    | some path => tree.ChangesOnly after path ∧ after.isDirectory = tree.isDirectory := by
  intro after
  obtain hsame | ⟨path, content, houtput, hwrite⟩ :=
    execute_eq_or_writes environment tree hparse hlists
  · have hafter : after = tree := hsame
    split
    · exact hafter
    · rw [hafter]
      exact ⟨FileTree.changesOnly_of_rest rfl fun _ _ => .inl rfl, rfl⟩
  · have hafter : after = (tree.writeBytes path content).1 := hwrite
    rw [houtput, hafter]
    exact ⟨FileTree.changesOnly_of_writeBytes path content rfl fun _ => .inl rfl,
      tree.isDirectory_writeBytes path content⟩

/-! ## Runs -/

/-- The files that a run touches. Showing settings and checking an id change nothing at all,
whatever the options are. A change of a setting touches at most the settings file, and this only
when its key is known, the setting takes the value, and the settings could be loaded. A command that
lists students touches at most its output file, and makes no directory for it. -/
theorem execute_changesOnly (tree : FileTree)
    (hparse : CommandLine.parse arguments = .ok (.run invocation)) :
    let after := (execute environment arguments tree).tree
    match invocation.command with
    | .check _ | .settings .showAll | .settings (.showKey _) => after = tree
    | .settings (.change key value) =>
      after = tree ∨ ∃ directory setting saved changed,
        Settings.directory environment.places = .ok directory ∧
        Setting.ofKey? key = some setting ∧ Settings.load tree directory = .ok saved ∧
        saved.set setting value = (changed, .ok ()) ∧
        tree.ChangesOnly after (Settings.filePath directory)
    | .list | .get _ | .lastName _ | .major _ =>
      match invocation.options.output with
      | none => after = tree
      | some path => tree.ChangesOnly after path ∧ after.isDirectory = tree.isDirectory := by
  obtain ⟨options, command⟩ := invocation
  cases command with
  | list | get _ | lastName _ | major _ =>
    exact execute_of_listsStudents environment tree hparse rfl
  | check id => exact execute_of_check tree hparse
  | settings request =>
    cases request with
    | showAll | showKey _ => exact execute_of_show tree hparse (by simp)
    | change key value => exact execute_of_change tree hparse

/-- A change of the casing, which leaves the file alone that an option names for the output. -/
theorem execute_changesOnly_casing :
    let tree := (FileTree.empty ["work"]).place ["out.txt", "work"] (.file "old".toUTF8)
    let arguments := ["-o", "out.txt", "config", "casing", "title"]
    let after := (execute (surroundings "config") arguments tree).tree
    CommandLine.parse arguments =
        .ok (.run ⟨{ output := some "out.txt" }, .settings (.change "casing" "title")⟩) ∧
      after ≠ tree ∧ tree.ChangesOnly after "config/config.json" ∧
      after.readBytes "out.txt" = .ok "old".toUTF8 := by
  intro tree arguments after
  have hparse : CommandLine.parse arguments =
      .ok (.run ⟨{ output := some "out.txt" }, .settings (.change "casing" "title")⟩) := by
    decide +kernel
  have hchanged : after ≠ tree := by
    decide +kernel
  obtain hsame | ⟨directory, _, _, _, hdirectory, _, _, _, honly⟩ :=
    @execute_changesOnly (surroundings "config") _ _ tree hparse
  · exact absurd hsame hchanged
  · obtain rfl : "config" = directory := Except.ok.inj hdirectory
    exact ⟨hparse, hchanged, honly, by decide +kernel⟩

end Program

end StudentRoster
