import StudentRoster.Proofs.Program.OutputFile

/-!
# When a run fails

A run fails for seven reasons (`Fails`), and then its exit code is one; otherwise it is zero
(`exitCode_execute`). The reasons are about the saved settings, the command and the output file. The
files to load are not among them: what cannot be read there, or is not taken from them, is told and
passed over, and an id that is not found is no failure either. So a session whose settings are
loaded can be looked at with any roster in it (`exitCode_conclude`). Two of the reasons need care:
there may be no place for the settings at all, and a settings file that is not seen there, because
looking for it fails, is taken for a missing one (`exitCode_without_settings`).
-/

set_option autoImplicit false

namespace StudentRoster

-- The equality of bytes is that of core, whatever else is in scope.
attribute [local instance (high)] ByteArray.instDecidableEq

/-- The texts that a setting takes, in lower case and without blanks around them. -/
def Setting.accepted : Setting → List String
  | .casing => [Casing.legacy.name, Casing.title.name]
  | .normalizeOnLoad => yesTexts ++ noTexts

namespace Settings

variable {tree : FileTree} {directory : String} {request : SettingsRequest}

/-! ## Requests that are refused -/

/-- Something is seen in the place of the settings file, but it cannot be read as the text of any
settings. -/
def IsUnreadable (tree : FileTree) (directory : String) : Prop :=
  tree.hasPath (filePath directory) = true ∧
    ¬∃ text settings, tree.readText (filePath directory) = .ok text ∧ ofJson text = .ok settings

/-- Settings that cannot be read are those whose loading fails. -/
theorem isUnreadable_iff :
    IsUnreadable tree directory ↔ ∃ failure, load tree directory = .error failure := by
  unfold IsUnreadable load
  cases hpath : tree.hasPath (filePath directory) with
  | false => simp
  | true =>
    cases htext : tree.readText (filePath directory) with
    | error cause => simp
    | ok text => cases hjson : ofJson text <;> simp [hjson, Except.mapError]

/-- Whether a setting takes a value does not depend on the other settings. -/
theorem exists_set_iff (settings : Settings) {setting : Setting} {value : String} :
    (∃ changed, settings.set setting value = (changed, .ok ())) ↔
      foldValue value ∈ setting.accepted := by
  cases setting with
  | casing =>
    simp only [set, Casing.ofText, Setting.accepted, Casing.name, List.mem_cons, List.not_mem_nil,
      or_false]
    by_cases hlegacy : foldValue value = "legacy"
    · simp [hlegacy]
    · by_cases htitle : foldValue value = "title" <;> simp [hlegacy, htitle]
  | normalizeOnLoad =>
    simp only [set, answerOfText, Setting.accepted, List.mem_append, List.contains_iff_mem]
    by_cases hyes : foldValue value ∈ yesTexts
    · simp [hyes]
    · by_cases hno : foldValue value ∈ noTexts <;> simp [hyes, hno]

/-- A change of a setting succeeds if the setting takes the value and the settings can be saved. -/
theorem succeeds_change {key value : String} {setting : Setting} {saved : Settings}
    (hkey : Setting.ofKey? key = some setting) (hload : load tree directory = .ok saved) :
    succeeds (answer tree directory (.change key value)).2 =
      match saved.set setting value with
      | (_, .error _) => false
      | (changed, .ok ()) => (changed.save tree directory).2.isOk := by
  simp only [answer, hkey, changeSaved, hload]
  obtain ⟨changed, result⟩ := saved.set setting value
  cases result with
  | error fault => rfl
  | ok done =>
    simp only
    split
    all_goals
      next hsave =>
      rw [hsave]
      rfl

end Settings

namespace Program

variable {environment : Environment} {arguments : List String} {invocation : Invocation}
  {places : Settings.Places} {tree : FileTree} {directory : String} {output : Option String}
  {command : Command}

/-- Why a run of a command fails, where the surroundings say this of the directory of the settings
and with this output file. -/
inductive Fails (places : Settings.Places) (tree : FileTree) (output : Option String) :
    Command → Prop
  where
  | noPlace {command : Command} {failure : Failure}
      (hplace : Settings.directory places = .error failure) :
    Fails places tree output command
  | unreadableSettings {command : Command} {directory : String}
      (hplace : Settings.directory places = .ok directory)
      (hsettings : Settings.IsUnreadable tree directory) :
    Fails places tree output command
  | shortMajor {query : String} (hshort : query.toList.length < 3) :
    Fails places tree output (.major query)
  | unknownKey {request : SettingsRequest} {key : String}
      (hrequest : Settings.requestedKey? request = some key) (hkey : Setting.ofKey? key = none) :
    Fails places tree output (.settings request)
  | badValue {key value : String} {setting : Setting} (hkey : Setting.ofKey? key = some setting)
      (hvalue : foldValue value ∉ setting.accepted) :
    Fails places tree output (.settings (.change key value))
  | unsaved {key value directory : String} {setting : Setting} {saved changed : Settings}
      {failure : Failure} (hplace : Settings.directory places = .ok directory)
      (hkey : Setting.ofKey? key = some setting) (hload : Settings.load tree directory = .ok saved)
      (hset : saved.set setting value = (changed, .ok ()))
      (hsave : (changed.save tree directory).2 = .error failure) :
    Fails places tree output (.settings (.change key value))
  | noOutput {command : Command} {path : String} {cause : FileError}
      (hlists : command.listsStudents = true) (houtput : output = some path)
      (htarget : tree.fileTarget path = .error cause) :
    Fails places tree output command

/-- Whatever is written to an output file that can be created goes through. -/
def OutputGoesThrough (tree : FileTree) (output : Option String) : Prop :=
  ∀ path place, output = some path → tree.fileTarget path = .ok place →
    ∀ content, tree.hasRoom place content = true

/-- Where the settings are loaded, no reason is left that is about them alone. -/
theorem not_isUnreadable_of_load {settings : Settings}
    (hplace : Settings.directory places = .ok directory)
    (hload : Settings.load tree directory = .ok settings) :
    (∀ failure, Settings.directory places ≠ .error failure) ∧
      ∀ other, Settings.directory places = .ok other → ¬Settings.IsUnreadable tree other := by
  rw [hplace]
  constructor
  · rintro failure ⟨⟩
  · intro other hother
    obtain rfl := Except.ok.inj hother
    rw [Settings.isUnreadable_iff, hload]
    rintro ⟨failure, h⟩
    cases h

/-! ## Requests about settings -/

/-- A request that has a reason to fail does not succeed. -/
theorem succeeds_eq_false_of_fails {request : SettingsRequest}
    (hfails : Fails places tree output (.settings request)) {saved : Settings}
    (hplace : Settings.directory places = .ok directory)
    (hload : Settings.load tree directory = .ok saved) :
    Settings.succeeds (Settings.answer tree directory request).2 = false := by
  obtain ⟨hsome, hreadable⟩ := not_isUnreadable_of_load hplace hload
  cases hfails with
  | noPlace hnone => exact absurd hnone (hsome _)
  | unreadableSettings hother hsettings => exact absurd hsettings (hreadable _ hother)
  | unknownKey hrequest hkey =>
    rw [Settings.answer_of_unknownKey hrequest hkey]
    rfl
  | badValue hkey hvalue =>
    rw [Settings.succeeds_change hkey hload]
    split
    · rfl
    next hset => exact absurd ((Settings.exists_set_iff saved).mp ⟨_, hset⟩) hvalue
  | unsaved hother hkey hsaved hset hsave =>
    obtain rfl := Except.ok.inj (hplace.symm.trans hother)
    rw [Settings.succeeds_change hkey hsaved, hset]
    simp only [hsave]
    rfl
  | noOutput hlists => cases hlists

/-- A request that does not succeed has a reason to fail. -/
theorem fails_of_succeeds_eq_false {request : SettingsRequest} {saved : Settings}
    (hplace : Settings.directory places = .ok directory)
    (hload : Settings.load tree directory = .ok saved)
    (hrefused : Settings.succeeds (Settings.answer tree directory request).2 = false) :
    Fails places tree output (.settings request) := by
  cases request with
  | showAll =>
    simp [Settings.answer, hload, Except.map, Settings.succeeds, Report.hasErrors] at hrefused
  | showKey key =>
    cases hkey : Setting.ofKey? key with
    | none => exact .unknownKey rfl hkey
    | some setting =>
      simp [Settings.answer, hkey, Settings.showSaved, hload, Except.map, Settings.succeeds,
        Report.hasErrors, Note.level] at hrefused
  | change key value =>
    cases hkey : Setting.ofKey? key with
    | none => exact .unknownKey rfl hkey
    | some setting =>
      rw [Settings.succeeds_change hkey hload] at hrefused
      split at hrefused
      next hset =>
        refine .badValue hkey fun hvalue => ?_
        obtain ⟨changed, hchanged⟩ := (Settings.exists_set_iff saved).mpr hvalue
        rw [hset] at hchanged
        cases hchanged
      next changed hset =>
        cases hsave : (changed.save tree directory).2 with
        | error failure => exact .unsaved hplace hkey hload hset hsave
        | ok _ =>
          rw [hsave] at hrefused
          cases hrefused

/-! ## Commands that list students -/

/-- The lines of students can be shown unless the output file cannot be created. -/
theorem deliver_error_iff (hroom : OutputGoesThrough tree output) (students : List Student) :
    (∃ cause, (deliver tree output students).2 = .error cause) ↔
      ∃ path cause, output = some path ∧ tree.fileTarget path = .error cause := by
  cases output with
  | none => simp [deliver]
  | some path =>
    cases htarget : tree.fileTarget path with
    | error cause => simp [deliver, FileTree.writeBytes, htarget, Except.map]
    | ok place =>
      simp [deliver, FileTree.writeBytes, htarget, hroom path place rfl htarget, Except.map]

/-- The searches that are too short are those by a major of fewer than three characters. -/
theorem isShortSearch_eq_true_iff :
    command.isShortSearch = true ↔ ∃ query, command = .major query ∧ query.toList.length < 3 := by
  cases command with
  | major query =>
    simp only [Command.isShortSearch, decide_eq_true_eq, Command.major.injEq, exists_eq_left']
    rfl
  | _ => simp [Command.isShortSearch]

/-- Where the settings are loaded, two reasons are left for a command that lists students. -/
theorem fails_listing_iff (hlists : command.listsStudents = true) {settings : Settings}
    (hplace : Settings.directory places = .ok directory)
    (hload : Settings.load tree directory = .ok settings) :
    Fails places tree output command ↔ command.isShortSearch = true ∨
      ∃ path cause, output = some path ∧ tree.fileTarget path = .error cause := by
  obtain ⟨hsome, hreadable⟩ := not_isUnreadable_of_load hplace hload
  constructor
  · intro hfails
    cases hfails with
    | noPlace hnone => exact absurd hnone (hsome _)
    | unreadableSettings hother hsettings => exact absurd hsettings (hreadable _ hother)
    | shortMajor hshort => exact .inl (isShortSearch_eq_true_iff.mpr ⟨_, rfl, hshort⟩)
    | noOutput _ houtput htarget => exact .inr ⟨_, _, houtput, htarget⟩
    | unknownKey | badValue | unsaved => cases hlists
  · rintro (hshort | ⟨path, cause, houtput, htarget⟩)
    · obtain ⟨query, rfl, hlength⟩ := isShortSearch_eq_true_iff.mp hshort
      exact .shortMajor hlength
    · exact .noOutput hlists houtput htarget

/-- What is told about the students of a roster is no error. -/
theorem hasErrors_of_perform (session : Session) {after : Session} {report : Report}
    (hlists : command.listsStudents = true)
    (h : (perform session tree command).2 = .ok (after, report)) : report.hasErrors = false := by
  cases command with
  | list | lastName _ =>
    obtain ⟨-, rfl⟩ := Prod.mk.inj (Except.ok.inj h)
    rfl
  | get id =>
    obtain ⟨-, rfl⟩ := Prod.mk.inj (Except.ok.inj h)
    unfold Roster.lookUp
    split <;> rfl
  | major query =>
    simp only [perform, Roster.searchMajor] at h
    cases hmajor : session.roster.withMajor query with
    | error failure =>
      rw [hmajor] at h
      cases h
    | ok students =>
      rw [hmajor] at h
      obtain ⟨-, rfl⟩ := Prod.mk.inj (Except.ok.inj h)
      rfl
  | check id => cases hlists
  | settings request => cases hlists

/-! ## Runs -/

/-- A command that lists students fails when the search is too short or the output file cannot be
created. -/
theorem exitCode_conclude_of_listsStudents (filter : Event.Filter) (before : List Diagnostic)
    (session : Session) (hlists : invocation.command.listsStudents = true)
    (hroom : OutputGoesThrough tree invocation.options.output) :
    (conclude environment invocation filter before session tree).exitCode = 0 ↔
      ¬(invocation.command.isShortSearch = true ∨ ∃ path cause,
        invocation.options.output = some path ∧ tree.fileTarget path = .error cause) := by
  obtain ⟨result, hperform, hresult⟩ := perform_of_listsStudents session tree hlists
  cases result with
  | error failure =>
    have hshort : invocation.command.isShortSearch = true := by
      simpa [Except.isOk, Except.toBool] using hresult
    simp [conclude, hperform, Except.map, failed, hshort]
  | ok report =>
    have hlong : invocation.command.isShortSearch = false := by
      simpa [Except.isOk, Except.toBool] using hresult
    have herrors : report.hasErrors = false :=
      hasErrors_of_perform session hlists (congrArg Prod.snd hperform)
    have hpresent : present tree invocation report =
        deliver tree invocation.options.output report.students := by
      rw [present, if_pos hlists]
    -- The notes are no errors, so that only the delivery of the lines is left to fail.
    rw [hlong, ← deliver_error_iff hroom report.students]
    simp only [conclude, hperform, Except.map, hpresent]
    obtain ⟨written, shown⟩ := deliver tree invocation.options.output report.students
    cases shown <;> simp [failed, herrors]

/-- There are no other exit codes. -/
theorem exitCode_conclude_cases (filter : Event.Filter) (before : List Diagnostic)
    (session : Session) :
    let code := (conclude environment invocation filter before session tree).exitCode
    code = 0 ∨ code = 1 := by
  unfold conclude
  split
  · exact .inr rfl
  next report _ =>
    simp only
    split
    · exact .inr rfl
    · cases report.hasErrors
      · exact .inl rfl
      · exact .inr rfl

/-- Once the settings are loaded, a command succeeds when no reason is left, whatever roster it
finds. -/
theorem exitCode_conclude_eq_zero_iff (filter : Event.Filter) (before : List Diagnostic)
    (session : Session) {settings : Settings}
    (hplace : Settings.directory places = .ok session.directory)
    (hload : Settings.load tree session.directory = .ok settings)
    (hroom : OutputGoesThrough tree invocation.options.output) :
    (conclude environment invocation filter before session tree).exitCode = 0 ↔
      ¬Fails places tree invocation.options.output invocation.command := by
  obtain ⟨options, command⟩ := invocation
  have hlisting (hlists : command.listsStudents = true) :
      (conclude environment ⟨options, command⟩ filter before session tree).exitCode = 0 ↔
        ¬Fails places tree options.output command := by
    rw [fails_listing_iff hlists hplace hload]
    exact exitCode_conclude_of_listsStudents filter before session hlists hroom
  cases command with
  | list | get _ | lastName _ | major _ => exact hlisting rfl
  | check id =>
    refine iff_of_true ?_ fun hfails => ?_
    · have herrors : (session.roster.check id).hasErrors = false := by
        unfold Roster.check
        split <;> rfl
      simp [conclude, perform, present, Command.listsStudents, herrors]
    · obtain ⟨hsome, hreadable⟩ := not_isUnreadable_of_load hplace hload
      cases hfails with
      | noPlace hnone => exact hsome _ hnone
      | unreadableSettings hother hsettings => exact hreadable _ hother hsettings
      | noOutput hlists => cases hlists
  | settings request =>
    have hsucceeds : Fails places tree options.output (.settings request) ↔
        Settings.succeeds (Settings.answer tree session.directory request).2 = false :=
      ⟨fun h => succeeds_eq_false_of_fails h hplace hload,
        fails_of_succeeds_eq_false hplace hload⟩
    rw [hsucceeds, Bool.not_eq_false]
    exact (conclude_settings filter before rfl).2

/-- Once the settings are loaded, a command fails for the reasons that are left, whatever roster it
finds. -/
theorem exitCode_conclude (filter : Event.Filter) (before : List Diagnostic) (session : Session)
    {settings : Settings} (hplace : Settings.directory places = .ok session.directory)
    (hload : Settings.load tree session.directory = .ok settings)
    (hroom : OutputGoesThrough tree invocation.options.output) :
    let code := (conclude environment invocation filter before session tree).exitCode
    (code = 1 ↔ Fails places tree invocation.options.output invocation.command) ∧
      (code = 0 ↔ ¬Fails places tree invocation.options.output invocation.command) := by
  intro code
  have hzero : code = 0 ↔ ¬Fails places tree invocation.options.output invocation.command :=
    exitCode_conclude_eq_zero_iff filter before session hplace hload hroom
  have hcode : code = 1 ↔ ¬code = 0 := by
    have hcases : code = 0 ∨ code = 1 := exitCode_conclude_cases filter before session
    omega
  exact ⟨by rw [hcode, hzero, not_not], hzero⟩

/-- A run fails exactly for the reasons of `Fails`, and otherwise its exit code is zero. Of the
options only the output file counts, to which writes are taken to go through: whatever there is to
be said of the files to load, and whether an id is found, has no part in it. -/
theorem exitCode_execute (tree : FileTree)
    (hparse : CommandLine.parse arguments = .ok (.run invocation))
    (hroom : OutputGoesThrough tree invocation.options.output) :
    let code := (execute environment arguments tree).exitCode
    let fails := Fails environment.places tree invocation.options.output invocation.command
    (code = 1 ↔ fails) ∧ (code = 0 ↔ ¬fails) := by
  have hfailed (failure : Failure) {goal : Prop} (hgoal : goal) :
      ((failed tree [] failure).exitCode = 1 ↔ goal) ∧
        ((failed tree [] failure).exitCode = 0 ↔ ¬goal) :=
    ⟨iff_of_true rfl hgoal, iff_of_false Nat.one_ne_zero (not_not_intro hgoal)⟩
  simp only [execute, hparse, run]
  cases hplace : Settings.directory environment.places with
  | error failure => exact hfailed failure (.noPlace hplace)
  | ok directory =>
    simp only [Session.start]
    cases hload : Settings.load tree directory with
    | error failure =>
      exact hfailed failure
        (.unreadableSettings hplace (Settings.isUnreadable_iff.mpr ⟨failure, hload⟩))
    | ok settings =>
      simp only [Except.map]
      -- loading files changes neither the tree nor where the settings are
      have hkept := loadInputs_directory ⟨.empty, directory, settings⟩ tree invocation.options
      generalize loadInputs ⟨.empty, directory, settings⟩ tree invocation.options = loaded
        at hkept ⊢
      obtain ⟨session, report⟩ := loaded
      obtain rfl : session.directory = directory := hkept
      exact exitCode_conclude _ _ session hplace hload hroom

/-- A look-up without success after a loading without success, which does not fail, and the same
with an output file in a directory that is missing, which does. -/
theorem exitCode_execute_missing :
    let tree := FileTree.empty ["work"]
    let arguments := ["-i", "missing.txt", "get", "7"]
    let moved := ["-i", "missing.txt", "get", "7", "-o", "nowhere/out.txt"]
    CommandLine.parse arguments = .ok (.run ⟨{ inputs := ["missing.txt"] }, .get 7⟩) ∧
      CommandLine.parse moved = .ok (.run
        ⟨{ inputs := ["missing.txt"], output := some "nowhere/out.txt" }, .get 7⟩) ∧
      (execute (surroundings "config") arguments tree).exitCode = 0 ∧
      (execute (surroundings "config") moved tree).exitCode = 1 := by
  intro tree arguments moved
  have hparse : CommandLine.parse arguments =
      .ok (.run ⟨{ inputs := ["missing.txt"] }, .get 7⟩) := by
    decide +kernel
  have hmoved : CommandLine.parse moved = .ok (.run
      ⟨{ inputs := ["missing.txt"], output := some "nowhere/out.txt" }, .get 7⟩) := by
    decide +kernel
  have hunsaved : tree.hasPath (Settings.filePath "config") = false := by
    decide +kernel
  have htarget : tree.fileTarget "nowhere/out.txt" = .error .notFound := by
    decide +kernel
  have hplain := (@exitCode_execute (surroundings "config") _ _ tree hparse
    (fun _ _ houtput => by cases houtput)).2
  have hfailing := (@exitCode_execute (surroundings "config") _ _ tree hmoved
    (fun _ _ _ _ _ => rfl)).1
  refine ⟨hparse, hmoved, hplain.mpr fun hfails => ?_, hfailing.mpr (.noOutput rfl rfl htarget)⟩
  cases hfails with
  | noPlace hnone => cases hnone
  | unreadableSettings hplace hsettings =>
    obtain rfl := Except.ok.inj hplace
    exact absurd hsettings.1 (by rw [hunsaved]; decide)
  | noOutput _ houtput => cases houtput

/-- A directory under its name with this number of slashes behind it. -/
def slashed (directory : String) (count : Nat) : String :=
  directory ++ String.ofList (List.replicate count '/')

/-- Each slash takes one byte. -/
theorem utf8ByteSize_slashed (directory : String) (count : Nat) :
    (slashed directory count).utf8ByteSize = directory.utf8ByteSize + count := by
  induction count with
  | zero => simp [slashed]
  | succ count ih =>
    have hone : (String.ofList ['/']).utf8ByteSize = 1 := rfl
    rw [slashed, List.replicate_succ', String.ofList_append, ← String.append_assoc, ← slashed,
      String.utf8ByteSize_append, ih, hone, Nat.add_assoc]

/-- With too many slashes behind the directory the settings file is not seen and taken for a missing
one. -/
theorem load_slashed {count : Nat} (h : Route.maxPathBytes < count) :
    Settings.load tree (slashed directory count) = .ok {} := by
  have hlong : Route.maxPathBytes <
      (Settings.filePath (slashed directory count)).utf8ByteSize := by
    refine Nat.lt_of_lt_of_le ?_ (Route.utf8ByteSize_le_joinPath _ _)
    rw [utf8ByteSize_slashed]
    omega
  rw [Settings.load, FileTree.hasPath_of_long hlong]
  rfl

/-- Once the settings are loaded, a run that lists students on the standard output succeeds. -/
theorem exitCode_list {settings : Settings}
    (hload : Settings.load tree directory = .ok settings) :
    (execute (surroundings directory) ["list"] tree).exitCode = 0 := by
  have hparse : CommandLine.parse ["list"] = .ok (.run ⟨{}, .list⟩) := by
    decide +kernel
  have hplace : Settings.directory (surroundings directory).places = .ok directory := rfl
  simp only [execute, hparse, run, hplace, Session.start, hload, Except.map]
  rfl

/-- Without a place for the settings a run fails, though there is no file that could not be read.
And a settings file that holds no settings, for which a run fails that sees it, does no harm when
the path to it is too long. -/
theorem exitCode_without_settings :
    let nowhere : Environment := ⟨⟨none, none⟩, false, none⟩
    let tree := FileTree.empty ["work"]
    CommandLine.parse ["list"] = .ok (.run ⟨{}, .list⟩) ∧
      (∀ place content, tree.node? place ≠ some (.file content)) ∧
      (execute nowhere ["list"] tree).exitCode = 1 ∧
      spoiled.readText (Settings.filePath "config") = .ok "not json" ∧
      (execute (surroundings "config") ["list"] spoiled).exitCode = 1 ∧
      (execute (surroundings (slashed "config" 4100)) ["list"] spoiled).exitCode = 0 := by
  intro nowhere tree
  refine ⟨by decide +kernel, fun place content => ?_, by decide +kernel, by decide +kernel,
    by decide +kernel, exitCode_list (load_slashed (by decide))⟩
  simp only [tree, FileTree.node?, FileTree.empty, FileTree.directoriesTo, List.lookup_cons,
    List.lookup_nil]
  split_ifs
  · simp
  · split <;> simp

end Program

end StudentRoster
