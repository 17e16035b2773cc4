import StudentRoster.Program
import StudentRoster.Proofs.Roster.Actions
import StudentRoster.Proofs.Settings.Saving

/-!
# A session among changing files

A situation is a session together with the files around it. A run alternates what is done in the
session with what others do to the files meanwhile. Only requests about settings touch the settings
in force, and only changes of a setting touch the files (`act_of_not_settings`, `act_settings`).

As long as nobody else touches the settings file, the settings in force are the ones that are saved,
so that a session that is started anew is the same session (`run_keeps_settings_saved`). There are
two ways out (`Settings.Mishap`). A change can uncover something old in the place of the settings
file, when the path of the directory goes up behind a name: a directory
(`settings_lost_above_a_name`), or a file that may not be replaced (`settings_lost_to_a_file`). And
the write of a change can break off (`settings_lost_without_room`).
-/

set_option autoImplicit false

namespace StudentRoster

-- The equality of bytes is that of core, whatever else is in scope.
attribute [local instance (high)] ByteArray.instDecidableEq

/-- A session starts with the settings that are loaded. -/
theorem Session.start_eq_ok_iff {tree : FileTree} {roster : Roster} {directory : String}
    {session : Session} :
    Session.start tree roster directory = .ok session ↔
      ∃ settings, Settings.load tree directory = .ok settings ∧
        session = ⟨roster, directory, settings⟩ := by
  unfold Session.start
  cases Settings.load tree directory with
  | error failure => simp [Except.map]
  | ok settings => simp [Except.map, eq_comm]

/-- Something that is done in a session. -/
inductive SessionAction where
  | load (paths : List String) (normalize : Bool)
  | normalize (casing? : Option Casing)
  | perform (command : Command)
  deriving DecidableEq, Repr

/-- A step of a run: something is done in the session, or others leave the files as this tree. -/
inductive SessionStep where
  | act (action : SessionAction)
  | meanwhile (tree : FileTree)

/-- A session and the files around it. -/
structure Situation where
  session : Session
  tree : FileTree

namespace Situation

/-- The situation after something is done in the session, and the answer. -/
def act (situation : Situation) : SessionAction → Situation × Except Failure Report
  | .load paths normalize =>
    let (session, report) := situation.session.load situation.tree paths normalize
    ({ situation with session := session }, .ok report)
  | .normalize casing? =>
    let (session, report) := situation.session.normalize casing?
    ({ situation with session := session }, .ok report)
  | .perform command =>
    match Program.perform situation.session situation.tree command with
    | (tree, .ok (session, report)) => (⟨session, tree⟩, .ok report)
    | (tree, .error failure) => (⟨situation.session, tree⟩, .error failure)

/-- The situation after a step, and the answer. What others do has an empty one. -/
def step (situation : Situation) : SessionStep → Situation × Except Failure Report
  | .act action => situation.act action
  | .meanwhile tree => ({ situation with tree := tree }, .ok {})

/-! ## What a step changes -/

variable {situation : Situation} {directory : String}

/-- A request is answered from the files, and the settings that its report shows come into force. -/
theorem act_settings (situation : Situation) (request : SettingsRequest) :
    situation.act (.perform (.settings request)) =
      (⟨{ situation.session with
            settings := Settings.inForce situation.session.settings
              (Settings.answer situation.tree situation.session.directory request).2 },
          (Settings.answer situation.tree situation.session.directory request).1⟩,
        (Settings.answer situation.tree situation.session.directory request).2) := by
  simp only [act, Program.perform, Session.configure]
  cases (Settings.answer situation.tree situation.session.directory request).2 with
  | error failure => rfl
  | ok report => rfl

/-- Whatever else is done touches neither the files nor the settings in force. -/
theorem act_of_not_settings {action : SessionAction}
    (h : ∀ request, action ≠ .perform (.settings request)) :
    (situation.act action).1.tree = situation.tree ∧
      (situation.act action).1.session.directory = situation.session.directory ∧
      (situation.act action).1.session.settings = situation.session.settings := by
  cases action with
  | load paths normalize => exact ⟨rfl, rfl, rfl⟩
  | normalize casing? => exact ⟨rfl, rfl, rfl⟩
  | perform command =>
    cases command with
    | list => exact ⟨rfl, rfl, rfl⟩
    | get id => exact ⟨rfl, rfl, rfl⟩
    | lastName name => exact ⟨rfl, rfl, rfl⟩
    | check id => exact ⟨rfl, rfl, rfl⟩
    | settings request => exact absurd rfl (h request)
    | major query =>
      simp only [act, Program.perform]
      cases situation.session.roster.searchMajor query <;> exact ⟨rfl, rfl, rfl⟩

/-- A session keeps its directory. -/
theorem directory_act (situation : Situation) (action : SessionAction) :
    (situation.act action).1.session.directory = situation.session.directory := by
  by_cases h : ∃ request, action = .perform (.settings request)
  · obtain ⟨request, rfl⟩ := h
    rw [act_settings]
  · exact (act_of_not_settings fun request heq => h ⟨request, heq⟩).2.1

/-- A tree stays rooted whatever is done in a session. -/
theorem isRooted_act (h : situation.tree.IsRooted) (action : SessionAction) :
    (situation.act action).1.tree.IsRooted := by
  by_cases hrequest : ∃ request, action = .perform (.settings request)
  · obtain ⟨request, rfl⟩ := hrequest
    rw [act_settings]
    exact Settings.isRooted_answer h request
  · rwa [(act_of_not_settings fun request heq => hrequest ⟨request, heq⟩).1]

/-! ## Settings in force and settings saved -/

/-- The settings in force are the ones that are saved. -/
structure IsCoherent (directory : String) (situation : Situation) : Prop where
  directory_eq : situation.session.directory = directory
  isRooted : situation.tree.IsRooted
  saved : Settings.load situation.tree directory = .ok situation.session.settings

/-- A step is a request that meets with a mishap. -/
def HasMishap (situation : Situation) (step : SessionStep) : Prop :=
  ∃ request, step = .act (.perform (.settings request)) ∧
    Settings.Mishap situation.tree situation.session.directory request

/-- A run has a request that meets with a mishap. -/
def MeetsMishap : Situation → List SessionStep → Prop
  | _, [] => False
  | situation, first :: rest =>
    situation.HasMishap first ∨ (situation.step first).1.MeetsMishap rest

/-- Whatever is done in a session without a mishap leaves the settings in force saved. -/
theorem IsCoherent.act (h : situation.IsCoherent directory) (action : SessionAction) :
    (situation.act action).1.IsCoherent directory ∨ situation.HasMishap (.act action) := by
  have hdirectory := (situation.directory_act action).trans h.directory_eq
  have hrooted := isRooted_act h.isRooted action
  obtain ⟨rfl, hbefore, hload⟩ := h
  by_cases hrequest : ∃ request, action = .perform (.settings request)
  · obtain ⟨request, rfl⟩ := hrequest
    rcases Settings.load_answer hbefore hload request with hafter | hmishap
    · exact .inl ⟨hdirectory, hrooted, by rwa [act_settings]⟩
    · exact .inr ⟨request, rfl, hmishap⟩
  · obtain ⟨htree, _, hsettings⟩ :=
      act_of_not_settings fun request heq => hrequest ⟨request, heq⟩
    exact .inl ⟨hdirectory, hrooted, by rwa [htree, hsettings]⟩

end Situation

/-- Between two trees the settings file is there or not there as before, and has the same bytes. -/
def Settings.SameFile (directory : String) (tree after : FileTree) : Prop :=
  after.hasPath (filePath directory) = tree.hasPath (filePath directory) ∧
    (tree.hasPath (filePath directory) = true →
      after.readBytes (filePath directory) = tree.readBytes (filePath directory))

/-- The same file is loaded as the same settings. -/
theorem Settings.SameFile.load_eq {directory : String} {tree after : FileTree}
    (h : SameFile directory tree after) : load after directory = load tree directory := by
  unfold load FileTree.readText
  rw [h.1]
  cases hpath : tree.hasPath (filePath directory) with
  | false => rfl
  | true => rw [h.2 hpath]

namespace Situation

variable {situation : Situation} {directory : String}

/-- What others do to other files leaves the settings in force saved. -/
theorem IsCoherent.meanwhile {tree : FileTree} (h : situation.IsCoherent directory)
    (hrooted : tree.IsRooted) (hsame : Settings.SameFile directory situation.tree tree) :
    (situation.step (.meanwhile tree)).1.IsCoherent directory :=
  ⟨h.directory_eq, hrooted, hsame.load_eq.trans h.saved⟩

/-- In a run nobody but the session touches the settings file. -/
def IsUndisturbed : Situation → List SessionStep → Prop
  | _, [] => True
  | situation, .act action :: rest => (situation.act action).1.IsUndisturbed rest
  | situation, .meanwhile tree :: rest =>
    tree.IsRooted ∧ Settings.SameFile situation.session.directory situation.tree tree ∧
      (situation.step (.meanwhile tree)).1.IsUndisturbed rest

/-- The beginning of an undisturbed run is undisturbed. -/
theorem IsUndisturbed.of_append {front back : List SessionStep}
    (h : situation.IsUndisturbed (front ++ back)) : situation.IsUndisturbed front := by
  induction front generalizing situation with
  | nil => trivial
  | cons first rest ih =>
    cases first with
    | act action =>
      rw [List.cons_append, IsUndisturbed] at h
      rw [IsUndisturbed]
      exact ih h
    | meanwhile tree =>
      rw [List.cons_append, IsUndisturbed] at h
      rw [IsUndisturbed]
      exact ⟨h.1, h.2.1, ih h.2.2⟩

/-- An undisturbed run without a mishap leaves the settings in force saved. -/
theorem IsCoherent.run {steps : List SessionStep} (h : situation.IsCoherent directory)
    (hsteps : situation.IsUndisturbed steps) :
    (runActions step situation steps).1.IsCoherent directory ∨ situation.MeetsMishap steps := by
  induction steps generalizing situation with
  | nil => exact .inl h
  | cons first rest ih =>
    cases first with
    | act action =>
      rcases h.act action with hnext | hmishap
      · exact (ih hnext hsteps).imp_right .inr
      · exact .inr (.inl hmishap)
    | meanwhile tree =>
      obtain ⟨hrooted, hsame, hrest⟩ := hsteps
      rw [h.directory_eq] at hsame
      exact (ih (h.meanwhile hrooted hsame) hrest).imp_right .inr

/-- In a run in which nobody else touches the settings file, the settings in force after each step,
whether it failed or not, are the ones that are loaded, and a session that is started anew with the
same roster is the session of the run. This holds as long as no request has met with a mishap: its
write has not broken off, and, unless the path of the directory leads down, it has not uncovered
anything that blocks the place of the file. -/
theorem run_keeps_settings_saved {tree : FileTree} {roster : Roster} {session : Session}
    {steps : List SessionStep} (hrooted : tree.IsRooted)
    (hstart : Session.start tree roster directory = .ok session)
    (hsteps : IsUndisturbed ⟨session, tree⟩ steps) :
    ∀ front, front <+: steps →
      let last := (runActions step ⟨session, tree⟩ front).1
      Settings.load last.tree directory = .ok last.session.settings ∧
          Session.start last.tree last.session.roster directory = .ok last.session ∨
        MeetsMishap ⟨session, tree⟩ front := by
  rintro front ⟨back, rfl⟩ last
  have hfirst : IsCoherent directory ⟨session, tree⟩ := by
    obtain ⟨settings, hload, rfl⟩ := Session.start_eq_ok_iff.mp hstart
    exact ⟨rfl, hrooted, hload⟩
  refine (hfirst.run hsteps.of_append).imp_left fun hlast => ?_
  obtain ⟨hdirectory, _, hload⟩ : IsCoherent directory last := hlast
  exact ⟨hload, Session.start_eq_ok_iff.mpr ⟨_, hload, by rw [← hdirectory]⟩⟩

/-- A directory with saved settings, into which others then put a listing. -/
def visited : FileTree :=
  ((Settings.save { casing := .title } (FileTree.empty ["work"]) "config").1).place
    ["b.txt", "work"] (.file "7 ann lee 3.5 cs".toUTF8)

/-- The visited directory is as a file system has it. -/
theorem isRooted_visited : visited.IsRooted :=
  (Settings.isRooted_save (FileTree.isRooted_empty ["work"])).place (List.cons_ne_nil _ _)
    (by decide +kernel) (.inr (by decide +kernel))

/-- A change, a refused one, a visit, a loading and a recasing. -/
def visitedSteps : List SessionStep :=
  [.act (.perform (.settings (.change "casing" "Title"))),
   .act (.perform (.settings (.change "casing" "upper"))),
   .meanwhile visited, .act (.load ["b.txt"] false), .act (.normalize none)]

/-- The steps around a visit meet with no mishap. -/
theorem not_meetsMishap_visited :
    ¬MeetsMishap ⟨⟨.empty, "config", {}⟩, .empty ["work"]⟩ visitedSteps := by
  have hdown : Settings.LeadsDown "config" := Settings.leadsDown_of_descends (by decide +kernel)
  have hchange {situation : Situation} {request : SettingsRequest}
      (hdirectory : situation.session.directory = "config")
      (hwritten : (Settings.answer situation.tree "config" request).2 ≠ .error (.file .noSpace)) :
      ¬situation.HasMishap (.act (.perform (.settings request))) := by
    rintro ⟨other, heq, hmishap⟩
    cases heq
    rw [hdirectory] at hmishap
    rcases hmishap with hbroken | ⟨hup, _⟩
    · exact hwritten hbroken
    · exact hup hdown
  have hother {situation : Situation} {step : SessionStep}
      (hstep : ∀ request, step ≠ .act (.perform (.settings request))) :
      ¬situation.HasMishap step := by
    rintro ⟨request, heq, _⟩
    exact hstep request heq
  rintro (hmishap | hmishap | hmishap | hmishap | hmishap | hmishap)
  · exact hchange rfl (by decide +kernel) hmishap
  · exact hchange rfl (by decide +kernel) hmishap
  · exact hother (by simp) hmishap
  · exact hother (by simp) hmishap
  · exact hother (by simp) hmishap
  · exact hmishap

/-- A session may save its settings, have them read by another and be started again from them. -/
theorem run_keeps_settings_saved_visited :
    (FileTree.empty ["work"]).IsRooted ∧
      Session.start (.empty ["work"]) .empty "config" = .ok ⟨.empty, "config", {}⟩ ∧
      IsUndisturbed ⟨⟨.empty, "config", {}⟩, .empty ["work"]⟩ visitedSteps ∧
      visitedSteps <+: visitedSteps ∧
      let last := (runActions step ⟨⟨.empty, "config", {}⟩, .empty ["work"]⟩ visitedSteps).1
      Settings.load last.tree "config" = .ok last.session.settings ∧
        Session.start last.tree last.session.roster "config" = .ok last.session := by
  have hrooted : (FileTree.empty ["work"]).IsRooted := FileTree.isRooted_empty ["work"]
  have hstart : Session.start (.empty ["work"]) .empty "config" = .ok ⟨.empty, "config", {}⟩ := by
    decide +kernel
  have hsteps : IsUndisturbed ⟨⟨.empty, "config", {}⟩, .empty ["work"]⟩ visitedSteps :=
    ⟨isRooted_visited, ⟨by decide +kernel, fun _ => by decide +kernel⟩, trivial⟩
  exact ⟨hrooted, hstart, hsteps, List.prefix_refl _,
    (run_keeps_settings_saved hrooted hstart hsteps visitedSteps
      (List.prefix_refl _)).resolve_right not_meetsMishap_visited⟩

/-- Without the exceptions the settings in force may be lost: a change that fails can make a
directory and so bring the place of the settings file into reach, where another directory stands. -/
theorem settings_lost_above_a_name :
    ¬ ∀ (tree : FileTree) (roster : Roster) (directory : String) (session : Session)
        (steps : List SessionStep), tree.IsRooted →
        Session.start tree roster directory = .ok session →
        IsUndisturbed ⟨session, tree⟩ steps →
        ∀ front, front <+: steps →
          let last := (runActions step ⟨session, tree⟩ front).1
          Settings.load last.tree directory = .ok last.session.settings ∧
            Session.start last.tree last.session.roster directory = .ok last.session := by
  intro h
  let steps : List SessionStep := [.act (.perform (.settings (.change "casing" "title")))]
  have hstart : Session.start Settings.cluttered .empty "n/.." = .ok ⟨.empty, "n/..", {}⟩ := by
    decide +kernel
  have hlost : Settings.load
      (runActions step ⟨⟨.empty, "n/..", {}⟩, Settings.cluttered⟩ steps).1.tree "n/.." =
        .error (.file .isDirectory) := by
    decide +kernel
  obtain ⟨hload, _⟩ := h _ _ _ _ steps Settings.isRooted_cluttered hstart trivial _
    (List.prefix_refl steps)
  rw [hlost] at hload
  cases hload

/-- A working directory with a settings file that may only be read. -/
def sealed : FileTree :=
  { (FileTree.empty ["work"]).place [Settings.fileName, "work"]
      (.file ({ casing := .title } : Settings).toJson.toUTF8) with
    accesses := [([Settings.fileName, "work"], { write := false })] }

/-- The uncovered thing can also be a file with other settings that may only be read: the change
fails, and then these are what is loaded. -/
theorem settings_lost_to_a_file :
    let situation : Situation := ⟨⟨.empty, "n/..", {}⟩, sealed⟩
    let last := (situation.act (.perform (.settings (.change "normalize-on-load" "yes")))).1
    Session.start sealed .empty "n/.." = .ok situation.session ∧
      last.session.settings = {} ∧
      Settings.load last.tree "n/.." = .ok { casing := .title } := by
  decide +kernel

/-- A write that breaks off leaves a settings file that cannot be loaded, also where the path of the
directory leads down: here there is room for the first bytes only. -/
theorem settings_lost_without_room :
    let tree : FileTree :=
      { FileTree.empty ["work"] with rooms := [([Settings.fileName, "config", "work"], 4)] }
    let situation : Situation := ⟨⟨.empty, "config", {}⟩, tree⟩
    let change := situation.act (.perform (.settings (.change "casing" "title")))
    Session.start tree .empty "config" = .ok situation.session ∧
      change.2 = .error (.file .noSpace) ∧ change.1.session.settings = {} ∧
      change.1.tree.readText "config/config.json" = .ok "\x7b\n  " ∧
      (Settings.load change.1.tree "config").isOk = false := by
  decide +kernel

end Situation

end StudentRoster
