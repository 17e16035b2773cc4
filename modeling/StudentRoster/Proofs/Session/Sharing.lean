import StudentRoster.Proofs.Program.SettingsCommand
import StudentRoster.Proofs.Session.Situations

/-!
# Sessions and runs that share their settings

Several sessions and any number of runs of the program work on one directory of settings, in any
order. A change of a setting starts from the saved settings and not from those in force in the
session, so that it takes back no change of another (`load_answer_get`). A run of the program on a
request does the same as a session. After all of them each setting has the value of its last change
that succeeded (`run_keeps_last_changes`), again except when a request has met with a mishap
(`changes_lost_above_a_name`).
-/

set_option autoImplicit false

namespace StudentRoster

/-! ## What a request changes -/

/-- The text that a setting shows once it is changed to a value that it takes. -/
def Setting.shown? (setting : Setting) (value : String) : Option String :=
  match ({} : Settings).set setting value with
  | (changed, .ok ()) => some (changed.get setting)
  | (_, .error _) => none

/-- The text that a setting shows after a request that succeeds, if the request changes it. -/
def SettingsRequest.changes? (setting : Setting) : SettingsRequest → Option String
  | .change key value => if Setting.ofKey? key = some setting then setting.shown? value else none
  | _ => none

namespace Settings

variable {tree : FileTree} {directory : String} {settings changed saved : Settings}
  {setting : Setting} {value : String}

/-- Setting one of the settings leaves the other as it is. -/
theorem get_of_set (h : settings.set setting value = (changed, .ok ())) (other : Setting) :
    some (changed.get other) =
      if setting = other then setting.shown? value else some (settings.get other) := by
  unfold Setting.shown?
  cases setting with
  | casing =>
    simp only [set] at h ⊢
    cases hcasing : Casing.ofText value with
    | error fault =>
      rw [hcasing] at h
      cases h
    | ok casing =>
      rw [hcasing] at h
      obtain ⟨rfl, _⟩ := Prod.mk.inj h
      cases other <;> rfl
  | normalizeOnLoad =>
    simp only [set] at h ⊢
    cases hanswer : answerOfText value with
    | error fault =>
      rw [hanswer] at h
      cases h
    | ok answer =>
      rw [hanswer] at h
      obtain ⟨rfl, _⟩ := Prod.mk.inj h
      cases other <;> rfl

/-- After a request that succeeds the saved settings are those from before with the change that it
makes, and after one that fails those from before, unless it meets with a mishap. -/
theorem load_answer_get (hrooted : tree.IsRooted) (hload : load tree directory = .ok saved)
    (request : SettingsRequest) :
    let result := answer tree directory request
    (∃ after, load result.1 directory = .ok after ∧ ∀ setting,
      after.get setting =
        (if succeeds result.2 then request.changes? setting else none).getD (saved.get setting)) ∨
    Mishap tree directory request := by
  intro result
  by_cases hchange : ∃ key value, request = .change key value
  · -- the change starts from what is saved, so that the other setting keeps its value
    obtain ⟨key, value, rfl⟩ := hchange
    rcases change_cases hrooted hload key value with
      ⟨setting, changed, hkey, hset, hreport, hchanged⟩ | ⟨hfailed, hkept⟩ | hmishap
    · refine .inl ⟨changed, hchanged, fun other => ?_⟩
      have hsucceeds : succeeds result.2 = true := succeeds_eq_true_iff.mpr ⟨_, hreport, rfl⟩
      have hget := get_of_set hset other
      rw [if_pos hsucceeds, SettingsRequest.changes?, hkey]
      by_cases hother : setting = other
      · subst hother
        rw [if_pos rfl] at hget ⊢
        rw [← hget, Option.getD_some]
      · rw [if_neg hother, Option.some.injEq] at hget
        rw [if_neg (fun heq => hother (Option.some.inj heq)), Option.getD_none, hget]
    · refine .inl ⟨saved, hkept, fun other => ?_⟩
      have hsucceeds : ¬succeeds result.2 = true := by
        intro h
        obtain ⟨report, hreport, herrors⟩ := succeeds_eq_true_iff.mp h
        exact absurd (hfailed report hreport).1 (by simp [herrors])
      rw [if_neg hsucceeds, Option.getD_none]
    · exact .inr hmishap
  · have hshow : ∀ key value, request ≠ .change key value :=
      fun key value heq => hchange ⟨key, value, heq⟩
    refine .inl ⟨saved, (congrArg (load · directory) (answer_fst_of_show hshow)).trans hload,
      fun other => ?_⟩
    have hnone : request.changes? other = none := by
      cases request with
      | change key value => exact absurd rfl (hshow key value)
      | _ => rfl
    simp [hnone]

end Settings

/-! ## Shared directories -/

variable {ι : Type}

/-- Sessions, each under a name, and the files that they share. -/
structure Sharing (ι : Type) where
  sessions : ι → Session
  tree : FileTree

/-- Something that happens among the sessions of a shared directory. -/
inductive SharedAction (ι : Type) where
  /-- A session is started anew under this name. -/
  | start (name : ι) (roster : Roster)
  /-- Something is done in the session of this name. -/
  | act (name : ι) (action : SessionAction)
  /-- The program is run. -/
  | execute (environment : Environment) (arguments : List String)
  /-- Others leave the files as this tree. -/
  | meanwhile (tree : FileTree)

/-- The answer to something that is done in a session, or the outcome of a run of the program. -/
inductive SharedAnswer where
  | told (answer : Except Failure Report)
  | ran (outcome : Outcome)

/-- The request about settings that an action makes, if it makes one. -/
def SharedAction.request? : SharedAction ι → Option SettingsRequest
  | .act _ (.perform (.settings request)) => some request
  | .execute _ arguments =>
    match CommandLine.parse arguments with
    | .ok (.run ⟨_, .settings request⟩) => some request
    | _ => none
  | _ => none

/-- Whether an action did what was asked. -/
def SharedAnswer.succeeds : SharedAnswer → Bool
  | .told answer => Settings.succeeds answer
  | .ran outcome => outcome.exitCode == 0

/-- The text that a setting shows after an action, if the action changed it. -/
def changed? (setting : Setting) (entry : SharedAction ι × SharedAnswer) : Option String :=
  if entry.2.succeeds then entry.1.request?.bind (·.changes? setting) else none

/-- The text that a setting shows after the last action of a history that changed it. -/
def lastChange? (setting : Setting) : List (SharedAction ι × SharedAnswer) → Option String
  | [] => none
  | entry :: later => (lastChange? setting later).or (changed? setting entry)

namespace Sharing

section steps

variable [DecidableEq ι]

/-- The sessions and files after an action, and its answer. What others do has an empty one. -/
def step (directory : String) (sharing : Sharing ι) :
    SharedAction ι → Sharing ι × SharedAnswer
  | .start name roster =>
    match Session.start sharing.tree roster directory with
    | .ok session =>
      ({ sharing with sessions := Function.update sharing.sessions name session }, .told (.ok {}))
    | .error failure => (sharing, .told (.error failure))
  | .act name action =>
    let (next, answer) := Situation.act ⟨sharing.sessions name, sharing.tree⟩ action
    (⟨Function.update sharing.sessions name next.session, next.tree⟩, .told answer)
  | .execute environment arguments =>
    let outcome := Program.execute environment arguments sharing.tree
    ({ sharing with tree := outcome.tree }, .ran outcome)
  | .meanwhile tree => ({ sharing with tree := tree }, .told (.ok {}))

/-- An action touches the settings file at most through a request about settings of the shared
directory. -/
def Permits (directory : String) (sharing : Sharing ι) : SharedAction ι → Prop
  | .execute environment arguments =>
    Settings.directory environment.places = .ok directory ∧
      ((SharedAction.execute environment arguments : SharedAction ι).request? = none →
        Settings.SameFile directory sharing.tree
          (Program.execute environment arguments sharing.tree).tree)
  | .meanwhile tree => tree.IsRooted ∧ Settings.SameFile directory sharing.tree tree
  | .start .. | .act .. => True

/-- All actions of a run touch the settings file at most through requests. -/
def IsUndisturbed (directory : String) : Sharing ι → List (SharedAction ι) → Prop
  | _, [] => True
  | sharing, action :: rest =>
    sharing.Permits directory action ∧
      (sharing.step directory action).1.IsUndisturbed directory rest

/-- An action is a request that meets with a mishap. -/
def HasMishap (directory : String) (sharing : Sharing ι) (action : SharedAction ι) : Prop :=
  ∃ request, action.request? = some request ∧ Settings.Mishap sharing.tree directory request

/-- A run has a request that meets with a mishap. -/
def MeetsMishap (directory : String) : Sharing ι → List (SharedAction ι) → Prop
  | _, [] => False
  | sharing, action :: rest =>
    sharing.HasMishap directory action ∨
      (sharing.step directory action).1.MeetsMishap directory rest

/-- The saved settings show these texts. -/
structure Shows (directory : String) (sharing : Sharing ι) (shown : Setting → String) : Prop where
  directory_eq : ∀ name, (sharing.sessions name).directory = directory
  isRooted : sharing.tree.IsRooted
  saved : ∃ saved, Settings.load sharing.tree directory = .ok saved ∧
    ∀ setting, saved.get setting = shown setting

variable {directory : String} {sharing : Sharing ι} {action : SharedAction ι}
  {shown : Setting → String}

/-- Whoever makes a request, it is answered from the shared files. -/
theorem step_of_request {request : SettingsRequest}
    (hdirectory : ∀ name, (sharing.sessions name).directory = directory)
    (hpermits : sharing.Permits directory action) (hrequest : action.request? = some request) :
    let result := Settings.answer sharing.tree directory request
    (sharing.step directory action).1.tree = result.1 ∧
      (sharing.step directory action).2.succeeds = Settings.succeeds result.2 := by
  intro result
  unfold SharedAction.request? at hrequest
  split at hrequest
  next name other =>
    obtain rfl : other = request := Option.some.inj hrequest
    simp only [step, Situation.act_settings, hdirectory name]
    exact ⟨rfl, rfl⟩
  next environment arguments =>
    split at hrequest
    next options other hparse =>
      obtain rfl : other = request := Option.some.inj hrequest
      obtain ⟨htree, hcode⟩ := Program.execute_settings sharing.tree hparse hpermits.1
      exact ⟨htree, Bool.eq_iff_iff.mpr (beq_iff_eq.trans hcode)⟩
    · cases hrequest
  · cases hrequest

/-- An action that makes no request leaves the settings file alone. -/
theorem sameFile_of_not_request (hpermits : sharing.Permits directory action)
    (hrequest : action.request? = none) :
    Settings.SameFile directory sharing.tree (sharing.step directory action).1.tree := by
  cases action with
  | start name roster =>
    simp only [step]
    split <;> exact ⟨rfl, fun _ => rfl⟩
  | act name action =>
    have hother : ∀ request, action ≠ .perform (.settings request) := by
      rintro request rfl
      cases hrequest
    simp only [step, (Situation.act_of_not_settings hother).1]
    exact ⟨rfl, fun _ => rfl⟩
  | execute environment arguments => exact hpermits.2 hrequest
  | meanwhile tree => exact hpermits.2

/-- The shared tree stays rooted. -/
theorem isRooted_step (hrooted : sharing.tree.IsRooted)
    (hpermits : sharing.Permits directory action) :
    (sharing.step directory action).1.tree.IsRooted := by
  cases action with
  | start name roster =>
    simp only [step]
    split <;> exact hrooted
  | act name action => exact Situation.isRooted_act hrooted action
  | execute environment arguments => exact Program.isRooted_execute arguments hrooted
  | meanwhile tree => exact hpermits.1

/-- The sessions keep their directory. -/
theorem directory_step (hdirectory : ∀ name, (sharing.sessions name).directory = directory)
    (name : ι) : ((sharing.step directory action).1.sessions name).directory = directory := by
  have hupdate {changed : ι} {session : Session} (hsession : session.directory = directory) :
      (Function.update sharing.sessions changed session name).directory = directory := by
    rw [Function.update_apply]
    split
    · exact hsession
    · exact hdirectory name
  cases action with
  | start changed roster =>
    simp only [step]
    split
    next hstart =>
      obtain ⟨settings, _, rfl⟩ := Session.start_eq_ok_iff.mp hstart
      exact hupdate rfl
    · exact hdirectory name
  | act changed action =>
    exact hupdate ((Situation.directory_act _ action).trans (hdirectory changed))
  | execute environment arguments => exact hdirectory name
  | meanwhile tree => exact hdirectory name

/-- What the saved settings show changes by what the action changes. -/
theorem Shows.step (h : sharing.Shows directory shown)
    (hpermits : sharing.Permits directory action) :
    (sharing.step directory action).1.Shows directory (fun setting =>
        (changed? setting (action, (sharing.step directory action).2)).getD (shown setting)) ∨
      sharing.HasMishap directory action := by
  have hdirectory :
      ∀ name, ((sharing.step directory action).1.sessions name).directory = directory :=
    directory_step h.directory_eq
  have hrooted := isRooted_step h.isRooted hpermits
  obtain ⟨saved, hload, hshown⟩ := h.saved
  cases hrequest : action.request? with
  | none =>
    have hsame := sameFile_of_not_request hpermits hrequest
    refine .inl ⟨hdirectory, hrooted, saved, hsame.load_eq.trans hload, ?_⟩
    simpa only [changed?, hrequest, Option.bind_none, ite_self, Option.getD_none] using hshown
  | some request =>
    obtain ⟨htree, hsucceeds⟩ := step_of_request h.directory_eq hpermits hrequest
    rcases Settings.load_answer_get h.isRooted hload request with ⟨next, hnext, hget⟩ | hmishap
    · refine .inl ⟨hdirectory, hrooted, next, by rwa [htree], fun setting => ?_⟩
      simpa only [changed?, hrequest, Option.bind_some, hsucceeds, hshown] using hget setting
    · exact .inr ⟨request, hrequest, hmishap⟩

/-- What the saved settings show after a run without a mishap was last changed to it. -/
theorem Shows.run {actions : List (SharedAction ι)} (h : sharing.Shows directory shown)
    (hactions : sharing.IsUndisturbed directory actions) :
    let run := runActions (Sharing.step directory) sharing actions
    run.1.Shows directory (fun setting => (lastChange? setting run.2).getD (shown setting)) ∨
      sharing.MeetsMishap directory actions := by
  induction actions generalizing sharing shown with
  | nil => exact .inl h
  | cons action rest ih =>
    obtain ⟨hpermits, hrest⟩ := hactions
    rcases h.step hpermits with hnext | hmishap
    · have hlast := ih hnext hrest
      refine hlast.imp (fun hlast => ?_) .inr
      simpa only [runActions, lastChange?, Option.getD_or] using hlast
    · exact .inr (.inl hmishap)

/-- After any run of sessions and of the program, however stale the settings in force in a session
are, the saved settings can be loaded, and each has the value of its last change that succeeded, or
else the one from before the run. This holds unless a request of the run has met with a mishap: its
write has broken off, or, when the path of the directory does not lead down, it has uncovered
something that blocks the place of the file. -/
theorem run_keeps_last_changes {initial : Settings} {actions : List (SharedAction ι)}
    (hdirectory : ∀ name, (sharing.sessions name).directory = directory)
    (hrooted : sharing.tree.IsRooted)
    (hload : Settings.load sharing.tree directory = .ok initial)
    (hactions : sharing.IsUndisturbed directory actions) :
    let run := runActions (step directory) sharing actions
    (∃ saved, Settings.load run.1.tree directory = .ok saved ∧
        ∀ setting, saved.get setting =
          (lastChange? setting run.2).getD (initial.get setting)) ∨
      sharing.MeetsMishap directory actions := by
  intro run
  have hfirst : sharing.Shows directory initial.get :=
    ⟨hdirectory, hrooted, initial, hload, fun _ => rfl⟩
  exact (hfirst.run hactions).imp_left Shows.saved

end steps

/-- Two sessions of one directory in which nothing is saved. One has other settings in force. -/
def pair : Sharing Bool where
  sessions stale := ⟨.empty, "config", if stale then ⟨.title, true⟩ else {}⟩
  tree := .empty ["work"]

/-- Changes by both sessions and by runs of the program, one of them refused. -/
def pairActions : List (SharedAction Bool) :=
  [.act false (.perform (.settings (.change "casing" "Title"))),
   .execute (Program.surroundings "config") ["config", "normalize-on-load", "yes"],
   .act true (.perform (.settings (.change "normalize-on-load" " OFF "))),
   .execute (Program.surroundings "config") ["config", "casing", "upper"]]

/-- The changes of the pair meet with no mishap. -/
theorem not_meetsMishap_pair : ¬pair.MeetsMishap "config" pairActions := by
  have hdown : Settings.LeadsDown "config" := Settings.leadsDown_of_descends (by decide +kernel)
  have hwritten {sharing : Sharing Bool} {action : SharedAction Bool}
      (h : ∀ request ∈ action.request?,
        (Settings.answer sharing.tree "config" request).2 ≠ .error (.file .noSpace)) :
      ¬sharing.HasMishap "config" action := by
    rintro ⟨request, hrequest, hbroken | ⟨hup, _⟩⟩
    · exact h request hrequest hbroken
    · exact hup hdown
  rintro (hmishap | hmishap | hmishap | hmishap | hmishap)
  · exact hwritten (by decide +kernel) hmishap
  · exact hwritten (by decide +kernel) hmishap
  · exact hwritten (by decide +kernel) hmishap
  · exact hwritten (by decide +kernel) hmishap
  · exact hmishap

/-- Two sessions change one setting each, and the file holds both changes in the end. -/
theorem run_keeps_last_changes_pair :
    (∀ name, (pair.sessions name).directory = "config") ∧ pair.tree.IsRooted ∧
      Settings.load pair.tree "config" = .ok {} ∧ pair.IsUndisturbed "config" pairActions ∧
      ∃ saved, Settings.load (runActions (step "config") pair pairActions).1.tree "config" =
          .ok saved ∧
        saved.get .casing = "title" ∧ saved.get .normalizeOnLoad = "false" := by
  have hdirectory : ∀ name, (pair.sessions name).directory = "config" := fun _ => rfl
  have hrooted : pair.tree.IsRooted := FileTree.isRooted_empty ["work"]
  have hload : Settings.load pair.tree "config" = .ok {} := by
    decide +kernel
  have hfirst : (SharedAction.execute (Program.surroundings "config")
      ["config", "normalize-on-load", "yes"] : SharedAction Bool).request? ≠ none := by
    decide +kernel
  have hsecond : (SharedAction.execute (Program.surroundings "config")
      ["config", "casing", "upper"] : SharedAction Bool).request? ≠ none := by
    decide +kernel
  have hactions : pair.IsUndisturbed "config" pairActions :=
    ⟨trivial, ⟨rfl, fun h => absurd h hfirst⟩, trivial, ⟨rfl, fun h => absurd h hsecond⟩, trivial⟩
  have hlast :
      let history := (runActions (step "config") pair pairActions).2
      lastChange? .casing history = some "title" ∧
        lastChange? .normalizeOnLoad history = some "false" := by
    decide +kernel
  obtain ⟨saved, hsaved, hget⟩ :=
    (run_keeps_last_changes hdirectory hrooted hload hactions).resolve_right not_meetsMishap_pair
  refine ⟨hdirectory, hrooted, hload, hactions, saved, hsaved, ?_, ?_⟩
  · rw [hget, hlast.1, Option.getD_some]
  · rw [hget, hlast.2, Option.getD_some]

/-- Without the exceptions, what was saved may be lost to a change that fails: it can make a
directory and so bring the place of the settings file into reach, where another directory stands. -/
theorem changes_lost_above_a_name :
    ¬ ∀ (ι : Type) (_ : DecidableEq ι) (sharing : Sharing ι) (directory : String)
        (initial : Settings) (actions : List (SharedAction ι)),
        (∀ name, (sharing.sessions name).directory = directory) → sharing.tree.IsRooted →
        Settings.load sharing.tree directory = .ok initial →
        sharing.IsUndisturbed directory actions →
        let run := runActions (step directory) sharing actions
        ∃ saved, Settings.load run.1.tree directory = .ok saved ∧
          ∀ setting, saved.get setting =
            (lastChange? setting run.2).getD (initial.get setting) := by
  intro h
  have hload : Settings.load Settings.cluttered "n/.." = .ok {} := by
    decide +kernel
  have hrequest : (SharedAction.execute (Program.surroundings "n/..")
      ["config", "casing", "title"] : SharedAction Unit).request? ≠ none := by
    decide +kernel
  have hlost : Settings.load (Program.execute (Program.surroundings "n/..")
      ["config", "casing", "title"] Settings.cluttered).tree "n/.." =
        .error (.file .isDirectory) := by
    decide +kernel
  obtain ⟨saved, hsaved, _⟩ := h Unit inferInstance
    ⟨fun _ => ⟨.empty, "n/..", {}⟩, Settings.cluttered⟩ "n/.." {}
    [.execute (Program.surroundings "n/..") ["config", "casing", "title"]]
    (fun _ => rfl) Settings.isRooted_cluttered hload
    ⟨⟨rfl, fun hnone => absurd hnone hrequest⟩, trivial⟩
  rw [runActions, runActions, step, hlost] at hsaved
  cases hsaved

end Sharing

end StudentRoster
