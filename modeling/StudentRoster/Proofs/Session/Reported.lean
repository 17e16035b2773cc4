import StudentRoster.Proofs.Session.Situations

/-!
# Reported settings and settings in use

A request about settings that succeeds reports the value of one setting or of both. What is loaded
and recased from then on, up to the next request, goes by the settings in force (`uses_get`). After
a change, and after all settings were shown, these are the reported ones
(`reported_settings_are_used`). When one setting was shown they are still those from before, so that
what was shown need not be what is used (`shown_setting_not_used`).
-/

set_option autoImplicit false

namespace StudentRoster

/-- The text that a note on settings gives for the setting that it is about. -/
def Note.settingValue? : Note → Option String
  | .settingShown value | .settingSaved _ value => some value
  | _ => none

/-- The text that the report on a request gives for a setting. A report on all settings gives both,
any other one only that of the key in the request. -/
def Report.valueOf? (report : Report) (request : SettingsRequest) (setting : Setting) :
    Option String :=
  match request with
  | .showAll => report.settings.map fun settings => settings.get setting
  | .showKey key | .change key _ =>
    if Setting.ofKey? key = some setting then report.notes.findSome? Note.settingValue? else none

namespace Situation

variable {situation next : Situation} {request : SettingsRequest} {report : Report}

/-- The situation after a loading that recases as given, and the answer. -/
def loaded (situation : Situation) (paths : List String) (casing? : Option Casing) :
    Situation × Except Failure Report :=
  let (roster, report) := situation.session.roster.load situation.tree paths casing?
  (⟨{ situation.session with roster := roster }, situation.tree⟩, .ok report)

/-- What is loaded and recased goes by this text for a setting. The casing is the one of a recasing
that names none, and of a loading that has to recase. The other setting says whether a loading
recases that need not. -/
def Uses (situation : Situation) : Setting → String → Prop
  | .casing, value => ∃ casing : Casing, casing.name = value ∧
      situation.act (.normalize none) = situation.act (.normalize (some casing)) ∧
      ∀ paths, situation.act (.load paths true) = situation.loaded paths (some casing)
  | .normalizeOnLoad, value =>
      value = "true" ∧
          (∀ paths, situation.act (.load paths false) = situation.act (.load paths true)) ∨
        value = "false" ∧
          ∀ paths, situation.act (.load paths false) = situation.loaded paths none

/-- What is loaded and recased goes by the settings in force. -/
theorem uses_get (situation : Situation) (setting : Setting) :
    situation.Uses setting (situation.session.settings.get setting) := by
  cases setting with
  | casing =>
    refine ⟨situation.session.settings.casing, rfl, rfl, fun paths => ?_⟩
    simp only [act, Session.load, Session.loadCasing?, Bool.true_or, if_true, loaded]
  | normalizeOnLoad =>
    cases hanswer : situation.session.settings.normalizeOnLoad with
    | true =>
      refine .inl ⟨by simp [Settings.get, hanswer], fun paths => ?_⟩
      simp only [act, Session.load, Session.loadCasing?, hanswer, Bool.or_true]
    | false =>
      refine .inr ⟨by simp [Settings.get, hanswer], fun paths => ?_⟩
      simp only [act, Session.load, Session.loadCasing?, hanswer, Bool.or_self, if_neg,
        Bool.false_eq_true, not_false_eq_true, loaded]

/-- Steps without a request leave the settings in force. -/
theorem settings_run {steps : List SessionStep}
    (hsteps : ∀ other, SessionStep.act (.perform (.settings other)) ∉ steps) :
    (runActions step situation steps).1.session.settings = situation.session.settings := by
  induction steps generalizing situation with
  | nil => rfl
  | cons first rest ih =>
    have hrest : (runActions step (situation.step first).1 rest).1.session.settings =
        (situation.step first).1.session.settings :=
      ih fun other hother => hsteps other (List.mem_cons_of_mem _ hother)
    rw [runActions, hrest]
    cases first with
    | meanwhile tree => rfl
    | act action =>
      refine (act_of_not_settings fun other heq => hsteps other ?_).2.2
      rw [heq]
      exact List.mem_cons_self ..

end Situation

namespace Settings

variable {tree : FileTree} {directory : String} {request : SettingsRequest} {report : Report}
  {setting : Setting} {value : String}

/-- A report on all settings, or on a change that is made, gives the settings that it shows. -/
theorem get_inForce_of_valueOf? (settings : Settings)
    (hanswer : (answer tree directory request).2 = .ok report) (herrors : report.hasErrors = false)
    (hrequest : ∀ key, request ≠ .showKey key)
    (hvalue : report.valueOf? request setting = some value) :
    (inForce settings (.ok report)).get setting = value := by
  cases request with
  | showAll =>
    simp only [answer] at hanswer
    cases hload : load tree directory with
    | error failure =>
      rw [hload] at hanswer
      cases hanswer
    | ok saved =>
      rw [hload] at hanswer
      obtain rfl := Except.ok.inj hanswer
      exact Option.some.inj hvalue
  | showKey key => exact absurd rfl (hrequest key)
  | change key text =>
    obtain ⟨changedSetting, changed, hkey, rfl⟩ := savedReport_of_change hanswer herrors
    simp only [Report.valueOf?] at hvalue
    split at hvalue
    next hsetting =>
      obtain rfl : changedSetting = setting := Option.some.inj (hkey.symm.trans hsetting)
      exact Option.some.inj hvalue
    · cases hvalue

/-- What is shown of one setting is what is saved. -/
theorem exists_load_of_showKey {key : String}
    (hanswer : (answer tree directory (.showKey key)).2 = .ok report)
    (herrors : report.hasErrors = false) :
    ∃ saved setting, load tree directory = .ok saved ∧ Setting.ofKey? key = some setting ∧
      report = { notes := [.settingShown (saved.get setting)] } := by
  simp only [answer] at hanswer
  cases hkey : Setting.ofKey? key with
  | none =>
    rw [hkey] at hanswer
    obtain rfl := Except.ok.inj hanswer
    cases herrors
  | some setting =>
    simp only [hkey, showSaved] at hanswer
    cases hload : load tree directory with
    | error failure =>
      rw [hload] at hanswer
      cases hanswer
    | ok saved =>
      rw [hload] at hanswer
      exact ⟨saved, setting, rfl, rfl, (Except.ok.inj hanswer).symm⟩

end Settings

namespace Situation

variable {situation next : Situation} {request : SettingsRequest} {report : Report}
  {steps : List SessionStep}

/-- After a request about settings that succeeds, and up to the next one, what is loaded and recased
goes by the values that were reported, when all settings were shown or one of them was changed. When
one was shown, what was shown is what is saved, but the settings in force are those from before. -/
theorem reported_settings_are_used
    (hact : situation.act (.perform (.settings request)) = (next, .ok report))
    (herrors : report.hasErrors = false)
    (hsteps : ∀ other, SessionStep.act (.perform (.settings other)) ∉ steps) :
    let last := (runActions step next steps).1
    ((∀ key, request ≠ .showKey key) → ∀ setting value,
        report.valueOf? request setting = some value → last.Uses setting value) ∧
      ∀ key, request = .showKey key →
        (∃ saved, Settings.load situation.tree situation.session.directory = .ok saved ∧
          ∀ setting value, report.valueOf? request setting = some value →
            saved.get setting = value) ∧
        ∀ setting, last.Uses setting (situation.session.settings.get setting) := by
  intro last
  rw [act_settings] at hact
  obtain ⟨rfl, hanswer⟩ := Prod.mk.inj hact
  have hsettings : last.session.settings =
      Settings.inForce situation.session.settings (.ok report) := by
    rw [settings_run hsteps, hanswer]
  refine ⟨fun hrequest setting value hvalue => ?_, ?_⟩
  · have huses := last.uses_get setting
    rwa [hsettings, Settings.get_inForce_of_valueOf? _ hanswer herrors hrequest hvalue] at huses
  · rintro key rfl
    obtain ⟨saved, shown, hload, hkey, rfl⟩ := Settings.exists_load_of_showKey hanswer herrors
    refine ⟨⟨saved, hload, fun setting value hvalue => ?_⟩, fun setting => ?_⟩
    · simp only [Report.valueOf?] at hvalue
      split at hvalue
      next hsetting =>
        obtain rfl : shown = setting := Option.some.inj (hkey.symm.trans hsetting)
        exact Option.some.inj hvalue
      · cases hvalue
    · have huses := last.uses_get setting
      rwa [hsettings] at huses

/-- A change by a session whose settings are not the saved ones, and what it does next. -/
theorem reported_settings_are_used_changed :
    let situation : Situation := ⟨⟨.empty, "config", {}⟩, visited⟩
    let request : SettingsRequest := .change "normalize-on-load" "YES"
    let report := Settings.savedReport ⟨.title, true⟩ .normalizeOnLoad "YES"
    let steps : List SessionStep := [.act (.load ["b.txt"] false), .act (.normalize none)]
    let next := (situation.act (.perform (.settings request))).1
    situation.act (.perform (.settings request)) = (next, .ok report) ∧
      report.hasErrors = false ∧
      (∀ other, SessionStep.act (.perform (.settings other)) ∉ steps) ∧
      report.valueOf? request .normalizeOnLoad = some "true" ∧
      (runActions step next steps).1.Uses .normalizeOnLoad "true" := by
  intro situation request report steps next
  have hact : situation.act (.perform (.settings request)) = (next, .ok report) := by
    refine Prod.ext rfl ?_
    rw [act_settings]
    decide +kernel
  have hsteps : ∀ other, SessionStep.act (.perform (.settings other)) ∉ steps := by
    intro other
    simp [steps]
  exact ⟨hact, rfl, hsteps, rfl,
    (reported_settings_are_used hact rfl hsteps).1 (by simp [request]) .normalizeOnLoad "true" rfl⟩

/-- What was shown of one setting need not be used: a session that asks for the casing after others
have changed it is told the new one and goes on with the old one. -/
theorem shown_setting_not_used :
    ¬ ∀ (tree : FileTree) (roster : Roster) (directory : String) (session : Session)
        (before steps : List SessionStep) (request : SettingsRequest) (report : Report)
        (next : Situation),
        Session.start tree roster directory = .ok session →
        (runActions step ⟨session, tree⟩ before).1.act (.perform (.settings request)) =
          (next, .ok report) →
        report.hasErrors = false →
        (∀ other, SessionStep.act (.perform (.settings other)) ∉ steps) →
        ∀ setting value, report.valueOf? request setting = some value →
          (runActions step next steps).1.Uses setting value := by
  intro h
  have hstart : Session.start (.empty ["work"]) .empty "config" = .ok ⟨.empty, "config", {}⟩ := by
    decide +kernel
  have hact : act ⟨⟨.empty, "config", {}⟩, visited⟩ (.perform (.settings (.showKey "casing"))) =
      (⟨⟨.empty, "config", {}⟩, visited⟩, .ok { notes := [.settingShown "title"] }) := by
    have hanswer : (Settings.answer visited "config" (.showKey "casing")).2 =
        .ok { notes := [.settingShown "title"] } := by
      decide +kernel
    rw [act_settings, hanswer, Settings.answer_fst_of_show (by simp)]
    rfl
  obtain ⟨casing, hname, hnormalize, _⟩ := h (.empty ["work"]) .empty "config" _
    [.meanwhile visited] [] (.showKey "casing") _ _ hstart hact rfl (by simp) .casing "title" rfl
  cases casing with
  | legacy => exact absurd hname (by decide)
  | title =>
    have hreports := congrArg Prod.snd hnormalize
    exact absurd hreports (by decide +kernel)

end Situation

end StudentRoster
