import StudentRoster.Report
import StudentRoster.Settings.File

/-!
# Requests about settings

The saved settings are shown, whole or one of them, or one of them is changed and saved. A key is
looked at before the file is read, so that a mistyped one never depends on what is saved. Each
request starts from the saved settings, so that a change keeps what others have saved.
-/

set_option autoImplicit false

namespace StudentRoster

/-- What is asked of the settings. -/
inductive SettingsRequest where
  | showAll
  | showKey (key : String)
  | change (key value : String)
  deriving DecidableEq, Repr

namespace Settings

/-- Shows one of the saved settings. -/
def showSaved (tree : FileTree) (directory : String) (setting : Setting) : Except Failure Report :=
  (load tree directory).map fun settings =>
    { notes := [.settingShown (settings.get setting)] }

/-- Changes one of the saved settings and saves them. A value that is not accepted is an error in
the report. -/
def changeSaved (tree : FileTree) (directory : String) (setting : Setting) (value : String) :
    FileTree × Except Failure Report :=
  match load tree directory with
  | .error e => (tree, .error e)
  | .ok settings =>
    match settings.set setting value with
    | (_, .error fault) => (tree, .ok { notes := [.badValue fault] })
    | (changed, .ok ()) =>
      match changed.save tree directory with
      | (tree, .error e) => (tree, .error e)
      | (tree, .ok ()) =>
        (tree, .ok {
          settings := some changed
          notes := [.settingSaved setting (changed.get setting)]
          events := [.settingSaved setting value] })

/-- Answers a request. -/
def answer (tree : FileTree) (directory : String) (request : SettingsRequest) :
    FileTree × Except Failure Report :=
  match request with
  | .showAll => (tree, (load tree directory).map fun settings => { settings := some settings })
  | .showKey key =>
    match Setting.ofKey? key with
    | none => (tree, .ok { notes := [.unknownKey key] })
    | some setting => (tree, showSaved tree directory setting)
  | .change key value =>
    match Setting.ofKey? key with
    | none => (tree, .ok { notes := [.unknownKey key] })
    | some setting => changeSaved tree directory setting value

end Settings

end StudentRoster
