import StudentRoster.Roster.Load
import StudentRoster.Roster.Query
import StudentRoster.Settings.Request

/-!
# Sessions

A session is a roster together with a directory of settings and the settings that are in force. They
are read when the session starts, and replaced by the settings that a request reports.
-/

set_option autoImplicit false

namespace StudentRoster

/-- A roster in use. -/
structure Session where
  roster : Roster
  /-- Where the settings are saved. -/
  directory : String
  /-- The settings in force. -/
  settings : Settings
  deriving DecidableEq, Repr

namespace Session

/-- Starts a session with the saved settings. -/
def start (tree : FileTree) (roster : Roster) (directory : String) : Except Failure Session :=
  (Settings.load tree directory).map fun settings => ⟨roster, directory, settings⟩

/-- The casing of a loading, when it recases: if the caller or the settings say so. -/
def loadCasing? (session : Session) (normalize : Bool) : Option Casing :=
  if normalize || session.settings.normalizeOnLoad then some session.settings.casing else none

/-- Loads files. -/
def load (session : Session) (tree : FileTree) (paths : List String) (normalize : Bool) :
    Session × Report :=
  let (roster, report) := session.roster.load tree paths (session.loadCasing? normalize)
  ({ session with roster := roster }, report)

/-- Recases all students, by the casing in force when none is given. -/
def normalize (session : Session) (casing? : Option Casing) : Session × Report :=
  let (roster, report) := session.roster.normalize (casing?.getD session.settings.casing)
  ({ session with roster := roster }, report)

/-- The session after a report: settings that it shows come into force. -/
def adopt (session : Session) (report : Report) : Session :=
  { session with settings := report.settings.getD session.settings }

/-- Answers a request about settings. -/
def configure (session : Session) (tree : FileTree) (request : SettingsRequest) :
    FileTree × Except Failure (Session × Report) :=
  let (tree, result) := Settings.answer tree session.directory request
  (tree, result.map fun report => (session.adopt report, report))

end Session

end StudentRoster
