import StudentRoster.Failure
import StudentRoster.Files.Tree
import StudentRoster.Settings.Printer
import StudentRoster.Settings.Reader

/-!
# The settings file

Settings are kept in one file of a directory. A missing file stands for the defaults. Saving makes
the directory first if it is missing.
-/

set_option autoImplicit false

namespace StudentRoster.Settings

/-- The name of the settings file. -/
def fileName : String := "config.json"

/-- The path of the settings file in a directory. -/
def filePath (directory : String) : String :=
  joinPath directory fileName

/-- The settings that are saved in a directory. -/
def load (tree : FileTree) (directory : String) : Except Failure Settings :=
  if tree.hasPath (filePath directory) then
    match tree.readText (filePath directory) with
    | .error e => .error (.file e)
    | .ok text => (ofJson text).mapError .badSettings
  else .ok {}

/-- Makes the directory of the settings unless something stands there. -/
def prepare (tree : FileTree) (directory : String) : FileTree × Except FileError Unit :=
  if tree.hasPath directory then (tree, .ok ()) else tree.makePath directory

/-- Saves the settings in a directory. The tree is given back also after a failure, because
directories may have been made before it, and the file may have been emptied. -/
def save (settings : Settings) (tree : FileTree) (directory : String) :
    FileTree × Except Failure Unit :=
  match prepare tree directory with
  | (tree, .error e) => (tree, .error (.file e))
  | (tree, .ok ()) =>
    let (tree, result) := tree.writeBytes (filePath directory) settings.toJson.toUTF8
    (tree, result.mapError .file)

/-- What the surroundings say of the directory of the settings. -/
structure Places where
  /-- The directory that is named outright. -/
  override : Option String
  /-- The directory that the platform has for the settings of this program, if it has one. -/
  platform : Option String
  deriving DecidableEq, Repr

/-- The directory of the settings: the one that is named outright, or else that of the platform. -/
def directory (places : Places) : Except Failure String :=
  match places.override.or places.platform with
  | some directory => .ok directory
  | none => .error (.settings "Could not determine config dir")

end StudentRoster.Settings
