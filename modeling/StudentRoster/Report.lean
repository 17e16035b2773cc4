import StudentRoster.Event
import StudentRoster.Roster

/-!
# Reports

What an operation on a roster answers: students, ids or settings to show, and notes to the user. A
note is kept as what it is about; its level and its text are read off it. `hasErrors` tells the
reports that did not do what was asked.
-/

set_option autoImplicit false

namespace StudentRoster

/-- How a note is meant. -/
inductive NoteLevel where
  | info
  | success
  | warning
  | error
  deriving DecidableEq, Repr

/-- Something that the user is told. -/
inductive Note where
  | unreadable (path : String) (cause : FileError)
  | badLine (path : String) (line : BadLine)
  | duplicateId (id : Int32) (path : String)
  | loaded (count : Int32)
  | unknownId (id : Int32)
  | idTaken (id : Int32)
  | idFree (id : Int32)
  | normalized (count : Nat) (casing : Casing)
  | settingShown (value : String)
  | settingSaved (setting : Setting) (value : String)
  | unknownKey (key : String)
  | badValue (fault : SettingFault)
  deriving DecidableEq, Repr

namespace Note

/-- How a note is meant: what was passed over is a warning, and what was refused an error. -/
def level : Note → NoteLevel
  | unreadable .. | badLine .. | duplicateId .. | unknownId .. => .warning
  | loaded .. | idFree .. | normalized .. | settingShown .. => .info
  | idTaken .. | settingSaved .. => .success
  | unknownKey .. | badValue .. => .error

/-- The keys of all settings, as a note lists them. -/
def keyList : String := ", ".intercalate (Setting.all.map Setting.key)

/-- The wording of a note. -/
def text : Note → String
  | unreadable path cause => "Failed to import " ++ path ++ ": " ++ (Failure.file cause).message
  | badLine path line => "Skipped " ++ path ++ ": " ++ line.failure.message
  | duplicateId id path => "Skipped duplicate id " ++ idText id ++ " in " ++ path
  | loaded count => "Loaded " ++ toString count.toInt ++ " records"
  | unknownId id => (Failure.unknownId id).message
  | idTaken id => "Id " ++ idText id ++ " is taken"
  | idFree id => "Id " ++ idText id ++ " is free"
  | normalized count casing => s!"Normalized {count} records (" ++ casing.name ++ " casing)"
  | settingShown value => value
  | settingSaved setting value => setting.key ++ " set to " ++ value
  | unknownKey key =>
    (SettingFault.unknownKey key).message ++ " (expected one of: " ++ keyList ++ ")"
  | badValue fault => fault.message

end Note

/-- What an operation answers, and the events of its work. -/
structure Report where
  /-- Students to show, in the order of the roster. -/
  students : List Student := []
  /-- Ids that were found, in the order of the roster. -/
  ids : List Int32 := []
  settings : Option Settings := none
  notes : List Note := []
  events : List Event := []
  deriving DecidableEq, Repr

/-- Whether some note is an error. -/
def Report.hasErrors (report : Report) : Bool :=
  report.notes.any fun note => note.level == .error

end StudentRoster
