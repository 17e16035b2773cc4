import StudentRoster.Settings

/-!
# Settings as a JSON text

The text that is saved: an object with both members, one a line, indented by two spaces.
-/

set_option autoImplicit false

namespace StudentRoster.Settings

/-- The JSON text of the settings, without a line feed at its end. -/
def toJson (settings : Settings) : String :=
  "\x7b\n  \"casing\": \"" ++ settings.casing.name ++ "\",\n  \"normalize_on_load\": "
    ++ settings.get .normalizeOnLoad ++ "\n\x7d"

end StudentRoster.Settings
