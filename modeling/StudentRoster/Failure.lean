import StudentRoster.Files.Error
import StudentRoster.Json.Fault
import StudentRoster.Text.Numeral
import StudentRoster.Text.Quoted

/-!
# Failures

The reasons for which an operation on a roster gives no result.
-/

set_option autoImplicit false

namespace StudentRoster

/-- Why an operation on a roster or on its settings gives no result. -/
inductive Failure where
  /-- A search by major needs three characters. -/
  | shortMajor (query : String)
  | duplicateId (id : Int32)
  | unknownId (id : Int32)
  /-- A line of a listing, counted from 1, is not a student. -/
  | badLine (number : Nat) (reason : String)
  | file (cause : FileError)
  /-- The saved settings cannot be understood. -/
  | badSettings (fault : Json.LocatedFault)
  /-- The settings have no place. -/
  | settings (reason : String)
  deriving DecidableEq, Repr

/-- An id as it is written. -/
def idText (id : Int32) : String :=
  String.ofList (Text.integerDigits id.toInt)

/-- The wording of a failure. -/
def Failure.message : Failure → String
  | .shortMajor query =>
    "Invalid major code " ++ Text.quote query ++ ": at least 3 characters are required"
  | .duplicateId id => "Duplicate student id: " ++ idText id
  | .unknownId id => "Student not found: " ++ idText id
  | .badLine number reason => s!"Parse error on line {number}: " ++ reason
  | .file cause => "IO error: " ++ cause.message
  | .badSettings fault => "Serialization error: " ++ fault.message
  | .settings reason => "Config error: " ++ reason

end StudentRoster
