/-!
# What can go wrong with a file

The causes for which a file cannot be read or written, each with the wording of the operating
system and its number where it has one.
-/

set_option autoImplicit false

namespace StudentRoster

/-- Why a file cannot be read or written. -/
inductive FileError where
  | notFound
  | alreadyExists
  /-- A name on the way is not the name of a directory. -/
  | notDirectory
  /-- A directory stands where a file is needed. -/
  | isDirectory
  /-- A name or a whole path is longer than the system allows. -/
  | nameTooLong
  /-- The user of the program may not do this with a file or a directory. -/
  | permissionDenied
  /-- The device has no room left for what is written. -/
  | noSpace
  /-- A path holds the character that ends texts in the system's calls. -/
  | nulInPath
  /-- The content is not UTF-8. -/
  | notText
  /-- A bounded sink has no room left. -/
  | sinkFull
  deriving DecidableEq, Repr

/-- The wording of a cause. -/
def FileError.message : FileError → String
  | .notFound => "No such file or directory (os error 2)"
  | .alreadyExists => "File exists (os error 17)"
  | .notDirectory => "Not a directory (os error 20)"
  | .isDirectory => "Is a directory (os error 21)"
  | .nameTooLong => "File name too long (os error 36)"
  | .permissionDenied => "Permission denied (os error 13)"
  | .noSpace => "No space left on device (os error 28)"
  | .nulInPath => "file name contained an unexpected NUL byte"
  | .notText => "stream did not contain valid UTF-8"
  | .sinkFull => "failed to write whole buffer"

end StudentRoster
