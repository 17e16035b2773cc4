import StudentRoster.Listing
import StudentRoster.Settings

/-!
# Events

What a run tells about itself while it works, in the order in which it happens. An event belongs to
a part of the program, its target, and has a level and fields; `Event.Filter` chooses by these which
of them are logged.
-/

set_option autoImplicit false

namespace StudentRoster

/-- How much an event matters, the least first. -/
inductive EventLevel where
  | trace
  | debug
  | info
  | warn
  | error
  deriving DecidableEq, Repr

/-- The rank of a level: a filter that lets a level pass lets the greater ones pass too. -/
def EventLevel.rank : EventLevel → Nat
  | trace => 0
  | debug => 1
  | info => 2
  | warn => 3
  | error => 4

/-- The name of a level in front of a line of the log. -/
def EventLevel.name : EventLevel → String
  | trace => "TRACE"
  | debug => "DEBUG"
  | info => "INFO"
  | warn => "WARN"
  | error => "ERROR"

/-- Something that happens in a run. -/
inductive Event where
  | starting (directory : String)
  | unreadable (path : String) (cause : FileError)
  | badLine (path : String) (line : BadLine)
  | inserting (id : Int32)
  | loaded (count : Int32)
  | listed (count : Nat)
  | lookingUp (id : Int32)
  | searchedLastName (name : String) (count : Nat)
  | searchedMajor (major : String) (count : Nat)
  | checked (id : Int32) (present : Bool)
  | normalized (casing : Casing) (count : Nat)
  | settingSaved (setting : Setting) (value : String)
  | releasing (count : Nat)
  deriving DecidableEq, Repr

namespace Event

/-- How much an event matters: input that is passed over is a warning, all else a detail. -/
def level : Event → EventLevel
  | unreadable .. | badLine .. => .warn
  | _ => .debug

/-- The part of the program that an event belongs to. -/
def target : Event → String
  | starting .. => "roster"
  | inserting .. | releasing .. => "roster::store"
  | unreadable .. | badLine .. | loaded .. => "roster::commands::import"
  | listed .. => "roster::commands::list"
  | lookingUp .. => "roster::commands::get"
  | searchedLastName .. | searchedMajor .. => "roster::commands::search"
  | checked .. => "roster::commands::check"
  | normalized .. => "roster::commands::normalize"
  | settingSaved .. => "roster::commands::config"

/-- What an event says in words. -/
def title : Event → String
  | starting .. => "starting"
  | unreadable .. => "failed to load roster"
  | badLine .. => "skipping roster line"
  | inserting .. => "inserting record"
  | loaded .. => "imported records"
  | listed .. => "listing records"
  | lookingUp .. => "looking up record"
  | searchedLastName .. | searchedMajor .. => "searched"
  | checked .. => "checking id"
  | normalized .. => "normalized records"
  | settingSaved .. => "saved config"
  | releasing .. => "releasing store"

/-- The operation that an event belongs to, if it names one. -/
def operation? : Event → Option String
  | starting .. | unreadable .. | badLine .. => none
  | inserting .. => some "insert"
  | loaded .. => some "import"
  | listed .. => some "list"
  | lookingUp .. => some "get"
  | searchedLastName .. => some "search_last_name"
  | searchedMajor .. => some "search_major"
  | checked .. => some "check"
  | normalized .. => some "normalize"
  | settingSaved .. => some "config_set"
  | releasing .. => some "release"

/-- A number as the text of a field. -/
def countText (count : Nat) : String :=
  String.ofList (Nat.toDigits 10 count)

/-- What an event is about: the names and the texts of its fields, the operation left out. -/
def details : Event → List (String × String)
  | starting directory => [("config_dir", directory)]
  | unreadable path cause => [("path", path), ("error", (Failure.file cause).message)]
  | badLine path line => [("path", path), ("error", line.failure.message)]
  | inserting id | lookingUp id => [("id", idText id)]
  | loaded count => [("count", toString count.toInt)]
  | listed count | releasing count => [("count", countText count)]
  | searchedLastName name count => [("name", Text.quote name), ("count", countText count)]
  | searchedMajor major count => [("major", Text.quote major), ("count", countText count)]
  | checked id present => [("id", idText id), ("present", if present then "true" else "false")]
  | normalized casing count => [("mode", casing.name), ("count", countText count)]
  | settingSaved setting value => [("key", setting.key), ("value", value)]

/-- The names and the texts of the fields of an event, in the order of a line. -/
def fields (event : Event) : List (String × String) :=
  (event.operation?.map fun operation => ("op", Text.quote operation)).toList ++ event.details

/-- The names of the fields of an event. What it says in words is a field too. -/
def fieldNames (event : Event) : List String :=
  "message" :: event.fields.map Prod.fst

/-- The text of an event: what it says, and its fields behind it. -/
def text (event : Event) : String :=
  event.title ++ String.join (event.fields.map fun field => " " ++ field.1 ++ "=" ++ field.2)

/-- The line of an event in a log. -/
def line (event : Event) : String :=
  event.level.name ++ " " ++ event.text

end Event

end StudentRoster
