import StudentRoster.Settings.Request

/-!
# Command lines

What a command line asks for: a command, and options that may stand in front of its name or behind
it. `Options.over` joins the two places: switches add up, and a value given behind the name takes
the place of those in front.
-/

set_option autoImplicit false

namespace StudentRoster

/-- The options of a command line. -/
structure Options where
  /-- The files to load, in order. -/
  inputs : List String := []
  /-- The file that takes the lines of students in place of the standard output. -/
  output : Option String := none
  /-- Whether students are recased while they are loaded. -/
  normalize : Bool := false
  /-- Whether more is told about the work. -/
  verbose : Bool := false
  deriving DecidableEq, Repr

/-- The options in front of the name of a command, overruled by those behind it. -/
def Options.over (outer inner : Options) : Options where
  inputs := if inner.inputs.isEmpty then outer.inputs else inner.inputs
  output := inner.output.or outer.output
  normalize := outer.normalize || inner.normalize
  verbose := outer.verbose || inner.verbose

/-- What is to be done with the roster. -/
inductive Command where
  | list
  | get (id : Int32)
  | lastName (name : String)
  | major (query : String)
  | check (id : Int32)
  | settings (request : SettingsRequest)
  deriving DecidableEq, Repr

/-- Whether a command answers with lines of students. -/
def Command.listsStudents : Command → Bool
  | list | get _ | lastName _ | major _ => true
  | check _ | settings _ => false

/-- A command with its options. -/
structure Invocation where
  options : Options
  command : Command
  deriving DecidableEq, Repr

/-- What a command line asks the program to do. -/
inductive Action where
  | run (invocation : Invocation)
  | showVersion
  | showHelp
  deriving DecidableEq, Repr

/-- Why a command line asks for nothing. -/
inductive UsageFault where
  | unknownOption (text : String)
  /-- A switch that is given a value. -/
  | unexpectedValue (name : String)
  | missingValue (name : String)
  | emptyValue (name : String)
  | repeatedOption (name : String)
  | unknownCommand (word : String)
  | unexpectedWord (word : String)
  | missingWord (command : String)
  | badId (word : String)
  deriving DecidableEq, Repr

/-- The wording of a fault. -/
def UsageFault.message : UsageFault → String
  | unknownOption text => "unexpected argument '" ++ text ++ "' found"
  | unexpectedValue name => "no value can be given for '" ++ name ++ "'"
  | missingValue name => "a value is required for '" ++ name ++ "' but none was supplied"
  | emptyValue name => "the value for '" ++ name ++ "' is empty"
  | repeatedOption name => "the argument '" ++ name ++ "' cannot be used multiple times"
  | unknownCommand word => "unrecognized subcommand '" ++ word ++ "'"
  | unexpectedWord word => "unexpected argument '" ++ word ++ "' found"
  | missingWord command => "'" ++ command ++ "' needs an argument"
  | badId word => "invalid id '" ++ word ++ "'"

/-- Options stay as they are where nothing is given behind the name of the command. -/
@[simp] theorem Options.over_empty (options : Options) : options.over {} = options := by
  simp [Options.over]

/-- Where nothing is given in front of the name, the options behind it count. -/
@[simp] theorem Options.empty_over (options : Options) : Options.over {} options = options := by
  obtain ⟨inputs, output, normalize, verbose⟩ := options
  cases inputs <;> simp [Options.over]

end StudentRoster
