import StudentRoster.CommandLine.Parser
import StudentRoster.Event.Filter
import StudentRoster.Session
import StudentRoster.Terminal

/-!
# The program

One run: files are loaded into an empty roster, a command is carried out, and its students and notes
are shown. The files are a value that goes in and comes out, so that a run is a function of its
arguments, its environment and the files.
-/

set_option autoImplicit false

namespace StudentRoster

/-- What a run is told by its surroundings. -/
structure Environment where
  places : Settings.Places
  /-- Whether notes are colored. -/
  color : Bool
  /-- The text of the filter of events. -/
  log : Option String
  deriving DecidableEq, Repr

/-- Something on the stream for diagnostics. -/
inductive Diagnostic where
  /-- An event that is logged. -/
  | event (event : Event)
  | text (text : String)
  deriving DecidableEq, Repr

/-- What a run leaves behind. -/
structure Outcome where
  exitCode : Nat
  /-- The text on the standard output. -/
  output : String
  diagnostics : List Diagnostic
  tree : FileTree
  deriving DecidableEq

namespace Program

/-- The events that are logged. -/
def logged (filter : Event.Filter) (events : List Event) : List Diagnostic :=
  (events.filter filter.passes).map .event

/-- The outcome of a run that a failure ends. -/
def failed (tree : FileTree) (diagnostics : List Diagnostic) (failure : Failure) : Outcome where
  exitCode := 1
  output := ""
  diagnostics := diagnostics ++ [.text ("Error: " ++ failure.message ++ "\n")]
  tree := tree

/-- Loads the files of the options. Without any nothing is told. -/
def loadInputs (session : Session) (tree : FileTree) (options : Options) : Session × Report :=
  if options.inputs.isEmpty then (session, {})
  else session.load tree options.inputs options.normalize

/-- Carries out a command. -/
def perform (session : Session) (tree : FileTree) (command : Command) :
    FileTree × Except Failure (Session × Report) :=
  match command with
  | .list => (tree, .ok (session, session.roster.listAll))
  | .get id => (tree, .ok (session, session.roster.lookUp id))
  | .lastName name => (tree, .ok (session, session.roster.searchLastName name))
  | .major query =>
    (tree, (session.roster.searchMajor query).map fun report => (session, report))
  | .check id => (tree, .ok (session, session.roster.check id))
  | .settings request => session.configure tree request

/-- The lines that show settings, one for each key. -/
def settingsLines (settings : Settings) : String :=
  String.join (Setting.all.map fun setting =>
    setting.key ++ " = " ++ settings.get setting ++ "\n")

/-- Shows the students of a report: in the output file, which is created or replaced, or else on the
standard output. Gives back the text for the standard output. -/
def deliver (tree : FileTree) (output : Option String) (students : List Student) :
    FileTree × Except FileError String :=
  match output with
  | none => (tree, .ok (Listing.print students))
  | some path =>
    let (tree, result) := tree.writeBytes path (Listing.print students).toUTF8
    (tree, result.map fun _ => "")

/-- The text for the standard output in front of the notes, and the files, after a command. -/
def present (tree : FileTree) (invocation : Invocation) (report : Report) :
    FileTree × Except FileError String :=
  if invocation.command.listsStudents then
    deliver tree invocation.options.output report.students
  else if invocation.command = .settings .showAll then
    (tree, .ok ((report.settings.map settingsLines).getD ""))
  else (tree, .ok "")

/-- Carries out a command in a session whose files have been loaded. `before` is on the stream for
diagnostics already. -/
def conclude (environment : Environment) (invocation : Invocation) (filter : Event.Filter)
    (before : List Diagnostic) (session : Session) (tree : FileTree) : Outcome :=
  match perform session tree invocation.command with
  | (tree, .error failure) => failed tree before failure
  | (tree, .ok (session, report)) =>
    let diagnostics := before ++ logged filter report.events
    match present tree invocation report with
    | (tree, .error cause) => failed tree diagnostics (.file cause)
    | (tree, .ok text) =>
      { exitCode := if report.hasErrors then 1 else 0
        output := text ++ String.join (report.notes.map (Terminal.resultLine environment.color))
        diagnostics := diagnostics ++ logged filter [.releasing session.roster.size]
        tree := tree }

/-- The diagnostics of the beginning of a run: its start, the events of the loading, and then the
notes on it. -/
def opening (environment : Environment) (options : Options) (filter : Event.Filter)
    (directory : String) (report : Report) : List Diagnostic :=
  logged filter (.starting directory :: report.events)
    ++ (report.notes.filterMap (Terminal.loadLine? environment.color options.verbose)).map .text

/-- Runs a command with its options. -/
def run (environment : Environment) (invocation : Invocation) (tree : FileTree) : Outcome :=
  match Settings.directory environment.places with
  | .error failure => failed tree [] failure
  | .ok directory =>
    match Session.start tree .empty directory with
    | .error failure => failed tree [] failure
    | .ok session =>
      let options := invocation.options
      let filter := Event.Filter.choose environment.log options.verbose
      let (session, report) := loadInputs session tree options
      conclude environment invocation filter (opening environment options filter directory report)
        session tree

/-- The name and version of the program. -/
def versionLine : String := "roster 0.1.0\n"

/-- How the program is used. -/
def helpText : String :=
  "Usage: roster [OPTIONS] [COMMAND]\n\n"
    ++ "Commands: list, get <ID>, last-name <NAME>, major <CODE>, check <ID>,\n"
    ++ "          config [KEY] [VALUE], help\n"
    ++ "Options:  -i/--input <FILE>, -o/--output <FILE>, -n/--normalize, -v/--verbose,\n"
    ++ "          -h/--help, -V/--version\n"

/-- Runs the program with these arguments. A command line that asks for nothing has the exit code 2
and changes no file. -/
def execute (environment : Environment) (arguments : List String) (tree : FileTree) : Outcome :=
  match CommandLine.parse arguments with
  | .error fault => ⟨2, "", [.text ("error: " ++ fault.message ++ "\n")], tree⟩
  | .ok .showVersion => ⟨0, versionLine, [], tree⟩
  | .ok .showHelp => ⟨0, helpText, [], tree⟩
  | .ok (.run invocation) => run environment invocation tree

end Program

end StudentRoster
