import StudentRoster.CommandLine.Token

/-!
# Reading a command line

The tokens are read from left to right. The first word names the command, and the words behind it
are its arguments, each checked when it is reached. Without a name the command is to list. Help and
the version are shown when the reader comes to them, whatever stands behind.
-/

set_option autoImplicit false

namespace StudentRoster

/-- The names of commands. -/
inductive CommandName where
  | list
  | get
  | lastName
  | major
  | check
  | config
  deriving DecidableEq, Repr

namespace CommandName

/-- The words that name a command. -/
def words : List (String × CommandName) :=
  [("list", list), ("ls", list), ("get", get), ("last-name", lastName), ("ln", lastName),
    ("major", major), ("check", check), ("config", config)]

/-- The command that a word names, if it names one. -/
def ofWord? (word : String) : Option CommandName :=
  words.lookup word

/-- The greatest number of arguments. -/
def maxArguments : CommandName → Nat
  | list => 0
  | get | lastName | major | check => 1
  | config => 2

/-- Whether the argument is an id. -/
def takesId : CommandName → Bool
  | get | check => true
  | list | lastName | major | config => false

/-- Why a word cannot be the next argument, if it cannot. -/
def refuses? (name : CommandName) (arguments : List String) (word : String) : Option UsageFault :=
  if name.maxArguments ≤ arguments.length then some (.unexpectedWord word)
  else if name.takesId && (Text.int32? word.toList).isNone then some (.badId word)
  else none

/-- The command with these arguments. -/
def command : CommandName → List String → Except UsageFault Command
  | list, _ => .ok .list
  | get, word :: _ =>
    match Text.int32? word.toList with
    | some id => .ok (.get id)
    | none => .error (.badId word)
  | check, word :: _ =>
    match Text.int32? word.toList with
    | some id => .ok (.check id)
    | none => .error (.badId word)
  | lastName, word :: _ => .ok (.lastName word)
  | major, word :: _ => .ok (.major word)
  | config, [] => .ok (.settings .showAll)
  | config, [key] => .ok (.settings (.showKey key))
  | config, key :: value :: _ => .ok (.settings (.change key value))
  | get, [] => .error (.missingWord "get")
  | check, [] => .error (.missingWord "check")
  | lastName, [] => .error (.missingWord "last-name")
  | major, [] => .error (.missingWord "major")

end CommandName

/-- The options with one more use. Only files to load may be given more than once. -/
def Options.add (options : Options) : OptionUse → Except UsageFault Options
  | .input path => .ok { options with inputs := options.inputs ++ [path] }
  | .output path =>
    if options.output.isSome then .error (.repeatedOption "--output")
    else .ok { options with output := some path }
  | .normalize =>
    if options.normalize then .error (.repeatedOption "--normalize")
    else .ok { options with normalize := true }
  | .verbose =>
    if options.verbose then .error (.repeatedOption "--verbose")
    else .ok { options with verbose := true }

namespace CommandLine

/-- Reads what stands behind the name of a command. -/
def readInner (name : CommandName) (outer inner : Options) (arguments : List String) :
    List Token → Except UsageFault Action
  | [] =>
    (name.command arguments).map fun command => .run ⟨outer.over inner, command⟩
  | .option use :: rest =>
    match inner.add use with
    | .error fault => .error fault
    | .ok inner => readInner name outer inner arguments rest
  | .word word :: rest =>
    match name.refuses? arguments word with
    | some fault => .error fault
    | none => readInner name outer inner (arguments ++ [word]) rest
  | .separator :: rest => readInner name outer inner arguments rest
  | .help :: _ => .ok .showHelp
  | .version :: _ => .error (.unknownOption "--version")
  | .fault fault :: _ => .error fault

/-- Reads what stands behind the word for help: nothing, or the name of a command. -/
def readHelp : List Token → Except UsageFault Action
  | [] => .ok .showHelp
  | [.word word] =>
    if word = "help" ∨ (CommandName.ofWord? word).isSome then .ok .showHelp
    else .error (.unknownCommand word)
  | _ => .error (.unexpectedWord "help")

/-- Reads a command line from its beginning. -/
def readOuter (outer : Options) : List Token → Except UsageFault Action
  | [] => .ok (.run ⟨outer, .list⟩)
  | .option use :: rest =>
    match outer.add use with
    | .error fault => .error fault
    | .ok outer => readOuter outer rest
  | .word word :: rest =>
    if word = "help" then readHelp rest
    else
      match CommandName.ofWord? word with
      | some name => readInner name outer {} [] rest
      | none => .error (.unknownCommand word)
  | [.separator] => .ok (.run ⟨outer, .list⟩)
  | .separator :: _ :: _ => .error (.unexpectedWord "--")
  | .help :: _ => .ok .showHelp
  | .version :: _ => .ok .showVersion
  | .fault fault :: _ => .error fault

/-- What these arguments ask for. -/
def parse (arguments : List String) : Except UsageFault Action :=
  readOuter {} (Token.ofArguments none arguments)

end CommandLine

end StudentRoster
