import StudentRoster.CommandLine

/-!
# Tokens of a command line

The arguments of a command line as options with their values and words. An argument that begins with
a dash is options, unless it is a dash alone; the argument after an option that still lacks its
value is that value; and behind two dashes everything is a word. A fault is a token of its own, so
that it counts only when the reader comes to it.
-/

set_option autoImplicit false

namespace StudentRoster

/-- One use of an option. -/
inductive OptionUse where
  | input (path : String)
  | output (path : String)
  | normalize
  | verbose
  deriving DecidableEq, Repr

/-- A part of a command line. -/
inductive Token where
  | option (use : OptionUse)
  | help
  | version
  /-- Two dashes alone. -/
  | separator
  | word (text : String)
  | fault (fault : UsageFault)
  deriving DecidableEq, Repr

/-- The options that take a value. -/
inductive ValueOption where
  | input
  | output
  deriving DecidableEq, Repr

namespace ValueOption

/-- The long spelling of an option. -/
def name : ValueOption → String
  | input => "--input"
  | output => "--output"

/-- The option with this letter. -/
def ofLetter? : Char → Option ValueOption
  | 'i' => some input
  | 'o' => some output
  | _ => none

/-- The option with this name, its two dashes left out. -/
def ofName? (name : List Char) : Option ValueOption :=
  if name = "input".toList then some input
  else if name = "output".toList then some output
  else none

/-- The token of the option with this value, which must not be empty. -/
def withValue (option : ValueOption) (value : List Char) : Token :=
  if value.isEmpty then .fault (.emptyValue option.name)
  else
    match option with
    | input => .option (.input (String.ofList value))
    | output => .option (.output (String.ofList value))

end ValueOption

namespace Token

/-- The switch with this letter. -/
def ofLetter? : Char → Option Token
  | 'n' => some (.option .normalize)
  | 'v' => some (.option .verbose)
  | 'h' => some .help
  | 'V' => some .version
  | _ => none

/-- The switch with this name. -/
def ofName? (name : List Char) : Option Token :=
  if name = "normalize".toList then some (.option .normalize)
  else if name = "verbose".toList then some (.option .verbose)
  else if name = "help".toList then some .help
  else if name = "version".toList then some .version
  else none

/-- A value without the equals sign that may stand in front of it. -/
def dropEquals : List Char → List Char
  | '=' :: rest => rest
  | rest => rest

/-- The tokens of letters behind one dash, and the option at their end that lacks its value. The
rest of the argument behind an option that takes a value is that value. -/
def ofLetters : List Char → List Token × Option ValueOption
  | [] => ([], none)
  | letter :: rest =>
    match ofLetter? letter with
    | some token =>
      let (tokens, waiting) := ofLetters rest
      (token :: tokens, waiting)
    | none =>
      match ValueOption.ofLetter? letter with
      | some taker =>
        if rest.isEmpty then ([], some taker) else ([taker.withValue (dropEquals rest)], none)
      | none => ([.fault (.unknownOption (String.ofList ['-', letter]))], none)

/-- The token of a name behind two dashes, or the option that lacks its value. A value is separated
from the name by an equals sign. -/
def ofLongName (text : List Char) : List Token × Option ValueOption :=
  let name := text.takeWhile (· != '=')
  let shown := String.ofList ('-' :: '-' :: name)
  match text.dropWhile (· != '='), ofName? name, ValueOption.ofName? name with
  | [], some token, _ => ([token], none)
  | _ :: _, some _, _ => ([.fault (.unexpectedValue shown)], none)
  | [], none, some taker => ([], some taker)
  | _ :: value, none, some taker => ([taker.withValue value], none)
  | _, none, none => ([.fault (.unknownOption shown)], none)

/-- Whether an argument can only be options. -/
def looksLikeOption (arg : String) : Bool :=
  match arg.toList with
  | '-' :: _ :: _ => true
  | _ => false

/-- The tokens of one argument, and the option at its end that lacks its value. -/
def ofArgument (arg : String) : List Token × Option ValueOption :=
  match arg.toList with
  | '-' :: '-' :: name => ofLongName name
  | '-' :: letter :: letters => ofLetters (letter :: letters)
  | _ => ([.word arg], none)

/-- The tokens of the arguments behind an option that may still lack its value. -/
def ofArguments : Option ValueOption → List String → List Token
  | none, [] => []
  | some taker, [] => [.fault (.missingValue taker.name)]
  | some taker, arg :: rest =>
    if looksLikeOption arg then [.fault (.missingValue taker.name)]
    else taker.withValue arg.toList :: ofArguments none rest
  | none, arg :: rest =>
    if arg = "--" then .separator :: rest.map .word
    else (ofArgument arg).1 ++ ofArguments (ofArgument arg).2 rest

end Token

end StudentRoster
