import StudentRoster.Report

/-!
# Notes on a terminal

A note is a line of its own. On a terminal that shows colors it stands between a style and the
reset, and a reset inside its text is followed by the style again, so that the rest keeps it.
-/

set_option autoImplicit false

namespace StudentRoster.Terminal

/-- The ways in which a line stands out. -/
inductive Style where
  | dim
  | green
  | yellow
  | red
  deriving DecidableEq, Repr

/-- The sequence that turns a style on. -/
def Style.start : Style → List Char
  | dim => "\x1b[2m".toList
  | green => "\x1b[32m".toList
  | yellow => "\x1b[33m".toList
  | red => "\x1b[31m".toList

/-- The sequence that turns every style off. -/
def reset : List Char := "\x1b[0m".toList

/-- A text in which each reset is followed by the style. -/
def restate (style : Style) : List Char → List Char
  | '\x1b' :: '[' :: '0' :: 'm' :: rest => reset ++ style.start ++ restate style rest
  | c :: rest => c :: restate style rest
  | [] => []

/-- A text in a style, on a terminal that shows colors. -/
def paint (color : Bool) (style : Style) (text : String) : String :=
  if color then String.ofList (style.start ++ restate style text.toList ++ reset) else text

/-- The style of a note among the results. -/
def resultStyle : NoteLevel → Style
  | .info => .dim
  | .success => .green
  | .warning => .yellow
  | .error => .red

/-- The style of a note on the loading of files, if it is shown. What went well is shown to those
who want to know more. -/
def loadStyle? (verbose : Bool) : NoteLevel → Option Style
  | .warning => some .yellow
  | .error => some .red
  | .info | .success => if verbose then some .dim else none

/-- The line of a note among the results. -/
def resultLine (color : Bool) (note : Note) : String :=
  paint color (resultStyle note.level) note.text ++ "\n"

/-- The line of a note on the loading of files, if it is shown. -/
def loadLine? (color verbose : Bool) (note : Note) : Option String :=
  (loadStyle? verbose note.level).map fun style => paint color style note.text ++ "\n"

end StudentRoster.Terminal
