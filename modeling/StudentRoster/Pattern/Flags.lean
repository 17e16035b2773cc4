import StudentRoster.Text.Blank

/-!
# Flags of patterns

A pattern can set flags for what follows in it. They are written as letters, and a minus in front
of letters takes their flags away. Three of the flags decide what a pattern may hold and are kept;
the other letters are read and change nothing here.
-/

set_option autoImplicit false

namespace StudentRoster.Pattern

open Text

/-- How a part of a pattern is read. -/
structure Flags where
  /-- A letter stands for itself in either case. -/
  ignoreCase : Bool
  /-- A pattern is about characters, and not about bytes. -/
  unicode : Bool
  /-- Blanks and remarks between the items of a pattern mean nothing. -/
  spaced : Bool
  deriving DecidableEq, Repr

namespace Flags

/-- The flags in front of a pattern. -/
def initial : Flags := ⟨false, true, false⟩

/-- The letters of the flags. -/
def letters : List Char := ['i', 'm', 's', 'U', 'u', 'R', 'x']

/-- The flags after one of them was set or taken away. -/
def set (flags : Flags) (value : Bool) : Char → Flags
  | 'i' => { flags with ignoreCase := value }
  | 'u' => { flags with unicode := value }
  | 'x' => { flags with spaced := value }
  | _ => flags

/-- Reads letters of flags and at most one minus, none of them twice, up to a colon or a closing
bracket, which is left in the text. What was read before is `seen`, the last first. A minus has
letters behind it, and brackets around nothing are refused. -/
def read (flags : Flags) (seen : List Char) : List Char → Option (Flags × List Char)
  | [] => none
  | c :: rest =>
    if c == ':' || c == ')' then
      if seen.head? == some '-' || (c == ')' && seen.isEmpty) then none
      else some (flags, c :: rest)
    else if seen.contains c || !(c == '-' || letters.contains c) then none
    else read (flags.set (!seen.contains '-') c) (c :: seen) rest

/-- The text behind the blanks and remarks at its front. A remark goes from a number sign to the
end of its line; `inRemark` tells that the text begins inside of one. -/
def skipRemarks (inRemark : Bool) : List Char → List Char
  | [] => []
  | c :: rest =>
    if inRemark then skipRemarks (c != '\n') rest
    else if isBlank c then skipRemarks false rest
    else if c == '#' then skipRemarks true rest
    else c :: rest

/-- The text behind what means nothing at its front. -/
def skip (flags : Flags) (text : List Char) : List Char :=
  if flags.spaced then skipRemarks false text else text

/-- The next character that means something, where the inside of a remark counts too. -/
def peek (flags : Flags) (text : List Char) : Option Char :=
  if flags.spaced then
    match text.dropWhile isBlank with
    | '#' :: rest => (rest.dropWhile isBlank).head?
    | rest => rest.head?
  else text.head?

/-- Whether the case of letters beyond ASCII would have to be ignored, for which no table is at
hand. -/
def foldsBeyondAscii (flags : Flags) : Bool := flags.ignoreCase && flags.unicode

end Flags

end StudentRoster.Pattern
