import StudentRoster.Pattern.Flags
import StudentRoster.Text.Numeral

/-!
# Atoms of patterns

An atom is what one character of a pattern stands for, or one escape: a backslash and what belongs
to it. Classes of characters beyond ASCII, the boundaries of words in them and letters without
their case would need tables that are not at hand, and bytes that belong to no character are
nothing to look for in a text; `Flags.allows` refuses both.
-/

set_option autoImplicit false

namespace StudentRoster.Pattern

open Text

/-- What a character or an escape stands for. -/
inductive Atom where
  /-- A character that stands for itself. -/
  | character (c : Char)
  /-- Any character but the end of a line. -/
  | any
  /-- A digit, a blank or a letter of a word, or everything else. -/
  | shorthand (negated : Bool)
  /-- The beginning or the end of a line or of the text. -/
  | edge
  /-- A place between a word and what is no word, or every other place. -/
  | boundary
  deriving DecidableEq, Repr

/-- The escapes by a letter or an angle. -/
def escapes : List (Char × Atom) :=
  [('a', .character '\x07'), ('f', .character '\x0c'), ('t', .character '\t'),
    ('n', .character '\n'), ('r', .character '\r'), ('v', .character '\x0b'),
    ('d', .shorthand false), ('s', .shorthand false), ('w', .shorthand false),
    ('D', .shorthand true), ('S', .shorthand true), ('W', .shorthand true),
    ('A', .edge), ('z', .edge),
    ('b', .boundary), ('B', .boundary), ('<', .boundary), ('>', .boundary)]

/-- The atom of a backslash and one character: an escape of the list, or any other sign of ASCII
for itself. -/
def escape? (c : Char) : Option Atom :=
  match escapes.lookup c with
  | some atom => some atom
  | none => if c.toNat < 0x80 && !c.isAlphanum then some (.character c) else none

/-- The number of hexadecimal digits in an escape by a code point. -/
def codeLength? : Char → Option Nat
  | 'x' => some 2
  | 'u' => some 4
  | 'U' => some 8
  | _ => none

/-- Reads the given number of hexadecimal digits behind the value of those in front of them. -/
def readCode (flags : Flags) (value : Nat) : Nat → List Char → Option (Nat × List Char)
  | 0, rest => some (value, rest)
  | count + 1, text =>
    match flags.skip text with
    | [] => none
    | c :: rest =>
      match hexDigit? c with
      | some digit => readCode flags (value * 16 + digit) count rest
      | none => none

/-- Reads an escape, its backslash left behind. Where a pattern is about bytes, two digits that
denote none of ASCII are refused. -/
def readEscape (flags : Flags) : List Char → Option (Atom × List Char)
  | [] => none
  | c :: rest =>
    match codeLength? c with
    | none => (escape? c).map fun atom => (atom, rest)
    | some count =>
      match readCode flags 0 count rest with
      | none => none
      | some (code, rest) =>
        if !code.isValidChar || (c == 'x' && !flags.unicode && 0x80 ≤ code) then none
        else some (.character (Char.ofNat code), rest)

/-- Whether an atom may stand in a pattern under these flags. -/
def Flags.allows (flags : Flags) : Atom → Bool
  | .character _ => !flags.foldsBeyondAscii
  | .any => flags.unicode
  | .shorthand negated => !flags.unicode && !negated
  | .edge => true
  | .boundary => !flags.unicode

end StudentRoster.Pattern
