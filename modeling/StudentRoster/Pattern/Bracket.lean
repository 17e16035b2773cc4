import StudentRoster.Pattern.Atom

/-!
# Classes in brackets

A class lists characters, ranges, named classes and further classes in brackets, and joins such
lists by the operations `&&`, `--` and `~~`. Reading one gives how deeply it is nested, and the
text behind it.
-/

set_option autoImplicit false

namespace StudentRoster.Pattern

open Text

/-- The depth of parts that stand side by side: a single part is no deeper for it. -/
def depthOfParts : List Nat → Nat
  | [] => 0
  | [depth] => depth
  | depths => depths.foldl max 0 + 1

/-- A class whose closing bracket has not been read yet. -/
structure OpenClass where
  /-- Whether nothing but hyphens has been read. -/
  leading : Bool
  /-- The depth of what stands in front of the last operation, if there is one. -/
  left : Option Nat
  /-- The depths of the items behind that operation. -/
  items : List Nat
  deriving DecidableEq, Repr

namespace OpenClass

/-- A class of which only the opening bracket has been read. -/
def start : OpenClass := ⟨true, none, []⟩

/-- The class with one more item of the given depth. -/
def add (cls : OpenClass) (depth : Nat) : OpenClass :=
  { cls with items := depth :: cls.items }

/-- The depth of what the class holds so far. -/
def depth (cls : OpenClass) : Nat :=
  match cls.left with
  | none => depthOfParts cls.items
  | some left => max left (depthOfParts cls.items) + 1

/-- The class in front of the right side of an operation. -/
def operate (cls : OpenClass) : OpenClass := ⟨false, some cls.depth, []⟩

end OpenClass

/-- The names of classes. -/
def classNames : List String :=
  ["alnum", "alpha", "ascii", "blank", "cntrl", "digit", "graph", "lower", "print", "punct",
    "space", "upper", "word", "xdigit"]

/-- Takes the mark off a class that stands for what it does not list. -/
def takeNegation : List Char → Bool × List Char
  | '^' :: rest => (true, rest)
  | rest => (false, rest)

/-- Reads a named class, its opening bracket left behind: whether it is negated, and the rest. -/
def readNamedClass : List Char → Option (Bool × List Char)
  | ':' :: rest =>
    let (negated, rest) := takeNegation rest
    match rest.dropWhile (· != ':') with
    | ':' :: ']' :: behind =>
      if classNames.contains (String.ofList (rest.takeWhile (· != ':'))) then
        some (negated, behind)
      else none
    | _ => none
  | _ => none

/-- Whether what the class stands for is a set of characters: the other bytes are no characters. -/
def Flags.allowsNegation (flags : Flags) (negated : Bool) : Bool := flags.unicode || !negated

/-- Whether an atom may be listed in a class. -/
def Flags.allowsInClass (flags : Flags) : Atom → Bool
  | .character c => flags.allows (.character c) && (flags.unicode || c.toNat < 0x80)
  | .shorthand negated => flags.allows (.shorthand negated)
  | _ => false

/-- Reads an atom of a class. -/
def readClassAtom (flags : Flags) (text : List Char) : Option (Atom × List Char) :=
  let read : Option (Atom × List Char) :=
    match text with
    | [] => none
    | '\\' :: rest => readEscape flags rest
    | c :: rest => some (.character c, rest)
  read.filter fun (atom, _) => flags.allowsInClass atom

/-- Reads an atom of a class or a range between two characters, the lesser one first. A hyphen
makes no range in front of a closing bracket or of another hyphen. -/
def readRange (flags : Flags) (text : List Char) : Option (List Char) :=
  match readClassAtom flags text with
  | none => none
  | some (first, rest) =>
    match flags.skip rest with
    | '-' :: behind =>
      if flags.peek behind == some ']' || flags.peek behind == some '-' then some ('-' :: behind)
      else
        match first, readClassAtom flags (flags.skip behind) with
        | .character low, some (.character high, rest) => if low ≤ high then some rest else none
        | _, _ => none
    | rest => some rest

/-- Reads the rest of a class, where `outer` holds the classes around it, the innermost first. A
closing bracket in front of all items stands for itself, as the hyphens there do. -/
def readItems (flags : Flags) :
    Nat → OpenClass → List OpenClass → List Char → Option (Nat × List Char)
  | 0, _, _, _ => none
  | fuel + 1, cls, outer, text =>
    match flags.skip text with
    | [] => none
    | c :: rest =>
      if cls.leading && (c == '-' || (c == ']' && cls.items.isEmpty)) then
        if flags.allowsInClass (.character c) then
          readItems flags fuel { cls.add 0 with leading := c == '-' } outer rest
        else none
      else if c == ']' then
        match outer with
        | [] => some (cls.depth + 1, rest)
        | next :: outer => readItems flags fuel (next.add (cls.depth + 1)) outer rest
      else if (c == '&' || c == '-' || c == '~') && rest.head? == some c then
        readItems flags fuel cls.operate outer rest.tail
      else if c == '[' then
        match readNamedClass rest with
        | some (negated, rest) =>
          if flags.allowsNegation negated && !flags.foldsBeyondAscii then
            readItems flags fuel { cls.add 0 with leading := false } outer rest
          else none
        | none =>
          let (negated, rest) := takeNegation (flags.skip rest)
          if flags.allowsNegation negated then
            readItems flags fuel .start ({ cls with leading := false } :: outer) rest
          else none
      else
        match readRange flags (c :: rest) with
        | some rest => readItems flags fuel { cls.add 0 with leading := false } outer rest
        | none => none

/-- Reads a class, its opening bracket left behind: its depth, and the rest. Every item takes a
character, so that the length of the text is fuel enough. -/
def readClass (flags : Flags) (text : List Char) : Option (Nat × List Char) :=
  let (negated, rest) := takeNegation (flags.skip text)
  if flags.allowsNegation negated then readItems flags (rest.length + 1) .start [] rest else none

end StudentRoster.Pattern
