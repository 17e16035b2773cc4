import StudentRoster.Pattern.Bracket
import StudentRoster.Text.Alphanumeric

/-!
# Patterns

A pattern is a regular expression: branches between bars, in each of them items one after the
other, and groups in brackets that hold patterns again. Nothing is matched here; what counts is
whether a text is a pattern at all, `Pattern.isWellFormed`. A closing brace never ends anything in
a pattern, since patterns stand in braces themselves, so that an opening one is refused.
-/

set_option autoImplicit false

namespace StudentRoster.Pattern

open Text

/-- An item of a branch. -/
inductive Item where
  /-- A change of the flags. -/
  | flags
  /-- Something that is matched, with its depth. -/
  | part (depth : Nat)
  deriving DecidableEq, Repr

/-- The depth of an item. -/
def Item.depth : Item → Nat
  | flags => 0
  | part depth => depth

/-- A group whose closing bracket has not been read yet, or the pattern itself. -/
structure OpenGroup where
  /-- The flags in front of the group, which hold again behind it. -/
  before : Flags
  /-- The depths of the branches in front of the last bar. -/
  branches : List Nat
  /-- The items behind that bar, the last first. -/
  items : List Item
  deriving DecidableEq, Repr

namespace OpenGroup

/-- A group of which only the opening bracket has been read. -/
def start (before : Flags) : OpenGroup := ⟨before, [], []⟩

/-- The group with one more item. -/
def add (group : OpenGroup) (item : Item) : OpenGroup :=
  { group with items := item :: group.items }

/-- The depth of the branch behind the last bar. -/
def branchDepth (group : OpenGroup) : Nat := depthOfParts (group.items.map Item.depth)

/-- The depth of what the group holds so far. -/
def depth (group : OpenGroup) : Nat := depthOfParts (group.branchDepth :: group.branches)

/-- The group behind one more bar. -/
def branch (group : OpenGroup) : OpenGroup :=
  { group with branches := group.branchDepth :: group.branches, items := [] }

/-- The group after its last item was repeated, which must be something that is matched. -/
def repeat? (group : OpenGroup) : Option OpenGroup :=
  match group.items with
  | .part depth :: items => some { group with items := .part (depth + 1) :: items }
  | _ => none

end OpenGroup

/-- How a bracket opens. -/
inductive Opening where
  /-- The brackets change flags for the rest of the group around them. -/
  | flags (flags : Flags)
  /-- The bracket opens a group with these flags, which may have a name. -/
  | group (flags : Flags) (name : Option (List Char))
  deriving DecidableEq, Repr

/-- Whether a text is the name of a group. -/
def isGroupName : List Char → Bool
  | [] => false
  | c :: rest =>
    (c == '_' || isAlphabetic c)
      && rest.all fun c => c == '_' || c == '.' || c == '[' || c == ']' || isAlphanumeric c

/-- Reads the name of a group and the angle behind it. -/
def readGroupName (flags : Flags) (text : List Char) : Option (Opening × List Char) :=
  let name := text.takeWhile (· != '>')
  match text.dropWhile (· != '>') with
  | _ :: rest => if isGroupName name then some (.group flags (some name), rest) else none
  | [] => none

/-- Reads what belongs to an opening bracket and stands behind it. -/
def readOpening (flags : Flags) : List Char → Option (Opening × List Char)
  | '?' :: 'P' :: '<' :: rest => readGroupName flags rest
  | '?' :: '<' :: rest => readGroupName flags rest
  | '?' :: rest =>
    match flags.read [] rest with
    | some (flags, ')' :: rest) => some (.flags flags, rest)
    | some (flags, _ :: rest) => some (.group flags none, rest)
    | _ => none
  | rest => some (.group flags none, rest)

/-- What is known about a pattern in front of a place in it. -/
structure Progress where
  flags : Flags
  /-- The names of groups. -/
  names : List (List Char)
  /-- The innermost group. -/
  group : OpenGroup
  /-- The groups around it, the innermost first. -/
  outer : List OpenGroup
  deriving DecidableEq, Repr

namespace Progress

/-- What is known in front of a pattern. -/
def start : Progress := ⟨.initial, [], .start .initial, []⟩

/-- What is known behind one more item. -/
def add (progress : Progress) (item : Item) : Progress :=
  { progress with group := progress.group.add item }

/-- What is known behind an opening bracket. No two groups have the same name. -/
def enter (progress : Progress) : Opening → Option Progress
  | .flags flags => some { progress.add .flags with flags := flags }
  | .group flags name =>
    if name.any progress.names.contains then none
    else
      some {
        flags := flags
        names := name.toList ++ progress.names
        group := .start progress.flags
        outer := progress.group :: progress.outer }

/-- What is known behind a closing bracket. -/
def leave (progress : Progress) : Option Progress :=
  match progress.outer with
  | [] => none
  | next :: outer =>
    some { progress with
      flags := progress.group.before
      group := next.add (.part (progress.group.depth + 1))
      outer := outer }

/-- Reads an atom outside of brackets. -/
def readAtom (flags : Flags) (c : Char) (rest : List Char) : Option (Atom × List Char) :=
  let read : Option (Atom × List Char) :=
    match c with
    | '\\' => readEscape flags rest
    | '.' => some (.any, rest)
    | '^' | '$' => some (.edge, rest)
    | _ => some (.character c, rest)
  read.filter fun (atom, _) => flags.allows atom

/-- Takes off the mark behind a repetition that makes it as short as possible. -/
def dropLazyMark : List Char → List Char
  | '?' :: rest => rest
  | rest => rest

/-- What is known behind the next item, bar or bracket, which begins with `c`. -/
def step (progress : Progress) (c : Char) (rest : List Char) : Option (Progress × List Char) :=
  match c with
  | '(' =>
    match readOpening progress.flags (progress.flags.skip rest) with
    | some (opening, rest) => (progress.enter opening).map fun progress => (progress, rest)
    | none => none
  | ')' => progress.leave.map fun progress => (progress, rest)
  | '|' => some ({ progress with group := progress.group.branch }, rest)
  | '[' =>
    (readClass progress.flags rest).map fun (depth, rest) => (progress.add (.part depth), rest)
  | '?' | '*' | '+' =>
    progress.group.repeat?.map fun group =>
      ({ progress with group := group }, dropLazyMark rest)
  | '{' => none
  | c => (readAtom progress.flags c rest).map fun (_, rest) => (progress.add (.part 0), rest)

/-- The depth of the pattern that ends with the text, if there is one. Every step takes a
character, so that one more than the length of the text is fuel enough. -/
def depth? : Nat → Progress → List Char → Option Nat
  | 0, _, _ => none
  | fuel + 1, progress, text =>
    match progress.flags.skip text with
    | [] => if progress.outer.isEmpty then some progress.group.depth else none
    | c :: rest =>
      match progress.step c rest with
      | some (progress, rest) => progress.depth? fuel rest
      | none => none

end Progress

/-- The greatest depth of a pattern. -/
def maxDepth : Nat := 250

/-- Whether a text is a pattern. -/
def isWellFormed (text : List Char) : Bool :=
  (Progress.start.depth? (text.length + 1) text).any (· ≤ maxDepth)

end StudentRoster.Pattern
