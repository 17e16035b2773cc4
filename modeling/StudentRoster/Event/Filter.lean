import StudentRoster.Event
import StudentRoster.Pattern
import StudentRoster.Text.Bytes
import StudentRoster.Text.RealNumeral

/-!
# Filters of events

A filter is a text of directives between commas. A directive sets the least level that passes, for
all events, for those of the targets that begin with a name, or for those that have a field; for an
event the most specific of them decides. A text that is no filter is replaced by a default, which
depends on whether the user asked for details.
-/

set_option autoImplicit false

namespace StudentRoster

open Text

/-- One rule of a filter. -/
structure Directive where
  /-- The beginning of the targets it is about. -/
  target : String
  /-- Whether it is about spans of work. This program has none, so that it chooses nothing. -/
  aboutSpans : Bool
  /-- A field that an event must have. -/
  field : Option String
  /-- The least level that passes, if any does. -/
  least : Option EventLevel
  deriving DecidableEq, Repr

namespace Directive

/-- The levels by the names that a directive may use; nothing passes `off`. -/
def levelNames : List (String × Option EventLevel) :=
  [("off", none), ("error", some .error), ("warn", some .warn), ("info", some .info),
    ("debug", some .debug), ("trace", some .trace)]

/-- The levels by the numbers that a directive may use, from zero on. -/
def levelNumbers : List (Option EventLevel) := levelNames.map Prod.snd

/-- A number without the plus that may stand in front of it. -/
def dropPlus : List Char → List Char
  | '+' :: rest => rest
  | rest => rest

/-- The level that a word names, in any letter case, or that it gives by a number. -/
def level? (word : List Char) : Option (Option EventLevel) :=
  match natural? (dropPlus word) with
  | some n => levelNumbers[n]?
  | none => levelNames.lookup (String.ofList (word.map Char.toLower))

/-- The text of a directive. The parts of a directive are found in the text without the blanks at
its ends, but they are cut out of the whole text at the same places, so that blanks in front of a
directive shift them all. -/
structure Source where
  whole : List Char
  /-- The whole text without the blanks at its ends. -/
  trimmed : List Char
  deriving DecidableEq, Repr

namespace Source

/-- The text of a directive with the blanks around it. -/
def ofText (text : List Char) : Source := ⟨text, trim text⟩

/-- The place in front of a rest of the trimmed text, in bytes. -/
def place (source : Source) (rest : List Char) : Nat :=
  byteCount source.trimmed - byteCount rest

/-- The whole text from the front of a rest of the trimmed text on. -/
def since (source : Source) (rest : List Char) : List Char :=
  dropBytes (source.place rest) source.whole

/-- The whole text from the front of one rest of the trimmed text to the front of a shorter one. -/
def between (source : Source) (rest shorter : List Char) : List Char :=
  cutBytes (source.place rest) (source.place shorter) source.whole

end Source

/-- The level that is set by the word behind an equals sign. No word lets everything pass. -/
def levelOfWord? (word : List Char) : Option (Option EventLevel) :=
  if word.isEmpty then some (some .trace) else level? word

/-- The level that is set by what stands behind a closing bracket. Nothing lets everything pass. -/
def levelBehindBracket? (source : Source) : List Char → Option (Option EventLevel)
  | [] => some (some .trace)
  | '=' :: rest => levelOfWord? (source.since rest)
  | _ => none

/-- Whether a character ends the name of a span. -/
def endsSpanName (c : Char) : Bool := c == ']' || c == '{'

/-- Whether the text of a field can be read: it is not empty, and the value behind its equals sign,
if it has one, is a number or a pattern. A second equals sign ends the value. -/
def isField (field : List Char) : Bool :=
  !field.isEmpty &&
    match field.dropWhile (· != '=') with
    | [] => true
    | _ :: rest =>
      let value := rest.takeWhile (· != '=')
      (RealNumeral.ofText? value).isSome || Pattern.isWellFormed value

/-- The directive about a span or a field, its opening bracket left behind. A span has a name, or a
field with a value in braces; braces with a bare field and no name in front are about events. -/
def ofBracket? (source : Source) (target : String) (text : List Char) : Option Directive :=
  match text.dropWhile fun c => !endsSpanName c with
  | ']' :: rest =>
    (levelBehindBracket? source rest).map fun least => ⟨target, true, none, least⟩
  | '{' :: inside =>
    match inside.dropWhile (· != '}') with
    | '}' :: ']' :: rest =>
      let field := source.between inside ('}' :: ']' :: rest)
      if isField field then
        (levelBehindBracket? source rest).map fun least =>
          { target := target
            aboutSpans := text.head? != some '{' || field.contains '='
            field := some (String.ofList field)
            least := least }
      else none
    | _ => none
  | _ => none

/-- Whether a character may be the first one of a target. -/
def startsTarget (c : Char) : Bool :=
  isAlphanumeric c || c == '-' || c == ':' || c == '_'

/-- Whether a character ends a target. -/
def endsTarget (c : Char) : Bool := c == '=' || c == '['

/-- The directive that sets a level for all events. -/
def everything (least : Option EventLevel) : Directive := ⟨"", false, none, least⟩

/-- The directive of a text: a level for everything, or a target, which may be followed by brackets
and by the level behind an equals sign. A target without a level lets all its events pass. -/
def ofText? (text : List Char) : Option Directive :=
  let source := Source.ofText text
  let rest := source.trimmed.dropWhile fun c => !endsTarget c
  let target := String.ofList (source.between source.trimmed rest)
  if !source.trimmed.head?.any fun c => c == '[' || startsTarget c then none
  else
    match rest with
    | [] =>
      match level? text with
      | some least => some (everything least)
      | none => some ⟨String.ofList text, false, none, some .trace⟩
    | '[' :: rest => ofBracket? source target rest
    | _ :: rest =>
      (levelOfWord? (source.since rest)).map fun least => ⟨target, false, none, least⟩

/-- Whether the directive is about this event. -/
def covers (directive : Directive) (event : Event) : Bool :=
  !directive.aboutSpans && directive.target.toList.isPrefixOf event.target.toList
    && directive.field.all event.fieldNames.contains

/-- Whether a field makes a directive less specific than another, or as specific. -/
def fieldLe : Option String → Option String → Bool
  | none, _ => true
  | some _, none => false
  | some a, some b => a ≤ b

/-- Whether a directive is no more specific than another about the same event: the longer target
counts first, then a field, and of two fields the later one in the order of texts. -/
def specificityLe (a b : Directive) : Bool :=
  a.target.length < b.target.length
    || (a.target.length == b.target.length && fieldLe a.field b.field)

end Directive

/-- The rules that choose events. -/
structure Event.Filter where
  directives : List Directive
  deriving DecidableEq, Repr

namespace Event.Filter

/-- The filter of a text. The empty text lets errors pass and nothing else. -/
def ofText? (text : String) : Option Event.Filter :=
  let parts := (text.toList.splitOn ',').filter (fun part => !part.isEmpty)
  if parts.isEmpty then some ⟨[.everything (some .error)]⟩
  else (parts.mapM Directive.ofText?).map fun directives => ⟨directives⟩

/-- The text of the filter that holds when the user gives none that can be read. -/
def defaultText (verbose : Bool) : String :=
  if verbose then "roster=debug" else "roster=warn"

/-- The filter that the user asked for, or the default one. -/
def choose (text : Option String) (verbose : Bool) : Event.Filter :=
  match text.bind ofText? with
  | some filter => filter
  | none => (ofText? (defaultText verbose)).getD ⟨[]⟩

/-- The more specific of two directives; of two that are equally specific the later one counts. -/
def moreSpecific (best : Option Directive) (directive : Directive) : Option Directive :=
  match best with
  | none => some directive
  | some held => if held.specificityLe directive then some directive else some held

/-- Whether an event passes: by the most specific directive that covers it. -/
def passes (filter : Event.Filter) (event : Event) : Bool :=
  match (filter.directives.filter (·.covers event)).foldl moreSpecific none with
  | none => false
  | some directive =>
    match directive.least with
    | none => false
    | some least => least.rank ≤ event.level.rank

end Event.Filter

end StudentRoster
