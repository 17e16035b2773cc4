import StudentRoster.Text.Bytes

/-!
# What is wrong with a JSON text

A fault is a cause and a place. While a text is read the place is kept as the number of bytes that
are left behind it, which no reader has to count forward; `Fault.locate` turns it into a line and a
column of the whole text.
-/

set_option autoImplicit false

namespace StudentRoster.Json

open Text (byteCount)

/-- Why a text is not what its reader wants. -/
inductive Cause where
  | endInValue
  | endInList
  | endInObject
  | endInString
  | noValue
  | noKeyword
  | noColon
  | noCommaOrBracket
  | noCommaOrBrace
  | keyNotString
  | controlInString
  | badEscape
  | badNumber
  | numberOutOfRange
  /-- A surrogate that has no partner of the other kind. -/
  | loneSurrogate
  /-- A leading surrogate behind which no escape of a code point starts. -/
  | surrogateCut
  | trailingComma
  | trailingCharacters
  /-- A value of another kind than the one expected. -/
  | wrongType (found expected : String)
  /-- A name that is not one of the two casings. -/
  | unknownCasing (name : String)
  | duplicateField (name : String)
  deriving DecidableEq, Repr

/-- The wording of a cause, without its place. -/
def Cause.message : Cause → String
  | .endInValue => "EOF while parsing a value"
  | .endInList => "EOF while parsing a list"
  | .endInObject => "EOF while parsing an object"
  | .endInString => "EOF while parsing a string"
  | .noValue => "expected value"
  | .noKeyword => "expected ident"
  | .noColon => "expected `:`"
  | .noCommaOrBracket => "expected `,` or `]`"
  | .noCommaOrBrace => "expected `,` or `\x7d`"
  | .keyNotString => "key must be a string"
  | .controlInString =>
    "control character (\\u0000-\\u001F) found while parsing a string"
  | .badEscape => "invalid escape"
  | .badNumber => "invalid number"
  | .numberOutOfRange => "number out of range"
  | .loneSurrogate => "lone leading surrogate in hex escape"
  | .surrogateCut => "unexpected end of hex escape"
  | .trailingComma => "trailing comma"
  | .trailingCharacters => "trailing characters"
  | .wrongType found expected => "invalid type: " ++ found ++ ", expected " ++ expected
  | .unknownCasing name =>
    "unknown variant `" ++ name ++ "`, expected `legacy` or `title`"
  | .duplicateField name => "duplicate field `" ++ name ++ "`"

/-- A cause and the number of bytes left behind the place where it was noticed. -/
structure Fault where
  cause : Cause
  left : Nat
  deriving DecidableEq, Repr

/-- A fault in front of the rest of the text. -/
def Fault.before (cause : Cause) (rest : List Char) : Fault :=
  ⟨cause, byteCount rest⟩

/-- A fault behind the first byte of the rest of the text, or at its end when nothing is left. -/
def Fault.behind (cause : Cause) (rest : List Char) : Fault :=
  ⟨cause, byteCount rest - 1⟩

/-- A cause with its place in the whole text: the line, counted from 1, and the number of bytes of
that line in front of the place. -/
structure LocatedFault where
  cause : Cause
  line : Nat
  column : Nat
  deriving DecidableEq, Repr

/-- The place of a fault in the text in which it was found. -/
def Fault.locate (fault : Fault) (text : String) : LocatedFault :=
  let bytes := text.toUTF8.data.toList
  let before := bytes.take (bytes.length - fault.left)
  { cause := fault.cause
    line := before.count 10 + 1
    column := (before.reverse.takeWhile (· != 10)).length }

/-- The wording of a fault with its place. -/
def LocatedFault.message (fault : LocatedFault) : String :=
  fault.cause.message ++ s!" at line {fault.line} column {fault.column}"

end StudentRoster.Json

namespace StudentRoster

/-- A result that was mapped came from one before. -/
theorem map_eq_ok_iff {ε α β : Type} {x : Except ε α} {f : α → β} {b : β} :
    x.map f = .ok b ↔ ∃ a, x = .ok a ∧ f a = b := by
  cases x with
  | error e => simp [Except.map]
  | ok a => simp [Except.map]

end StudentRoster
