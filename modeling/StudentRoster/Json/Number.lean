import StudentRoster.Json.Scan
import StudentRoster.Binary.Shortest
import StudentRoster.Text.Numeral

/-!
# JSON numbers

A number is read as its parts. Its value matters only where a number stands in the place of
something else and the fault names it: a whole number that fits 64 bits, or else a value of double
precision, computed from a significand of 64 bits and one power of ten and shown by its shortest
digits.
-/

set_option autoImplicit false

namespace StudentRoster.Json

open Binary Text

-- A power is the power of core, whatever else is in scope.
attribute [local instance (high)] instPowNat

/-- The parts of a number. The fraction is empty when there is no point. -/
structure Number where
  negative : Bool
  whole : List Char
  fraction : List Char
  /-- Whether the exponent has a minus, and its digits. -/
  exponent : Option (Bool × List Char)
  deriving DecidableEq, Repr

/-- The fault of a number in which a digit is missing in front of this text. -/
def missingDigit (atEnd : Cause) : List Char → Fault
  | [] => .before atEnd []
  | rest => .behind .badNumber rest

/-- Reads the point of a number and the digits behind it. -/
def readFraction (atEnd : Cause) : List Char → Except Fault (List Char × List Char)
  | '.' :: rest =>
    if (rest.takeWhile Char.isDigit).isEmpty then .error (missingDigit atEnd rest)
    else .ok (rest.takeWhile Char.isDigit, rest.dropWhile Char.isDigit)
  | rest => .ok ([], rest)

/-- Reads the exponent of a number. -/
def readExponent (atEnd : Cause) : List Char → Except Fault (Option (Bool × List Char) × List Char)
  | [] => .ok (none, [])
  | c :: rest =>
    if c = 'e' ∨ c = 'E' then
      let (negative, digits) := takeSign rest
      if (digits.takeWhile Char.isDigit).isEmpty then .error (missingDigit atEnd digits)
      else
        .ok (some (negative, digits.takeWhile Char.isDigit), digits.dropWhile Char.isDigit)
    else .ok (none, c :: rest)

/-- Reads a number, its minus left behind. `atEnd` is the fault of a text that ends where a digit
is needed. -/
def readNumber (atEnd : Cause) (negative : Bool) (text : List Char) :
    Except Fault (Number × List Char) :=
  match text.takeWhile Char.isDigit with
  | [] => .error (missingDigit atEnd text)
  | '0' :: _ :: _ => .error (.behind .badNumber text.tail)
  | whole =>
    match readFraction atEnd (text.dropWhile Char.isDigit) with
    | .error e => .error e
    | .ok (fraction, rest) =>
      match readExponent atEnd rest with
      | .error e => .error e
      | .ok (exponent, rest) => .ok (⟨negative, whole, fraction, exponent⟩, rest)

/-- The value of a number. -/
inductive NumberValue where
  | integer (n : Int)
  /-- A finite value of double precision by its sign and its pattern. -/
  | real (negative : Bool) (pattern : Nat)
  deriving DecidableEq, Repr

/-- Appends digits to a significand while it fits 64 bits, and counts the digits left. -/
def appendDigits (significand : Nat) : List Char → Nat × Nat
  | [] => (significand, 0)
  | digit :: digits =>
    let next := significand * 10 + (digit.toNat - '0'.toNat)
    if next < UInt64.size then appendDigits next digits else (significand, digits.length + 1)

/-- The number that the digits of an exponent denote, or the number of digits left behind the one
that makes it too large for 32 bits. -/
def exponentValue (value : Nat) : List Char → Except Nat Nat
  | [] => .ok value
  | digit :: digits =>
    let next := value * 10 + (digit.toNat - '0'.toNat)
    if next < 0x80000000 then exponentValue next digits else .error digits.length

/-- The greatest power of ten of double precision. -/
def maxTenPower : Nat := 308

/-- A power of ten in double precision. -/
def tenPower (n : Nat) : Nat := double.nearest (10 ^ n) 1

/-- A value times a power of ten, or nothing when it is too large. Every step is rounded, and a
power of ten that is too small for the format takes several steps. -/
def timesTenPower (pattern : Nat) (exponent : Int) : Option Nat :=
  if exponent < -maxTenPower then
    if pattern = 0 then some 0
    else timesTenPower (double.div pattern (tenPower maxTenPower)) (exponent + maxTenPower)
  else if exponent < 0 then some (double.div pattern (tenPower (-exponent).toNat))
  else if exponent ≤ maxTenPower then
    let product := double.mul pattern (tenPower exponent.toNat)
    if product = double.infinity then none else some product
  else if pattern = 0 then some 0
  else none
termination_by (-exponent).toNat
decreasing_by
  simp only [maxTenPower] at *
  omega

/-- The value of a number, or the number of its last digits that were not looked at when it turned
out to be too large. -/
def Number.value (number : Number) : Except Nat NumberValue :=
  let (significand, dropped) := appendDigits 0 number.whole
  if number.fraction.isEmpty && number.exponent.isNone && dropped == 0 then
    if !number.negative then .ok (.integer significand)
    else if 0 < significand ∧ significand ≤ 0x8000000000000000 then
      .ok (.integer (-(significand : Int)))
    else .ok (.real true (double.nearest significand 1))
  else
    let (significand, unused) := appendDigits significand number.fraction
    let exponent : Int := dropped - (number.fraction.length - unused : Nat)
    let scaled (exponent : Int) : Except Nat NumberValue :=
      match timesTenPower (double.nearest significand 1) exponent with
      | some pattern => .ok (.real number.negative pattern)
      | none => .error 0
    match number.exponent with
    | none => scaled exponent
    | some (minus, digits) =>
      match exponentValue 0 digits with
      | .ok n => scaled (if minus then exponent - n else exponent + n)
      | .error left =>
        if significand = 0 ∨ minus then .ok (.real number.negative 0) else .error left

/-- A number with its sign, also when it is not negative. -/
def signedDigits (n : Int) : List Char :=
  (if 0 ≤ n then ['+'] else []) ++ integerDigits n

/-- A positive decimal with a point: positional from five places behind the point to sixteen before
it, and otherwise with one digit before the point and a power of ten, whose sign is always there. -/
def decimalText (digits : List Char) (grid : Int) : List Char :=
  let top := grid + digits.length
  if 0 ≤ grid ∧ top ≤ 16 then
    digits ++ List.replicate grid.toNat '0' ++ ['.', '0']
  else if 0 < top ∧ top ≤ 16 then digits.take top.toNat ++ '.' :: digits.drop top.toNat
  else if -5 < top ∧ top ≤ 0 then '0' :: '.' :: List.replicate (-top).toNat '0' ++ digits
  else
    digits.take 1 ++ (if digits.length = 1 then [] else '.' :: digits.drop 1)
      ++ 'e' :: signedDigits (top - 1)

/-- How a fault names the value of a number. -/
def NumberValue.description : NumberValue → String
  | .integer n => "integer `" ++ String.ofList (integerDigits n) ++ "`"
  | .real negative pattern =>
    let text :=
      if pattern = 0 then "0.0".toList
      else decimalText (double.shortest pattern).1 (double.shortest pattern).2
    "floating point `" ++ String.ofList (if negative then '-' :: text else text) ++ "`"

/-- A fraction, which may be missing, leaves no more text. -/
theorem length_of_readFraction {atEnd : Cause} {text fraction rest : List Char}
    (h : readFraction atEnd text = .ok (fraction, rest)) : rest.length ≤ text.length := by
  unfold readFraction at h
  split at h
  · split at h
    · cases h
    · cases h
      exact Nat.le_succ_of_le (List.dropWhile_sublist _).length_le
  · cases h
    exact Nat.le_refl _

/-- A sign, which may be missing, leaves no more text. -/
theorem length_takeSign_le (text : List Char) : (takeSign text).2.length ≤ text.length := by
  unfold takeSign
  split <;> simp

/-- An exponent, which may be missing, leaves no more text. -/
theorem length_of_readExponent {atEnd : Cause} {text rest : List Char}
    {exponent : Option (Bool × List Char)} (h : readExponent atEnd text = .ok (exponent, rest)) :
    rest.length ≤ text.length := by
  unfold readExponent at h
  split at h
  · cases h
    exact Nat.le_refl _
  · next c tail =>
    split at h
    · simp only at h
      split at h
      · cases h
      · cases h
        have := length_takeSign_le tail
        have := (List.dropWhile_sublist (l := (takeSign tail).2) Char.isDigit).length_le
        simp only [List.length_cons]
        omega
    · cases h
      exact Nat.le_refl _

/-- A number has at least one character. -/
theorem length_of_readNumber {atEnd : Cause} {negative : Bool} {text rest : List Char}
    {number : Number} (h : readNumber atEnd negative text = .ok (number, rest)) :
    rest.length < text.length := by
  unfold readNumber at h
  have hcut :=
    congrArg List.length (List.takeWhile_append_dropWhile (p := Char.isDigit) (l := text))
  simp only [List.length_append] at hcut
  split at h
  · cases h
  · cases h
  · next hne _ =>
    have hpos : 0 < (text.takeWhile Char.isDigit).length :=
      List.length_pos_iff.2 (by simpa using hne)
    split at h
    · cases h
    · next hfraction =>
      have := length_of_readFraction hfraction
      split at h
      · cases h
      · next hexponent =>
        have := length_of_readExponent hexponent
        cases h
        omega

end StudentRoster.Json
