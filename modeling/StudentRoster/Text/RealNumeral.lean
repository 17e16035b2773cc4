import StudentRoster.Text.Numeral

/-!
# Numerals of real numbers

A real number is spelled by an optional sign and a word (`inf`, `infinity` or `nan`, in any letter
case) or a decimal: digits with at most one point among, before or after them, and an optional
power of ten. The numeral gives the exact value; how far it can be kept is not decided here.
-/

set_option autoImplicit false

namespace StudentRoster.Text

/-- The number that a real numeral spells. -/
inductive RealNumeral where
  | infinity (negative : Bool)
  | nan (negative : Bool)
  /-- The number `digits * 10 ^ exponent`, with a sign. -/
  | decimal (negative : Bool) (digits : Nat) (exponent : Int)
  deriving DecidableEq, Repr

namespace RealNumeral

/-- The power of ten behind the digits of a decimal: nothing, or an `e` and a signed numeral. -/
def exponent? : List Char → Option Int
  | [] => some 0
  | c :: rest => if c = 'e' ∨ c = 'E' then integer? rest else none

/-- The digits after the point of a decimal, and what follows them. -/
def fractionDigits : List Char → List Char × List Char
  | '.' :: rest => (rest.takeWhile Char.isDigit, rest.dropWhile Char.isDigit)
  | rest => ([], rest)

/-- The exact value of a decimal without its sign, as digits times a power of ten. -/
def decimal? (text : List Char) : Option (Nat × Int) :=
  let whole := text.takeWhile Char.isDigit
  let (fraction, rest) := fractionDigits (text.dropWhile Char.isDigit)
  match natural? (whole ++ fraction), exponent? rest with
  | some digits, some exponent => some (digits, exponent - fraction.length)
  | _, _ => none

/-- The number that a text spells. -/
def ofText? (text : List Char) : Option RealNumeral :=
  let (negative, unsigned) := takeSign text
  let word := unsigned.map Char.toLower
  if word = "inf".toList ∨ word = "infinity".toList then some (.infinity negative)
  else if word = "nan".toList then some (.nan negative)
  else (decimal? unsigned).map fun (digits, exponent) => .decimal negative digits exponent

end RealNumeral

end StudentRoster.Text
