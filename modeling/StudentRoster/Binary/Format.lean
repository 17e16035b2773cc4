import StudentRoster.Binary.Rounding

/-!
# Binary interchange formats

A magnitude of a binary format is a pattern: the exponent field followed by the fraction field,
read as one number. Patterns grow with the values they denote, so that infinity is the pattern
after the greatest finite one and every larger pattern is a NaN. `units` is the value of a finite
pattern and `nearest` the pattern of an exact ratio; the work is done in natural numbers.
-/

set_option autoImplicit false

namespace StudentRoster.Binary

-- A power is the power of core, whatever else is in scope.
attribute [local instance (high)] instPowNat

/-- The widths of a format. -/
structure Format where
  /-- Bits of a significand, the leading one included. -/
  precision : Nat
  /-- The smallest positive value is `2 ^ -scale`. -/
  scale : Nat
  /-- The exponent field of infinity, all of whose bits are set. -/
  topExponent : Nat
  deriving Repr, DecidableEq

/-- Single precision, in 32 bits. -/
def single : Format := ⟨24, 149, 255⟩

/-- Double precision, in 64 bits. -/
def double : Format := ⟨53, 1074, 2047⟩

/-- The number of fraction patterns, which is also the smallest pattern of a normal value. -/
def Format.fractions (f : Format) : Nat := 2 ^ (f.precision - 1)

/-- The pattern of infinity. -/
def Format.infinity (f : Format) : Nat := f.topExponent * f.fractions

/-- The value of a finite pattern as a multiple of the smallest positive value. A pattern below
the normal ones counts these multiples itself. -/
def Format.units (f : Format) (pattern : Nat) : Nat :=
  if pattern < f.fractions then pattern
  else (f.fractions + pattern % f.fractions) * 2 ^ (pattern / f.fractions - 1)

/-- The pattern nearest to `num / den`, ties to the even pattern, and infinity from half a step
above the greatest finite value on. The ratio is scaled to units, `shift` is the number of low
bits that do not fit into a significand, and the rounded significand is added to the exponent
field, so that a carry moves on into it. -/
def Format.nearest (f : Format) (num den : Nat) : Nat :=
  let scaled := num * 2 ^ f.scale
  let shift := (scaled / den).log2 + 1 - f.precision
  min f.infinity (shift * f.fractions + roundDiv scaled (den * 2 ^ shift))

/-- The pattern nearest to `digits * 10 ^ exponent`. -/
def Format.nearestDecimal (f : Format) (digits : Nat) : Int → Nat
  | .ofNat n => f.nearest (digits * 10 ^ n) 1
  | .negSucc n => f.nearest digits (10 ^ (n + 1))

/-- An exponent moved to where it makes no difference any more: with a greater one every value but
zero is infinite, and with a smaller one every value rounds to zero. -/
def Format.boundExponent (f : Format) (digits : Nat) (exponent : Int) : Int :=
  max (-(digits.log2 + 1 + f.scale : Nat)) (min exponent f.topExponent)

/-- The pattern nearest to `digits * 10 ^ exponent`, computed without powers larger than the
format can tell apart. -/
def Format.ofDecimal (f : Format) (digits : Nat) (exponent : Int) : Nat :=
  f.nearestDecimal digits (f.boundExponent digits exponent)

/-- The product of two finite values, rounded once. -/
def Format.mul (f : Format) (a b : Nat) : Nat :=
  f.nearest (f.units a * f.units b) (2 ^ (2 * f.scale))

/-- The quotient of two finite values, rounded once. -/
def Format.div (f : Format) (a b : Nat) : Nat :=
  f.nearest (f.units a) (f.units b)

/-- No quotient is rounded beyond infinity. -/
theorem Format.nearest_le_infinity (f : Format) (num den : Nat) :
    f.nearest num den ≤ f.infinity :=
  Nat.min_le_left _ _

/-- No decimal is rounded beyond infinity. -/
theorem Format.ofDecimal_le_infinity (f : Format) (digits : Nat) (exponent : Int) :
    f.ofDecimal digits exponent ≤ f.infinity := by
  unfold Format.ofDecimal Format.nearestDecimal
  split <;> exact f.nearest_le_infinity _ _

end StudentRoster.Binary
