import StudentRoster.Binary.Format

/-!
# The shortest decimal that reads back

A finite value is shown by the fewest digits that name it and no other value of its format, and by
the nearest to it among those. On each decimal grid only the two neighbours of the value can read
back to it, so the grids are tried from the coarsest on and the nearer neighbour first.
-/

set_option autoImplicit false

namespace StudentRoster.Binary

-- A power is the power of core, whatever else is in scope.
attribute [local instance (high)] instPowNat

/-- How many places the point of a positive value stands behind its first digit that is not zero:
the value is below `10 ^ k` and not below `10 ^ (k - 1)`. -/
def Format.magnitude (f : Format) (pattern : Nat) : Int :=
  let units := f.units pattern
  let one := 2 ^ f.scale
  if one ≤ units then (Nat.toDigits 10 (units / one)).length
  else
    match (List.range f.scale).find? fun k => one ≤ units * 10 ^ (k + 1) with
    | some k => -(k : Int)
    | none => -(f.scale : Int)

/-- The value in multiples of `10 ^ grid`, as a ratio. -/
def Format.onGrid (f : Format) (pattern : Nat) : Int → Nat × Nat
  | .ofNat n => (f.units pattern, 2 ^ f.scale * 10 ^ n)
  | .negSucc n => (f.units pattern * 10 ^ (n + 1), 2 ^ f.scale)

/-- The point of the grid of multiples of `10 ^ grid` that reads back, the nearer one if both
neighbours do. -/
def Format.readsBackOn? (f : Format) (pattern : Nat) (grid : Int) : Option Nat :=
  let (num, den) := f.onGrid pattern grid
  let below := num / den
  let nearer := roundDiv num den
  let farther := if nearer = below then below + 1 else below
  [nearer, farther].find? fun digits => f.nearestDecimal digits grid == pattern

/-- The digits without the zeros at their end, and the power of ten behind them. -/
def stripZeros (digits : List Char) (grid : Int) : List Char × Int :=
  let zeros := (digits.reverse.takeWhile (· == '0')).length
  (digits.take (digits.length - zeros), grid + zeros)

/-- The shortest digits of a positive finite value and the power of ten behind the last of them. -/
def Format.shortest (f : Format) (pattern : Nat) : List Char × Int :=
  let top := f.magnitude pattern
  match (List.range f.precision).findSome? fun n =>
      let grid := top - (n + 1 : Nat)
      (f.readsBackOn? pattern grid).map fun digits => (digits, grid) with
  | some (digits, grid) => stripZeros (Nat.toDigits 10 digits) grid
  | none => (['0'], 0)

end StudentRoster.Binary
