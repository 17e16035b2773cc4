import StudentRoster.Binary.Format

/-!
# Grade point averages

A grade point average is a number of single precision: a sign and a magnitude pattern. All
patterns are kept, infinities and NaNs too, since a roster line may spell them. Two averages are
the same value when they are equal as numbers, which a NaN never is and the two zeros always are;
plain equality compares the patterns.
-/

set_option autoImplicit false

namespace StudentRoster

open Binary

/-- A grade point average. -/
structure Gpa where
  /-- Whether the sign bit is set. -/
  negative : Bool
  /-- The other 31 bits, see `Binary.Format`. -/
  magnitude : Fin (0x80000000)
  deriving DecidableEq, Repr

namespace Gpa

/-- The average with the given 32 bits, the sign bit first. -/
def ofBits (bits : UInt32) : Gpa where
  negative := 0x80000000 ≤ bits.toNat
  magnitude := ⟨bits.toNat % 0x80000000, Nat.mod_lt _ (by decide)⟩

/-- The 32 bits of an average. -/
def bits (g : Gpa) : UInt32 :=
  UInt32.ofNat ((if g.negative then 0x80000000 else 0) + g.magnitude.val)

/-- The NaN that the word for it denotes. -/
def nan : Gpa := ⟨false, ⟨0x7FC00000, by decide⟩⟩

/-- Infinity of either sign. -/
def infinity (negative : Bool) : Gpa := ⟨negative, ⟨single.infinity, by decide⟩⟩

/-- Whether the average is no number: its magnitude lies beyond infinity. -/
def isNaN (g : Gpa) : Bool := decide (single.infinity < g.magnitude.val)

/-- Whether the average is infinite, of either sign. -/
def isInfinite (g : Gpa) : Bool := g.magnitude.val == single.infinity

/-- Equality of numbers: a NaN equals nothing, and the two zeros are equal. -/
def sameValue (a b : Gpa) : Bool :=
  !a.isNaN && !b.isNaN && (a == b || (a.magnitude.val == 0 && b.magnitude.val == 0))

/-- The average of the given sign that is nearest to `digits * 10 ^ exponent`. -/
def ofDecimal (negative : Bool) (digits : Nat) (exponent : Int) : Gpa where
  negative := negative
  magnitude := ⟨single.ofDecimal digits exponent,
    Nat.lt_of_le_of_lt (single.ofDecimal_le_infinity digits exponent) (by decide)⟩

/-- The bits of an average give it back. -/
theorem ofBits_bits (g : Gpa) : ofBits g.bits = g := by
  obtain ⟨negative, m, hm⟩ := g
  cases negative
  · have h : (UInt32.ofNat (0 + m)).toNat = m := by
      rw [UInt32.toNat_ofNat_of_lt']
      · omega
      · show 0 + m < 0x100000000
        omega
    simp only [bits, ofBits, Bool.false_eq_true, if_false, h]
    congr 1
    · exact decide_eq_false (by omega)
    · exact Fin.ext (Nat.mod_eq_of_lt hm)
  · have h : (UInt32.ofNat (0x80000000 + m)).toNat = 0x80000000 + m := by
      rw [UInt32.toNat_ofNat_of_lt']
      show 0x80000000 + m < 0x100000000
      omega
    simp only [bits, ofBits, if_true, h]
    congr 1
    · exact decide_eq_true (by omega)
    · exact Fin.ext (by show (0x80000000 + m) % 0x80000000 = m; omega)

/-- An average equals itself as a number exactly when it is a number. -/
theorem sameValue_self (g : Gpa) : g.sameValue g = !g.isNaN := by
  cases h : g.isNaN <;> simp [sameValue, h]

end Gpa

end StudentRoster
