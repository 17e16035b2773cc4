import Mathlib.Algebra.Order.Field.Basic
import Mathlib.Algebra.Order.Field.Power
import Mathlib.Data.Rat.Cast.Order
import Mathlib.Tactic.FieldSimp
import Mathlib.Tactic.Linarith
import StudentRoster.Proofs.Binary.Neighbours

/-!
# Rounding exact numbers, with overflow

A rational number rounds to infinity from half a step above the greatest finite value on; every
smaller one rounds to the nearest finite value, and of two that are as near to the one with the
even pattern (`RoundsTo`). `roundsTo_iff` says that `Format.nearest` computes this pattern and no
other, and `roundsTo_ofDecimal_iff` says the same of decimals: moving an exponent to where it makes
no difference any more makes none indeed.
-/

set_option autoImplicit false

namespace StudentRoster.Binary.Format

variable (f : Format)

/-- The value of a pattern, also of those from infinity on, as if exponents had no bound. -/
def value (pattern : Nat) : ℚ := f.units pattern / 2 ^ f.scale

/-- The number half a step above the greatest finite value. -/
def overflow : ℚ := (f.value (f.infinity - 1) + f.value f.infinity) / 2

/-- A number that is not negative rounds to a pattern, ties to the even one, or overflows. -/
structure RoundsTo (q : ℚ) (pattern : Nat) : Prop where
  eq_infinity : f.overflow ≤ q → pattern = f.infinity
  lt_infinity : q < f.overflow → pattern < f.infinity
  le : q < f.overflow → ∀ other < f.infinity, |f.value pattern - q| ≤ |f.value other - q|
  even_of_eq : q < f.overflow → ∀ other < f.infinity, other ≠ pattern →
    |f.value other - q| = |f.value pattern - q| → pattern % 2 = 0

variable {f} {num den pattern other : Nat}

/-! ## Distances from a ratio -/

/-- How far the value of a pattern is from a ratio, over a common denominator. -/
theorem abs_value_sub (hden : 0 < den) (pattern : Nat) :
    |f.value pattern - (num : ℚ) / den| = f.distance num den pattern / (den * 2 ^ f.scale) := by
  have hpos : (0 : ℚ) < den * 2 ^ f.scale := by positivity
  have hden' : (den : ℚ) ≠ 0 := by positivity
  have hdiff : f.value pattern - (num : ℚ) / den =
      ((f.units pattern * den : ℤ) - (num * 2 ^ f.scale : ℕ) : ℤ) / (den * 2 ^ f.scale) := by
    rw [value]
    push_cast
    field_simp
  rw [hdiff, abs_div, abs_of_pos hpos, distance, Int.cast_abs]

/-- Of two values the nearer one to a ratio is the one at the smaller distance. -/
theorem abs_value_sub_le_iff (hden : 0 < den) :
    |f.value pattern - (num : ℚ) / den| ≤ |f.value other - (num : ℚ) / den| ↔
      f.distance num den pattern ≤ f.distance num den other := by
  have hpos : (0 : ℚ) < den * 2 ^ f.scale := by positivity
  rw [abs_value_sub hden, abs_value_sub hden, div_le_div_iff_of_pos_right hpos, Int.cast_le]

/-- Two values are as near to a ratio when their distances are equal. -/
theorem abs_value_sub_eq_iff (hden : 0 < den) :
    |f.value other - (num : ℚ) / den| = |f.value pattern - (num : ℚ) / den| ↔
      f.distance num den other = f.distance num den pattern := by
  have hpos : (den * 2 ^ f.scale : ℚ) ≠ 0 := by positivity
  rw [abs_value_sub hden, abs_value_sub hden, div_left_inj' hpos, Int.cast_inj]

/-- A ratio overflows from half a step above the greatest finite value on, in whole numbers. -/
theorem overflow_le_iff (hden : 0 < den) :
    f.overflow ≤ (num : ℚ) / den ↔
      (f.units (f.infinity - 1) + f.units f.infinity) * den ≤ 2 * (num * 2 ^ f.scale) := by
  have hden' : (0 : ℚ) < den := by exact_mod_cast hden
  have hone : (0 : ℚ) < 2 ^ f.scale := by positivity
  rw [overflow, value, value, ← add_div, div_div, div_le_div_iff₀ (by positivity) hden',
    ← Nat.cast_le (α := ℚ)]
  push_cast
  rw [show (num : ℚ) * (2 ^ f.scale * 2) = 2 * (num * 2 ^ f.scale) by ring]

/-! ## The bound at infinity -/

/-- The values on both sides of the overflow. -/
theorem units_lt_infinity (hden : 0 < den) (hinfinity : 0 < f.infinity) :
    (f.units (f.infinity - 1) * den : ℤ) < f.units f.infinity * den := by
  have hlt : f.units (f.infinity - 1) < f.units f.infinity := f.strictMono_units (by omega)
  exact_mod_cast Nat.mul_lt_mul_of_pos_right hlt hden

/-- Below the overflow the greatest finite value is nearer than any that would lie beyond it. -/
theorem distance_lt_of_infinity_le (hden : 0 < den) (hinfinity : 0 < f.infinity)
    (h : 2 * (num * 2 ^ f.scale) < (f.units (f.infinity - 1) + f.units f.infinity) * den)
    (hother : f.infinity ≤ other) :
    f.distance num den (f.infinity - 1) < f.distance num den other := by
  have hgap := units_lt_infinity hden hinfinity
  have hbeyond : (f.units f.infinity * den : ℤ) ≤ f.units other * den := by
    exact_mod_cast Nat.mul_le_mul_right den (f.strictMono_units.monotone hother)
  have hmiddle : 2 * ((num * 2 ^ f.scale : ℕ) : ℤ) <
      f.units (f.infinity - 1) * den + f.units f.infinity * den := by
    rw [← Int.add_mul]
    exact_mod_cast h
  rw [distance, distance]
  simp only [lt_abs, abs_lt]
  omega

/-- From the overflow on, the nearest pattern is not finite: the last finite one could be as near as
infinity, but is odd. -/
theorem IsNearest.infinity_le (hprecision : 1 < f.precision) (hden : 0 < den)
    (hinfinity : 0 < f.infinity)
    (h : (f.units (f.infinity - 1) + f.units f.infinity) * den ≤ 2 * (num * 2 ^ f.scale))
    (hnearest : f.IsNearest num den pattern) : f.infinity ≤ pattern := by
  by_contra hfinite
  have hgap := units_lt_infinity hden hinfinity
  have hlast : (f.units pattern * den : ℤ) ≤ f.units (f.infinity - 1) * den := by
    exact_mod_cast Nat.mul_le_mul_right den (f.strictMono_units.monotone (by omega))
  have hmiddle : (f.units (f.infinity - 1) * den + f.units f.infinity * den : ℤ) ≤
      2 * ((num * 2 ^ f.scale : ℕ) : ℤ) := by
    rw [← Int.add_mul]
    exact_mod_cast h
  have hle := hnearest.le f.infinity
  have heven := hnearest.even_of_eq f.infinity (by omega)
  rw [distance, distance] at hle heven
  have hsame : (f.units pattern * den : ℤ) = f.units (f.infinity - 1) * den := by
    simp only [abs_le, le_abs] at hle
    omega
  have hpattern : pattern = f.infinity - 1 := by
    have hunits : f.units pattern * den = f.units (f.infinity - 1) * den := by
      exact_mod_cast hsame
    exact f.strictMono_units.injective (Nat.eq_of_mul_eq_mul_right hden hunits)
  have hparity : f.infinity % 2 = 0 :=
    Nat.mod_eq_zero_of_dvd (Dvd.dvd.mul_left (dvd_pow_self 2 (by omega)) f.topExponent)
  have htie := heven (le_antisymm (by simp only [abs_le, le_abs]; omega) hle)
  omega

/-- Below the overflow, a ratio rounds to the finite pattern that is nearest to it. -/
theorem roundsTo_iff_of_lt (hinfinity : 0 < f.infinity) (hden : 0 < den)
    (h : (num : ℚ) / den < f.overflow) :
    f.RoundsTo (num / den) pattern ↔ pattern < f.infinity ∧ f.IsNearest num den pattern := by
  have hfar (other : Nat) (hother : f.infinity ≤ other) :
      f.distance num den (f.infinity - 1) < f.distance num den other := by
    apply distance_lt_of_infinity_le hden hinfinity _ hother
    rwa [← not_le, overflow_le_iff hden, not_le] at h
  constructor
  · intro hround
    have hle (other : Nat) (hother : other < f.infinity) :
        f.distance num den pattern ≤ f.distance num den other :=
      (abs_value_sub_le_iff hden).mp (hround.le h other hother)
    have hlast := hle (f.infinity - 1) (by omega)
    refine ⟨hround.lt_infinity h, fun other => ?_, fun other hne heq => ?_⟩
    · by_cases hother : other < f.infinity
      · exact hle other hother
      · exact hlast.trans (hfar other (by omega)).le
    · have hother : other < f.infinity := by
        by_contra hbeyond
        exact absurd heq (hlast.trans_lt (hfar other (by omega))).ne'
      exact hround.even_of_eq h other hother hne ((abs_value_sub_eq_iff hden).mpr heq)
  · rintro ⟨hfinite, hnearest⟩
    refine ⟨fun habove => absurd h (not_lt.mpr habove), fun _ => hfinite, fun _ other _ => ?_,
      fun _ other _ hne heq => ?_⟩
    · exact (abs_value_sub_le_iff hden).mpr (hnearest.le other)
    · exact hnearest.even_of_eq other hne ((abs_value_sub_eq_iff hden).mp heq)

section Rounding

variable (hprecision : 1 < f.precision) (hinfinity : 0 < f.infinity)

include hprecision hinfinity

/-- From the overflow on, a ratio rounds to infinity. -/
theorem nearest_eq_infinity (hden : 0 < den) (h : f.overflow ≤ (num : ℚ) / den) :
    f.nearest num den = f.infinity := by
  have hnearest := isNearest_unbounded hprecision num hden
  rw [nearest_eq_min]
  exact min_eq_left
    (hnearest.infinity_le hprecision hden hinfinity ((overflow_le_iff hden).mp h))

/-- A ratio rounds to exactly one pattern, and this is the one that is computed. -/
theorem roundsTo_iff (hden : 0 < den) :
    f.RoundsTo (num / den) pattern ↔ f.nearest num den = pattern := by
  by_cases h : f.overflow ≤ (num : ℚ) / den
  · rw [nearest_eq_infinity hprecision hinfinity hden h]
    constructor
    · intro hround
      exact (hround.eq_infinity h).symm
    · intro hpattern
      have hnot : ¬ (num : ℚ) / den < f.overflow := not_lt.mpr h
      exact ⟨fun _ => hpattern.symm, fun hlt => absurd hlt hnot, fun hlt => absurd hlt hnot,
        fun hlt => absurd hlt hnot⟩
  · rw [not_le] at h
    have hfinite : f.unbounded num den < f.infinity := by
      by_contra hbeyond
      rw [← not_le, overflow_le_iff hden, not_le] at h
      have hfar := distance_lt_of_infinity_le hden hinfinity h (not_lt.mp hbeyond)
      exact absurd ((isNearest_unbounded hprecision num hden).le (f.infinity - 1)) (not_le.mpr hfar)
    rw [roundsTo_iff_of_lt hinfinity hden h, isNearest_iff hprecision hden,
      nearest_eq_min, min_eq_right hfinite.le]
    constructor
    · intro hpattern
      exact hpattern.2
    · rintro rfl
      exact ⟨hfinite, rfl⟩

end Rounding

/-! ## Decimals -/

/-- A ratio of less than half the smallest positive value rounds to zero. -/
theorem nearest_eq_zero (hprecision : 0 < f.precision) (h : num * 2 ^ (f.scale + 1) < den) :
    f.nearest num den = 0 := by
  rw [pow_succ, ← Nat.mul_assoc] at h
  have hfloor : num * 2 ^ f.scale / den = 0 := Nat.div_eq_of_lt (by omega)
  have hshift : (0 : Nat).log2 + 1 - f.precision = 0 := by
    rw [Nat.log2_zero]
    omega
  have hsmall : 2 * (num * 2 ^ f.scale) < den := by omega
  simp only [nearest, hfloor, hshift, Nat.zero_mul, Nat.zero_add, pow_zero, Nat.mul_one]
  rw [roundDiv, hfloor, Nat.mod_eq_of_lt (by omega), if_pos hsmall, min_eq_right (Nat.zero_le _)]

/-- The ratio that is rounded for a decimal is its value. -/
theorem nearestDecimal_eq (digits : Nat) (exponent : ℤ) :
    ∃ num den : Nat, 0 < den ∧ f.nearestDecimal digits exponent = f.nearest num den ∧
      (digits : ℚ) * 10 ^ exponent = num / den := by
  cases exponent with
  | ofNat n =>
    refine ⟨digits * 10 ^ n, 1, Nat.one_pos, rfl, ?_⟩
    push_cast
    rw [div_one, Int.ofNat_eq_natCast, zpow_natCast]
  | negSucc n =>
    refine ⟨digits, 10 ^ (n + 1), Nat.pow_pos (by omega), rfl, ?_⟩
    push_cast
    rw [zpow_negSucc, div_eq_mul_inv]

/-- Zero stays zero with any exponent. -/
theorem nearestDecimal_zero (hprecision : 0 < f.precision) (exponent : ℤ) :
    f.nearestDecimal 0 exponent = 0 := by
  cases exponent with
  | ofNat n =>
    apply nearest_eq_zero hprecision
    rw [Nat.zero_mul, Nat.zero_mul]
    exact Nat.one_pos
  | negSucc n =>
    apply nearest_eq_zero hprecision
    rw [Nat.zero_mul]
    exact Nat.pow_pos (by omega)

/-- With a great exponent every decimal but zero overflows. -/
theorem nearestDecimal_eq_infinity (hprecision : 1 < f.precision) (hinfinity : 0 < f.infinity)
    (hwide : f.units f.infinity ≤ 10 ^ f.topExponent * 2 ^ f.scale) {digits : Nat}
    (hdigits : digits ≠ 0) {exponent : ℤ} (h : f.topExponent ≤ exponent) :
    f.nearestDecimal digits exponent = f.infinity := by
  obtain ⟨n, rfl⟩ := Int.eq_ofNat_of_zero_le (show 0 ≤ exponent by omega)
  have hlast : f.units (f.infinity - 1) ≤ f.units f.infinity :=
    f.strictMono_units.monotone (by omega)
  have hpower : 10 ^ f.topExponent ≤ digits * 10 ^ n :=
    calc 10 ^ f.topExponent ≤ 10 ^ n := Nat.pow_le_pow_right (by omega) (by omega)
      _ ≤ digits * 10 ^ n := Nat.le_mul_of_pos_left _ (Nat.pos_of_ne_zero hdigits)
  have hbound : f.units f.infinity ≤ digits * 10 ^ n * 2 ^ f.scale :=
    hwide.trans (Nat.mul_le_mul_right _ hpower)
  apply nearest_eq_infinity hprecision hinfinity Nat.one_pos
  rw [overflow_le_iff Nat.one_pos]
  omega

/-- With a small exponent every decimal is less than half the smallest positive value. -/
theorem nearestDecimal_eq_zero (hprecision : 0 < f.precision) {digits : Nat} {exponent : ℤ}
    (h : exponent ≤ -(digits.log2 + 1 + f.scale : Nat)) : f.nearestDecimal digits exponent = 0 := by
  obtain ⟨n, rfl⟩ := Int.eq_negSucc_of_lt_zero (show exponent < 0 by omega)
  apply nearest_eq_zero hprecision
  have hlt : digits < 2 ^ (digits.log2 + 1) := Nat.lt_log2_self
  calc digits * 2 ^ (f.scale + 1) < 2 ^ (digits.log2 + 1) * 2 ^ (f.scale + 1) :=
        Nat.mul_lt_mul_of_pos_right hlt (Nat.two_pow_pos _)
    _ = 2 ^ (digits.log2 + 1 + f.scale + 1) := by rw [← pow_add]; rfl
    _ ≤ 2 ^ (n + 1 + (n + 1)) := Nat.pow_le_pow_right (by omega) (by omega)
    _ = 4 ^ (n + 1) := by rw [pow_add, ← Nat.mul_pow]
    _ ≤ 10 ^ (n + 1) := Nat.pow_le_pow_left (by omega) _

/-- An exponent can be moved to the bounds without a difference. -/
theorem ofDecimal_eq (hprecision : 1 < f.precision) (hinfinity : 0 < f.infinity)
    (hwide : f.units f.infinity ≤ 10 ^ f.topExponent * 2 ^ f.scale) (digits : Nat)
    (exponent : ℤ) : f.ofDecimal digits exponent = f.nearestDecimal digits exponent := by
  rw [ofDecimal]
  rcases lt_or_ge (f.topExponent : ℤ) exponent with hgreat | hupper
  · have hbound : f.boundExponent digits exponent = f.topExponent := by
      rw [boundExponent]
      omega
    rw [hbound]
    by_cases hdigits : digits = 0
    · rw [hdigits, nearestDecimal_zero (by omega), nearestDecimal_zero (by omega)]
    · rw [nearestDecimal_eq_infinity hprecision hinfinity hwide hdigits le_rfl,
        nearestDecimal_eq_infinity hprecision hinfinity hwide hdigits hgreat.le]
  · rcases lt_or_ge exponent (-(digits.log2 + 1 + f.scale : Nat)) with hsmall | hlower
    · have hbound : f.boundExponent digits exponent = -(digits.log2 + 1 + f.scale : Nat) := by
        rw [boundExponent]
        omega
      rw [hbound, nearestDecimal_eq_zero (by omega) le_rfl,
        nearestDecimal_eq_zero (by omega) hsmall.le]
    · have hbound : f.boundExponent digits exponent = exponent := by
        rw [boundExponent]
        omega
      rw [hbound]

/-- A decimal rounds to exactly one pattern of single precision, and this is the one that is
computed. -/
theorem roundsTo_ofDecimal_iff (digits : Nat) (exponent : ℤ) :
    single.RoundsTo (digits * 10 ^ exponent) pattern ↔
      single.ofDecimal digits exponent = pattern := by
  obtain ⟨num, den, hden, hratio, hvalue⟩ := nearestDecimal_eq (f := single) digits exponent
  rw [hvalue, roundsTo_iff (by decide) (by decide) hden, ← hratio,
    ofDecimal_eq (by decide) (by decide) (by decide)]

end StudentRoster.Binary.Format
