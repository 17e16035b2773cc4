import StudentRoster.Proofs.Binary.Neighbours
import StudentRoster.Proofs.Gpa.Reread

/-!
# Averages that are read back exactly

A finite average is read back as it was, bit for bit, exactly when some number of hundredths rounds
to it (`reread_eq_iff`). This is clear from the printed hundredths when these lie farther apart than
the averages around: then at most one number of hundredths rounds to an average, and that one is
printed. Where they lie closer to each other, the printed hundredths are off by less than half the
way to a neighbour. The one exception would be the first average of an exponent, to whose neighbour
below the way is shorter; but it is a whole number, and nothing is off. A step is never a hundredth,
because no power of two is.
-/

set_option autoImplicit false

namespace StudentRoster.Gpa

open Binary

/-! ## The two grids -/

variable {pattern n : Nat}

/-- No step between averages is a hundredth. -/
theorem step_mul_hundred_ne (pattern : Nat) : single.step pattern * 100 ≠ 2 ^ single.scale := by
  have hone : 2 ^ single.scale % 5 = 2 := by decide
  omega

/-- Where the steps are longer than a hundredth, the first average of an exponent is a whole
number. -/
theorem dvd_units_of_wide (hpattern : pattern ≠ 0) (hfirst : single.fractions ∣ pattern)
    (hwide : 2 ^ single.scale < single.step pattern * 100) :
    2 ^ single.scale ∣ single.units pattern := by
  rw [Format.units_of_dvd hpattern hfirst]
  rw [Format.step] at hwide ⊢
  generalize pattern / single.fractions - 1 = shift at hwide ⊢
  have hshift : 143 ≤ shift := by
    by_contra hsmall
    have hpower : 2 ^ shift ≤ 2 ^ 142 := Nat.pow_le_pow_right (by omega) (by omega)
    have hbound : 2 ^ 142 * 100 < 2 ^ single.scale := by decide
    omega
  rw [Format.fractions, ← pow_add]
  exact pow_dvd_pow 2 (by simp only [single]; omega)

/-- The hundredths of a pattern are off by at most half a hundredth. -/
theorem two_mul_distance_hundredths (pattern : Nat) :
    2 * single.distance (roundDiv (single.units pattern * 100) (2 ^ single.scale)) 100 pattern ≤
      (2 ^ single.scale : ℕ) := by
  have hhalf := (two_mul_abs_roundDiv_sub_le (single.units pattern * 100)
    (Nat.two_pow_pos single.scale)).1
  rw [abs_sub_comm] at hhalf
  rw [Format.distance]
  push_cast at hhalf ⊢
  exact hhalf

/-- Where the steps are longer than a hundredth, the hundredths of a pattern round to it. -/
theorem isNearest_of_wide (hwide : 2 ^ single.scale < single.step pattern * 100) :
    single.IsNearest (roundDiv (single.units pattern * 100) (2 ^ single.scale)) 100 pattern := by
  by_cases hfirst : single.fractions ∣ pattern
  · have hpattern : pattern ≠ 0 := by
      rintro rfl
      exact absurd hwide (by decide)
    obtain ⟨whole, hwhole⟩ := dvd_units_of_wide hpattern hfirst hwide
    have hexact : roundDiv (single.units pattern * 100) (2 ^ single.scale) = whole * 100 := by
      rw [hwhole, Nat.mul_assoc, Nat.mul_comm, roundDiv_mul (Nat.two_pow_pos _)]
    refine Format.isNearest_of_distance_eq_zero (by decide) ?_
    rw [hexact, Format.distance, hwhole, abs_eq_zero]
    push_cast
    ring
  · refine Format.isNearest_of_two_mul_lt hfirst ?_
    have hhalf := two_mul_distance_hundredths pattern
    omega

/-- Where the steps are shorter than a hundredth, only the hundredths of a pattern can round to
it. -/
theorem eq_roundDiv_of_narrow (hnarrow : single.step pattern * 100 < 2 ^ single.scale)
    (h : single.IsNearest n 100 pattern) :
    roundDiv (single.units pattern * 100) (2 ^ single.scale) = n := by
  have hhalf := h.two_mul_distance_le (by decide)
  rw [Format.distance, abs_sub_comm] at hhalf
  push_cast at hhalf
  have hclose : 2 * |(n * (2 ^ single.scale : ℕ) : ℤ) - (single.units pattern * 100 : ℕ)| <
      (2 ^ single.scale : ℕ) := by
    push_cast
    have hless : (single.step pattern * 100 : ℤ) < 2 ^ single.scale := by exact_mod_cast hnarrow
    exact lt_of_le_of_lt hhalf hless
  exact roundDiv_eq_of_near (Nat.two_pow_pos _) (le_of_lt hclose)
    fun htie => absurd htie (ne_of_lt hclose)

/-- If any number of hundredths rounds to a pattern, then its own hundredths do. -/
theorem isNearest_hundredths (h : single.IsNearest n 100 pattern) :
    single.IsNearest (roundDiv (single.units pattern * 100) (2 ^ single.scale)) 100 pattern := by
  rcases lt_or_gt_of_ne (step_mul_hundred_ne pattern) with hnarrow | hwide
  · rwa [eq_roundDiv_of_narrow hnarrow h]
  · exact isNearest_of_wide hwide

/-! ## The average that is read -/

/-- Averages of one sign are told apart by their magnitudes. -/
theorem eq_iff_magnitude_eq {g other : Gpa} (hsign : other.negative = g.negative) :
    other = g ↔ (other.magnitude : ℕ) = g.magnitude := by
  obtain ⟨negative, magnitude⟩ := g
  obtain ⟨negative', magnitude'⟩ := other
  obtain rfl : negative' = negative := hsign
  rw [mk.injEq, Fin.ext_iff]
  exact and_iff_right rfl

/-- A decimal with a sign and two places rounds to a finite average. A zero keeps its sign. -/
structure IsNearestTo (g : Gpa) (negative : Bool) (hundredths : Nat) : Prop where
  negative_eq : g.negative = negative
  isNearest : single.IsNearest hundredths 100 g.magnitude

/-- A finite average is read back exactly when some decimal with two places rounds to it. -/
theorem reread_eq_iff {g : Gpa} (hfinite : g.magnitude < single.infinity) :
    g.reread = g ↔ ∃ negative n, g.IsNearestTo negative n := by
  have hread : g.reread = ofDecimal g.negative g.hundredths (-2) := by
    rw [reread, isNaN_of_lt hfinite, isInfinite_of_lt hfinite, if_neg Bool.false_ne_true,
      if_neg Bool.false_ne_true]
  have hpattern : g.reread = g ↔ single.nearest g.hundredths 100 = g.magnitude := by
    rw [hread, eq_iff_magnitude_eq (negative_ofDecimal _ _ _), magnitude_ofDecimal,
      ofDecimal_neg_two]
  have hbelow : min single.infinity (single.unbounded g.hundredths 100) = g.magnitude ↔
      single.unbounded g.hundredths 100 = g.magnitude := by
    omega
  rw [hpattern, Format.nearest_eq_min, hbelow,
    ← Format.isNearest_iff (by decide) (show 0 < 100 by decide), hundredths]
  constructor
  · intro hown
    exact ⟨g.negative, _, rfl, hown⟩
  · rintro ⟨negative, n, hnearest⟩
    exact isNearest_hundredths hnearest.isNearest

/-- An infinite average is read back. -/
theorem reread_of_isInfinite {g : Gpa} (h : g.isInfinite = true) : g.reread = g := by
  have hread : g.reread = infinity g.negative := by
    rw [reread, isNaN_of_isInfinite h, h, if_neg Bool.false_ne_true, if_pos rfl]
  have hsign : (infinity g.negative).negative = g.negative := rfl
  rw [isInfinite, beq_iff_eq] at h
  rw [hread, eq_iff_magnitude_eq hsign, h]
  rfl

end StudentRoster.Gpa
