import StudentRoster.Proofs.Binary.Nearest

/-!
# The nearest pattern and its neighbours

A ratio rounds to a pattern when no other is nearer and, if another is as near, the pattern is even
(`IsNearest`). This says nothing of how the pattern is found. `isNearest_iff` says that exactly the
unbounded pattern is such a one: of two patterns that are as near as each other none can lie between
them, so that they are neighbours and only one of them is even.

A pattern that is nearer to a ratio than its neighbours is nearest to it. The way to the neighbour
above is a step of the pattern, and the way to the one below is as long except at the first pattern
of an exponent (`units_add_step_le_of_gt`), where the steps change.
-/

set_option autoImplicit false

namespace StudentRoster.Binary.Format

variable (f : Format)

/-- How far the value of a pattern is from a ratio, as a multiple of the smallest positive value
over the denominator of the ratio. -/
def distance (num den pattern : Nat) : ℤ :=
  |(f.units pattern * den : ℤ) - (num * 2 ^ f.scale : ℕ)|

/-- A ratio rounds to a pattern, ties to the even one, when none is bounded by infinity. -/
structure IsNearest (num den pattern : Nat) : Prop where
  le : ∀ other, f.distance num den pattern ≤ f.distance num den other
  even_of_eq : ∀ other, other ≠ pattern →
    f.distance num den other = f.distance num den pattern → pattern % 2 = 0

variable {f} {num den pattern other : Nat}

/-! ## The unbounded pattern is the nearest -/

/-- An even significand makes an even pattern. -/
theorem unbounded_mod_two (hprecision : 1 < f.precision) (num den : Nat) :
    f.unbounded num den % 2 =
      roundDiv (num * 2 ^ f.scale) (den * 2 ^ f.shiftOf num den) % 2 := by
  have heven : 2 ∣ f.fractions := dvd_pow_self 2 (by omega)
  obtain ⟨half, hhalf⟩ := Dvd.dvd.mul_left heven (f.shiftOf num den)
  rw [unbounded, hhalf]
  omega

/-- The unbounded pattern is nearest to the ratio. -/
theorem isNearest_unbounded (hprecision : 1 < f.precision) (num : Nat) (hden : 0 < den) :
    f.IsNearest num den (f.unbounded num den) where
  le other := abs_units_unbounded_sub_le (by omega) num hden other
  even_of_eq other hne heq := by
    have hpositive : 0 < f.precision := by omega
    by_cases hdvd : 2 ^ f.shiftOf num den ∣ f.units other
    · obtain ⟨k, hk⟩ := hdvd
      have hown := (units_unbounded hpositive num den).trans (Nat.mul_comm _ _)
      have hsignificand : k ≠ roundDiv (num * 2 ^ f.scale) (den * 2 ^ f.shiftOf num den) := by
        rintro rfl
        exact hne (f.strictMono_units.injective (hk.trans hown.symm))
      rw [distance, distance, units_mul_of_dvd hk, units_mul_of_dvd hown] at heq
      rw [unbounded_mod_two hprecision]
      -- two whole numbers as far from the ratio as each other are half a step off
      have hway := le_abs_sub_add_abs_sub hsignificand (num * 2 ^ f.scale : ℕ)
        (den * 2 ^ f.shiftOf num den : ℕ) (by positivity)
      obtain ⟨hhalf, heven⟩ := two_mul_abs_roundDiv_sub_le (num * 2 ^ f.scale)
        (Nat.mul_pos hden (Nat.two_pow_pos (f.shiftOf num den)))
      exact heven (by linarith)
    · have hfarther := abs_units_unbounded_sub_lt hpositive num hden hdvd
      rw [← distance, ← distance, heq] at hfarther
      exact absurd hfarther (lt_irrefl _)

/-- A value between two others is nearer to a ratio than one of them. -/
theorem distance_lt_of_between (hden : 0 < den) {low high : Nat} (hlow : low < pattern)
    (hhigh : pattern < high) :
    f.distance num den pattern < f.distance num den low ∨
      f.distance num den pattern < f.distance num den high := by
  have hbelow : (f.units low * den : ℤ) < f.units pattern * den := by
    exact_mod_cast Nat.mul_lt_mul_of_pos_right (f.strictMono_units hlow) hden
  have habove : (f.units pattern * den : ℤ) < f.units high * den := by
    exact_mod_cast Nat.mul_lt_mul_of_pos_right (f.strictMono_units hhigh) hden
  simp only [distance, lt_abs, abs_lt]
  omega

/-- No two patterns are nearest to a ratio. -/
theorem IsNearest.not_lt (hden : 0 < den) (h : f.IsNearest num den pattern)
    (hother : f.IsNearest num den other) : ¬ pattern < other := by
  intro hlt
  have heq : f.distance num den other = f.distance num den pattern :=
    le_antisymm (hother.le pattern) (h.le other)
  have heven := h.even_of_eq other (by omega) heq
  have heven' := hother.even_of_eq pattern (by omega) heq.symm
  -- both are even, so that one lies between them
  have hbetween : f.distance num den (pattern + 1) < f.distance num den pattern ∨
      f.distance num den (pattern + 1) < f.distance num den other :=
    distance_lt_of_between hden (by omega) (by omega)
  rcases hbetween with hnear | hnear
  · exact absurd (h.le (pattern + 1)) (not_le.mpr hnear)
  · exact absurd (hother.le (pattern + 1)) (not_le.mpr hnear)

/-- A ratio rounds to exactly one pattern, and this is the one that is computed. -/
theorem isNearest_iff (hprecision : 1 < f.precision) (hden : 0 < den) :
    f.IsNearest num den pattern ↔ f.unbounded num den = pattern := by
  have hcomputed := isNearest_unbounded hprecision num hden
  refine ⟨fun h => ?_, fun h => h ▸ hcomputed⟩
  have habove := h.not_lt hden hcomputed
  have hbelow := hcomputed.not_lt hden h
  omega

/-- A pattern that is nearer to a ratio than every other is nearest to it. -/
theorem isNearest_of_lt
    (h : ∀ other, other ≠ pattern → f.distance num den pattern < f.distance num den other) :
    f.IsNearest num den pattern where
  le other := by
    by_cases hother : other = pattern
    · rw [hother]
    · exact le_of_lt (h other hother)
  even_of_eq other hne heq := absurd (h other hne) (by rw [heq]; exact lt_irrefl _)

/-! ## Neighbours -/

/-- The value of a greater pattern is at least a step greater. -/
theorem units_add_step_le_of_lt (h : pattern < other) :
    f.units pattern + f.step pattern ≤ f.units other := by
  rw [← units_succ]
  exact f.strictMono_units.monotone h

/-- The steps do not get smaller. -/
theorem step_mono (h : pattern ≤ other) : f.step pattern ≤ f.step other :=
  Nat.pow_le_pow_right (by omega) (Nat.sub_le_sub_right (Nat.div_le_div_right h) 1)

/-- The step changes only where an exponent begins. -/
theorem step_succ (h : ¬ f.fractions ∣ pattern + 1) : f.step (pattern + 1) = f.step pattern := by
  rw [step, step, Nat.succ_div_of_not_dvd h]

/-- But where an exponent begins, the value of a smaller pattern is at least a step smaller. -/
theorem units_add_step_le_of_gt (hinner : ¬ f.fractions ∣ pattern) (h : other < pattern) :
    f.units other + f.step pattern ≤ f.units pattern := by
  obtain ⟨below, rfl⟩ := Nat.exists_eq_add_of_lt (Nat.zero_lt_of_lt h)
  simp only [Nat.zero_add] at hinner h ⊢
  rw [step_succ hinner, units_succ]
  exact Nat.add_le_add_right (f.strictMono_units.monotone (by omega)) _

/-- Where an exponent begins, the value is the least significand, shifted. -/
theorem units_of_dvd (hpattern : pattern ≠ 0) (h : f.fractions ∣ pattern) :
    f.units pattern = f.fractions * f.step pattern := by
  have hle : f.fractions ≤ pattern := Nat.le_of_dvd (Nat.pos_of_ne_zero hpattern) h
  rw [units, if_neg (by omega), Nat.mod_eq_zero_of_dvd h, Nat.add_zero, step]

/-- The way between two values is not longer than the way over the ratio. -/
theorem le_distance_add_distance {low high way : Nat} (h : f.units low + way ≤ f.units high) :
    (way * den : ℕ) ≤ f.distance num den low + f.distance num den high := by
  have hway : (f.units low * den : ℤ) + (way * den : ℕ) ≤ f.units high * den := by
    rw [← Nat.cast_mul, ← Nat.cast_mul, ← Nat.cast_add, ← Nat.add_mul]
    exact_mod_cast Nat.mul_le_mul_right den h
  have hlow := neg_abs_le ((f.units low * den : ℤ) - (num * 2 ^ f.scale : ℕ))
  have hhigh := le_abs_self ((f.units high * den : ℤ) - (num * 2 ^ f.scale : ℕ))
  rw [distance, distance]
  linarith

/-- A ratio that is less than half a step from a value rounds to it, unless an exponent begins
there. -/
theorem isNearest_of_two_mul_lt (hinner : ¬ f.fractions ∣ pattern)
    (h : 2 * f.distance num den pattern < (f.step pattern * den : ℕ)) :
    f.IsNearest num den pattern := by
  refine isNearest_of_lt fun other hne => ?_
  rcases lt_or_gt_of_ne hne with hbelow | habove
  · have hgap := units_add_step_le_of_gt hinner hbelow
    have hway : _ ≤ f.distance num den other + f.distance num den pattern :=
      le_distance_add_distance hgap
    linarith
  · have hgap : f.units pattern + f.step pattern ≤ f.units other := units_add_step_le_of_lt habove
    have hway : _ ≤ f.distance num den pattern + f.distance num den other :=
      le_distance_add_distance hgap
    linarith

/-- A ratio that is the value of a pattern rounds to it. -/
theorem isNearest_of_distance_eq_zero (hden : 0 < den) (h : f.distance num den pattern = 0) :
    f.IsNearest num den pattern := by
  refine isNearest_of_lt fun other hne => ?_
  rw [h, distance, abs_pos, sub_ne_zero]
  intro heq
  rw [distance, abs_eq_zero, sub_eq_zero, ← heq] at h
  have hvalues : f.units pattern * den = f.units other * den := by exact_mod_cast h
  exact hne (f.strictMono_units.injective (Nat.eq_of_mul_eq_mul_right hden hvalues).symm)

/-- The value of the pattern below is at most a step smaller. -/
theorem units_succ_le (pattern : Nat) :
    f.units (pattern + 1) ≤ f.units pattern + f.step (pattern + 1) := by
  rw [units_succ]
  exact Nat.add_le_add_left (step_mono (Nat.le_succ pattern)) _

/-- A ratio is at most half a step from the value to which it rounds. -/
theorem IsNearest.two_mul_distance_le (hden : 0 < den) (h : f.IsNearest num den pattern) :
    2 * f.distance num den pattern ≤ (f.step pattern * den : ℕ) := by
  have hnext := h.le (pattern + 1)
  have habove : (f.units (pattern + 1) * den : ℤ) =
      f.units pattern * den + (f.step pattern * den : ℕ) := by
    rw [units_succ]
    push_cast
    ring
  rw [distance, distance, habove] at hnext
  rw [distance]
  cases pattern with
  | zero =>
    -- no ratio lies below the least value
    have hzero : f.units 0 = 0 := by simp [units, f.fractions_pos]
    have hstep : 0 < f.step 0 * den := Nat.mul_pos (f.step_pos 0) hden
    rw [hzero, Nat.cast_zero, zero_mul] at hnext ⊢
    rw [zero_sub, abs_neg, Nat.abs_cast] at hnext ⊢
    simp only [le_abs] at hnext
    omega
  | succ below =>
    have hprevious := h.le below
    have hless : (f.units below * den : ℤ) < f.units (below + 1) * den := by
      exact_mod_cast Nat.mul_lt_mul_of_pos_right (f.strictMono_units (Nat.lt_succ_self below)) hden
    have hgap : (f.units (below + 1) * den : ℤ) ≤
        f.units below * den + (f.step (below + 1) * den : ℕ) := by
      rw [← Nat.cast_mul, ← Nat.cast_mul, ← Nat.cast_add, ← Nat.add_mul]
      exact_mod_cast Nat.mul_le_mul_right den (f.units_succ_le below)
    rw [distance, distance] at hprevious
    obtain ⟨hway, _⟩ | ⟨hway, _⟩ := abs_cases
      ((f.units (below + 1) * den : ℤ) - (num * 2 ^ f.scale : ℕ))
    all_goals
      simp only [hway, le_abs] at hnext hprevious ⊢
      omega

end StudentRoster.Binary.Format
