import Mathlib.Tactic.Linarith
import Mathlib.Tactic.Ring
import Mathlib.Order.Monotone.Basic
import Mathlib.Algebra.Order.Group.Unbundled.Abs
import Mathlib.Algebra.Order.Ring.Abs
import StudentRoster.Binary.Format

/-!
# Rounding goes to the nearest

`roundDiv` gives a whole number at the least distance from the ratio, and of two such numbers the
even one; `roundDiv_eq_of_near` says that this fixes it. For a format, `abs_units_unbounded_sub_le`
says the same of patterns: without the bound at infinity, no pattern has a value nearer to a ratio
than the one that `Format.nearest` computes. Distances from a ratio are measured in multiples of
one over its denominator, so that they are whole numbers.
-/

set_option autoImplicit false

namespace StudentRoster.Binary

/-! ## Whole numbers -/

/-- The three ways in which a quotient is rounded. -/
theorem roundDiv_cases (num den : Nat) :
    (2 * (num % den) < den ∧ roundDiv num den = num / den) ∨
    (den < 2 * (num % den) ∧ roundDiv num den = num / den + 1) ∨
    (2 * (num % den) = den ∧ roundDiv num den = num / den + num / den % 2) := by
  simp only [roundDiv]
  split
  · exact Or.inl ⟨by assumption, rfl⟩
  · split
    · exact Or.inr (Or.inl ⟨by assumption, rfl⟩)
    · exact Or.inr (Or.inr ⟨by omega, rfl⟩)

/-- The rounded quotient is at most half a step off, and at a tie it is even. -/
theorem two_mul_abs_roundDiv_sub_le (num : Nat) {den : Nat} (hden : 0 < den) :
    2 * |(roundDiv num den * den : ℤ) - num| ≤ den ∧
    (2 * |(roundDiv num den * den : ℤ) - num| = den → roundDiv num den % 2 = 0) := by
  have hround := roundDiv_cases num den
  have hdiv : (num : ℤ) = (num / den : ℕ) * den + (num % den : ℕ) := by
    exact_mod_cast (Nat.div_add_mod' num den).symm
  have hmod := Nat.mod_lt num hden
  generalize num / den = q at hround hdiv
  generalize num % den = r at hround hdiv hmod
  have hbelow : |(q * den : ℤ) - num| = r := by
    rw [hdiv, sub_add_cancel_left, abs_neg, abs_of_nonneg (by positivity)]
  have habove : |((q + 1 : ℕ) * den : ℤ) - num| = den - r := by
    rw [hdiv, show ((q + 1 : ℕ) * den : ℤ) - (q * den + r) = den - r by push_cast; ring,
      abs_of_nonneg (by omega)]
  obtain ⟨hr, h⟩ | ⟨hr, h⟩ | ⟨hr, h⟩ := hround
  · rw [h, hbelow]
    omega
  · rw [h, habove]
    omega
  · -- a tie: the quotient itself when it is even, else the number after it
    rcases Nat.mod_two_eq_zero_or_one q with hpar | hpar
    · rw [h, hpar, Nat.add_zero, hbelow]
      omega
    · rw [h, hpar, habove]
      omega

/-- Two whole numbers are at least one step apart, so that the way from one to the other over the
ratio is not shorter. -/
theorem le_abs_sub_add_abs_sub {a b : ℕ} (hne : a ≠ b) (num den : ℤ) (hden : 0 ≤ den) :
    den ≤ |(a * den) - num| + |(b * den) - num| := by
  have hstep : (1 : ℤ) ≤ |(a : ℤ) - b| := Int.one_le_abs (by omega)
  calc den ≤ |(a : ℤ) - b| * den := le_mul_of_one_le_left hden hstep
    _ = |((a : ℤ) * den - num) - (b * den - num)| := by
      rw [← abs_of_nonneg hden, ← abs_mul, abs_of_nonneg hden]
      ring_nf
    _ ≤ |(a * den) - num| + |(b * den) - num| := abs_sub _ _

/-- No whole number is nearer to the ratio than the rounded quotient. -/
theorem abs_roundDiv_sub_le (num : Nat) {den : Nat} (hden : 0 < den) (k : Nat) :
    |(roundDiv num den * den : ℤ) - num| ≤ |(k * den : ℤ) - num| := by
  by_cases hk : k = roundDiv num den
  · rw [hk]
  · have hhalf := (two_mul_abs_roundDiv_sub_le num hden).1
    have hway := le_abs_sub_add_abs_sub hk num den (by positivity)
    linarith

/-- A whole number less than half a step off is the rounded quotient, and an even one that is
exactly half a step off is too. -/
theorem roundDiv_eq_of_near {num den n : Nat} (hden : 0 < den)
    (hle : 2 * |(n * den : ℤ) - num| ≤ den)
    (htie : 2 * |(n * den : ℤ) - num| = den → n % 2 = 0) : roundDiv num den = n := by
  by_contra hne
  obtain ⟨hhalf, heven⟩ := two_mul_abs_roundDiv_sub_le num hden
  have hway := le_abs_sub_add_abs_sub hne num den (by positivity)
  have hn := htie (by linarith)
  have hm := heven (by linarith)
  -- both are half a step off and even, hence at least two steps apart
  have hstep : (2 : ℤ) ≤ |(roundDiv num den : ℤ) - n| := by
    rcases abs_cases ((roundDiv num den : ℤ) - n) with ⟨h, _⟩ | ⟨h, _⟩ <;> omega
  have hfar : (2 * den : ℤ) ≤ |(roundDiv num den * den : ℤ) - num| + |(n * den : ℤ) - num| := by
    calc (2 * den : ℤ) ≤ |(roundDiv num den : ℤ) - n| * den :=
          mul_le_mul_of_nonneg_right hstep (by positivity)
      _ = |((roundDiv num den : ℤ) * den - num) - (n * den - num)| := by
        rw [← Nat.abs_cast den, ← abs_mul, Nat.abs_cast]
        ring_nf
      _ ≤ _ := abs_sub _ _
  have : (0 : ℤ) < den := by exact_mod_cast hden
  linarith

/-! ## Patterns -/

namespace Format

variable (f : Format)

/-- A significand together with the number of bits by which it is shifted: without a shift it may be
small, and the number after the greatest significand is allowed, since a rounding may give it. -/
def IsSplit (shift significand : Nat) : Prop :=
  (shift = 0 ∨ f.fractions ≤ significand) ∧ significand ≤ 2 * f.fractions

/-- There are fractions. -/
theorem fractions_pos : 0 < f.fractions := Nat.two_pow_pos _

/-- The value of a pattern is its significand, shifted. -/
theorem units_of_isSplit {shift significand : Nat} (h : f.IsSplit shift significand) :
    f.units (shift * f.fractions + significand) = significand * 2 ^ shift := by
  obtain ⟨hlow, hhigh⟩ := h
  have hpos := f.fractions_pos
  by_cases hsmall : significand < f.fractions
  · have hshift : shift = 0 := hlow.resolve_right (by omega)
    simp [units, hshift, hsmall]
  · have hpattern : ¬ shift * f.fractions + significand < f.fractions := by omega
    rw [units, if_neg hpattern]
    by_cases htop : significand = 2 * f.fractions
    · have hsum : shift * f.fractions + significand = (shift + 2) * f.fractions := by
        rw [htop]; ring
      rw [hsum, Nat.mul_mod_left, Nat.mul_div_cancel _ hpos, htop, Nat.add_sub_assoc (by omega),
        pow_succ]
      ring
    · have hsum : shift * f.fractions + significand =
          significand - f.fractions + (shift + 1) * f.fractions := by
        rw [Nat.add_mul]; omega
      rw [hsum, Nat.add_mul_mod_self_right, Nat.mod_eq_of_lt (by omega),
        Nat.add_mul_div_right _ _ hpos, Nat.div_eq_of_lt (by omega)]
      rw [show f.fractions + (significand - f.fractions) = significand by omega,
        show 0 + (shift + 1) - 1 = shift by omega]

/-- Every pattern is a shifted significand that leaves room for the next one. -/
theorem exists_isSplit (pattern : Nat) :
    ∃ shift significand, pattern = shift * f.fractions + significand ∧
      f.IsSplit shift significand ∧ significand < 2 * f.fractions := by
  have hpos := f.fractions_pos
  have hdiv := Nat.div_add_mod' pattern f.fractions
  have hmod := Nat.mod_lt pattern hpos
  cases hquot : pattern / f.fractions with
  | zero =>
    rw [hquot, Nat.zero_mul] at hdiv
    exact ⟨0, pattern, by omega, ⟨Or.inl rfl, by omega⟩, by omega⟩
  | succ shift =>
    rw [hquot, Nat.succ_mul] at hdiv
    exact ⟨shift, f.fractions + pattern % f.fractions, by omega, ⟨Or.inr (by omega), by omega⟩,
      by omega⟩

/-- The way from the value of a pattern to that of the next one. -/
def step (pattern : Nat) : Nat := 2 ^ (pattern / f.fractions - 1)

/-- No two patterns have the same value. -/
theorem step_pos (pattern : Nat) : 0 < f.step pattern := Nat.two_pow_pos _

/-- A step is one significand, shifted. -/
theorem step_of_isSplit {shift significand : Nat} (h : f.IsSplit shift significand)
    (hroom : significand < 2 * f.fractions) :
    f.step (shift * f.fractions + significand) = 2 ^ shift := by
  have hpos := f.fractions_pos
  rw [step]
  by_cases hsmall : significand < f.fractions
  · obtain rfl : shift = 0 := h.1.resolve_right (by omega)
    rw [Nat.zero_mul, Nat.zero_add, Nat.div_eq_of_lt hsmall]
  · have hsum : shift * f.fractions + significand =
        significand - f.fractions + (shift + 1) * f.fractions := by
      rw [Nat.add_mul]; omega
    rw [hsum, Nat.add_mul_div_right _ _ hpos, Nat.div_eq_of_lt (by omega)]
    congr 1
    omega

/-- From each pattern a step leads to the next one. -/
theorem units_succ (pattern : Nat) : f.units (pattern + 1) = f.units pattern + f.step pattern := by
  obtain ⟨shift, significand, rfl, hsplit, hroom⟩ := f.exists_isSplit pattern
  have hnext : f.IsSplit shift (significand + 1) :=
    ⟨hsplit.1.imp id (fun h => by omega), by omega⟩
  rw [f.step_of_isSplit hsplit hroom, Nat.add_assoc, f.units_of_isSplit hsplit,
    f.units_of_isSplit hnext, Nat.succ_mul]

/-- Greater patterns have greater values. -/
theorem strictMono_units : StrictMono f.units := by
  apply strictMono_nat_of_lt_succ
  intro pattern
  have hstep := f.step_pos pattern
  rw [units_succ]
  omega

/-- The number of low bits of a ratio, in units, that do not fit into a significand. -/
def shiftOf (num den : Nat) : Nat := (num * 2 ^ f.scale / den).log2 + 1 - f.precision

/-- The pattern nearest to a ratio when none is bounded by infinity. -/
def unbounded (num den : Nat) : Nat :=
  f.shiftOf num den * f.fractions +
    roundDiv (num * 2 ^ f.scale) (den * 2 ^ f.shiftOf num den)

/-- The nearest pattern is the unbounded one, but no greater than infinity. -/
theorem nearest_eq_min (num den : Nat) :
    f.nearest num den = min f.infinity (f.unbounded num den) :=
  rfl

variable {f}

/-- The ratio in units, cut to a whole number and without its low bits, is a significand. -/
theorem isSplit_floor (hprecision : 0 < f.precision) (num den : Nat) :
    f.IsSplit (f.shiftOf num den) (num * 2 ^ f.scale / (den * 2 ^ f.shiftOf num den)) ∧
      num * 2 ^ f.scale / (den * 2 ^ f.shiftOf num den) < 2 * f.fractions := by
  have htwice : 2 * f.fractions = 2 ^ f.precision := by
    rw [fractions, ← pow_succ', Nat.sub_add_cancel hprecision]
  rw [← Nat.div_div_eq_div_mul, shiftOf, IsSplit, htwice]
  generalize num * 2 ^ f.scale / den = floor
  have hlt : floor < 2 ^ (floor.log2 + 1) := Nat.lt_log2_self
  by_cases hfits : floor.log2 + 1 ≤ f.precision
  · have hle := Nat.pow_le_pow_right (n := 2) (by omega) hfits
    rw [Nat.sub_eq_zero_of_le hfits, pow_zero, Nat.div_one]
    exact ⟨⟨Or.inl rfl, by omega⟩, by omega⟩
  · obtain ⟨extra, hextra⟩ := Nat.exists_eq_add_of_lt (Nat.lt_of_not_le hfits)
    have hne : floor ≠ 0 := by
      rintro rfl
      simp at hfits
      omega
    have hlow : f.fractions ≤ floor / 2 ^ (floor.log2 + 1 - f.precision) := by
      rw [Nat.le_div_iff_mul_le (Nat.two_pow_pos _), fractions, ← pow_add,
        show f.precision - 1 + (floor.log2 + 1 - f.precision) = floor.log2 by omega]
      exact Nat.log2_self_le hne
    have hhigh : floor / 2 ^ (floor.log2 + 1 - f.precision) < 2 ^ f.precision := by
      rw [Nat.div_lt_iff_lt_mul (Nat.two_pow_pos _), ← pow_add,
        show f.precision + (floor.log2 + 1 - f.precision) = floor.log2 + 1 by omega]
      exact hlt
    exact ⟨⟨Or.inr hlow, by omega⟩, hhigh⟩

/-- The value of the unbounded pattern is the rounded significand, shifted. -/
theorem units_unbounded (hprecision : 0 < f.precision) (num den : Nat) :
    f.units (f.unbounded num den) =
      roundDiv (num * 2 ^ f.scale) (den * 2 ^ f.shiftOf num den) * 2 ^ f.shiftOf num den := by
  obtain ⟨⟨hlow, _⟩, hroom⟩ := isSplit_floor hprecision num den
  have hle := div_le_roundDiv (num * 2 ^ f.scale) (den * 2 ^ f.shiftOf num den)
  have hge := roundDiv_le_div_add_one (num * 2 ^ f.scale) (den * 2 ^ f.shiftOf num den)
  exact f.units_of_isSplit ⟨hlow.imp id (fun h => by omega), by omega⟩

/-- A value that is no multiple of the step between the values around a ratio is smaller than all of
these. -/
theorem units_lt_of_not_dvd {shift pattern : Nat} (h : ¬ 2 ^ shift ∣ f.units pattern) :
    f.units pattern < f.fractions * 2 ^ shift := by
  obtain ⟨own, significand, rfl, hsplit, hroom⟩ := f.exists_isSplit pattern
  rw [f.units_of_isSplit hsplit] at h ⊢
  have hown : own < shift := by
    by_contra hle
    exact h (Dvd.dvd.mul_left (pow_dvd_pow 2 (by omega)) significand)
  calc significand * 2 ^ own < 2 * f.fractions * 2 ^ own :=
        Nat.mul_lt_mul_of_pos_right hroom (Nat.two_pow_pos _)
    _ = f.fractions * 2 ^ (own + 1) := by ring
    _ ≤ f.fractions * 2 ^ shift :=
      Nat.mul_le_mul_left _ (Nat.pow_le_pow_right (by omega) hown)

/-- A value that is no multiple of the step between the values around a ratio is farther from it
than the value of the unbounded pattern. -/
theorem abs_units_unbounded_sub_lt (hprecision : 0 < f.precision) (num : Nat) {den : Nat}
    (hden : 0 < den) {pattern : Nat} (h : ¬ 2 ^ f.shiftOf num den ∣ f.units pattern) :
    |(f.units (f.unbounded num den) * den : ℤ) - (num * 2 ^ f.scale : ℕ)| <
      |(f.units pattern * den : ℤ) - (num * 2 ^ f.scale : ℕ)| := by
  obtain ⟨⟨hlow, _⟩, _⟩ := isSplit_floor hprecision num den
  rw [units_unbounded hprecision]
  generalize f.shiftOf num den = shift at hlow h ⊢
  generalize num * 2 ^ f.scale = scaled at hlow ⊢
  have hstep : 0 < den * 2 ^ shift := Nat.mul_pos hden (Nat.two_pow_pos _)
  have hmove (k : ℕ) : ((k * 2 ^ shift : ℕ) * den : ℤ) = k * (den * 2 ^ shift : ℕ) := by
    push_cast; ring
  -- the value lies below the least significand, which lies below the ratio
  have hfloor : f.fractions ≤ scaled / (den * 2 ^ shift) := by
    refine hlow.resolve_left ?_
    rintro rfl
    exact h (one_dvd _)
  have hleast : (f.fractions * (den * 2 ^ shift : ℕ) : ℤ) ≤ scaled := by
    exact_mod_cast (Nat.le_div_iff_mul_le hstep).mp hfloor
  have hbelow : (f.units pattern * den : ℤ) < f.fractions * (den * 2 ^ shift : ℕ) := by
    rw [← hmove]
    exact_mod_cast Nat.mul_lt_mul_of_pos_right (units_lt_of_not_dvd h) hden
  rw [hmove]
  calc _ ≤ |(f.fractions * (den * 2 ^ shift : ℕ) : ℤ) - scaled| :=
        abs_roundDiv_sub_le scaled hstep f.fractions
    _ = scaled - f.fractions * (den * 2 ^ shift : ℕ) := by
      rw [abs_of_nonpos (by linarith)]; ring
    _ < scaled - f.units pattern * den := by linarith
    _ = |(f.units pattern * den : ℤ) - scaled| := by
      rw [abs_of_nonpos (by linarith)]; ring

/-- The distance of a multiple of the step between the values around a ratio, in steps. -/
theorem units_mul_of_dvd {shift den pattern k : Nat} (h : f.units pattern = 2 ^ shift * k) :
    (f.units pattern * den : ℤ) = k * (den * 2 ^ shift : ℕ) := by
  rw [h]
  push_cast
  ring

/-- No pattern has a value nearer to a ratio than the unbounded pattern. -/
theorem abs_units_unbounded_sub_le (hprecision : 0 < f.precision) (num : Nat) {den : Nat}
    (hden : 0 < den) (pattern : Nat) :
    |(f.units (f.unbounded num den) * den : ℤ) - (num * 2 ^ f.scale : ℕ)| ≤
      |(f.units pattern * den : ℤ) - (num * 2 ^ f.scale : ℕ)| := by
  by_cases hdvd : 2 ^ f.shiftOf num den ∣ f.units pattern
  · -- a multiple of the step is one of the whole numbers among which the significand was chosen
    obtain ⟨k, hk⟩ := hdvd
    have hown := (units_unbounded hprecision num den).trans (Nat.mul_comm _ _)
    rw [units_mul_of_dvd hk, units_mul_of_dvd hown]
    exact abs_roundDiv_sub_le _ (Nat.mul_pos hden (Nat.two_pow_pos _)) k
  · exact le_of_lt (abs_units_unbounded_sub_lt hprecision num hden hdvd)

end Format

end StudentRoster.Binary
