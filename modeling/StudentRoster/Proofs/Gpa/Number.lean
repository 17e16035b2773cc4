import StudentRoster.Proofs.Binary.Overflow
import StudentRoster.Proofs.Gpa.Reread

/-!
# The number that an average is

A pattern stands for a rational number, for one of the infinities or for no number at all. Two
averages are the same value when they stand for the same number (`sameValue_iff_number?`). Since
greater patterns have greater values, this leaves them no freedom but the sign of a zero
(`eq_or_zero_of_number?`), and a zero is shown with its sign (`text_of_zero`).
-/

set_option autoImplicit false

namespace StudentRoster.Gpa

open Binary

/-- A number of the extended line. -/
inductive Number where
  | finite (value : ℚ)
  | infinite (negative : Bool)

/-- The number that an average stands for, if it is one. -/
def number? (g : Gpa) : Option Number :=
  if g.isNaN then none
  else if g.isInfinite then some (.infinite g.negative)
  else some (.finite ((if g.negative then -1 else 1) * single.value g.magnitude))

variable {a b : Gpa}

/-! ## Values of patterns -/

/-- Different patterns have different values. -/
theorem value_eq_iff {pattern other : Nat} :
    single.value pattern = single.value other ↔ pattern = other := by
  have hscale : (2 : ℚ) ^ single.scale ≠ 0 := pow_ne_zero _ two_ne_zero
  rw [Format.value, Format.value, div_left_inj' hscale, Nat.cast_inj,
    (Format.strictMono_units single).injective.eq_iff]

/-- A pattern without a sign is not negative. -/
theorem value_nonneg (pattern : Nat) : 0 ≤ single.value pattern := by
  rw [Format.value]
  positivity

/-- Zero is the value of one pattern only. -/
theorem value_eq_zero_iff (pattern : Nat) : single.value pattern = 0 ↔ pattern = 0 := by
  have hzero : single.value 0 = 0 := by
    rw [Format.value, Format.units, if_pos (Format.fractions_pos single), Nat.cast_zero, zero_div]
  rw [← hzero, value_eq_iff]

/-- Values with signs are equal if they are the same, or both zero. -/
theorem signed_value_eq_iff {negative negative' : Bool} {pattern other : Nat} :
    (if negative then -1 else 1) * single.value pattern =
        (if negative' then -1 else 1) * single.value other ↔
      negative = negative' ∧ pattern = other ∨ pattern = 0 ∧ other = 0 := by
  have hpattern := value_nonneg pattern
  have hother := value_nonneg other
  rw [← value_eq_iff, ← value_eq_zero_iff pattern, ← value_eq_zero_iff other]
  generalize single.value pattern = x at hpattern ⊢
  generalize single.value other = y at hother ⊢
  constructor
  · intro h
    cases negative <;> cases negative' <;>
      simp only [Bool.false_eq_true, if_true, if_false, one_mul, neg_mul, neg_inj] at h
    · exact .inl ⟨rfl, h⟩
    · exact .inr ⟨by linarith, by linarith⟩
    · exact .inr ⟨by linarith, by linarith⟩
    · exact .inl ⟨rfl, h⟩
  · rintro (⟨rfl, rfl⟩ | ⟨rfl, rfl⟩)
    · rfl
    · rw [mul_zero, mul_zero]

/-! ## Equal values -/

/-- Two averages are the same value if they are numbers and the same pattern, or both zero. -/
theorem sameValue_eq_true_iff :
    a.sameValue b = true ↔ (a.isNaN = false ∧ b.isNaN = false) ∧
      (a = b ∨ (a.magnitude : ℕ) = 0 ∧ (b.magnitude : ℕ) = 0) := by
  simp [sameValue]

/-- Averages are the same when sign and magnitude are. -/
theorem eq_iff_parts : a = b ↔ a.negative = b.negative ∧ (a.magnitude : ℕ) = b.magnitude := by
  obtain ⟨negative, magnitude⟩ := a
  obtain ⟨negative', magnitude'⟩ := b
  rw [mk.injEq, Fin.ext_iff]

/-- An infinite average is the infinite number of its sign. -/
theorem number?_of_isInfinite (h : a.isInfinite = true) :
    a.number? = some (.infinite a.negative) := by
  rw [number?, isNaN_of_isInfinite h, if_neg Bool.false_ne_true, if_pos h]

/-- A finite average is the value of its magnitude, with its sign. -/
theorem number?_of_lt (h : (a.magnitude : ℕ) < single.infinity) :
    a.number? = some (.finite ((if a.negative then -1 else 1) * single.value a.magnitude)) := by
  rw [number?, isNaN_of_lt h, isInfinite_of_lt h, if_neg Bool.false_ne_true,
    if_neg Bool.false_ne_true]

/-- All averages but those that are no number have a number. -/
theorem exists_number?_iff : (∃ x, a.number? = some x) ↔ a.isNaN = false := by
  constructor
  · rintro ⟨x, hx⟩
    rw [number?] at hx
    split at hx
    · cases hx
    next h => simpa using h
  · intro h
    by_cases hinf : a.isInfinite = true
    · exact ⟨_, number?_of_isInfinite hinf⟩
    · exact ⟨_, number?_of_lt (lt_infinity_of_not (by simp [h]) hinf)⟩

/-- Two averages stand for the same number if they are the same pattern, or both zero. -/
theorem number?_eq_iff (ha : a.isNaN = false) (hb : b.isNaN = false) :
    a.number? = b.number? ↔ a = b ∨ (a.magnitude : ℕ) = 0 ∧ (b.magnitude : ℕ) = 0 := by
  have hmagnitude {g : Gpa} (h : g.isInfinite = true) : (g.magnitude : ℕ) = single.infinity := by
    rwa [isInfinite, beq_iff_eq] at h
  have hpositive : single.infinity ≠ 0 := by decide
  rw [eq_iff_parts]
  by_cases hainf : a.isInfinite = true
  · rw [number?_of_isInfinite hainf, hmagnitude hainf]
    by_cases hbinf : b.isInfinite = true
    · rw [number?_of_isInfinite hbinf, hmagnitude hbinf]
      simp [hpositive]
    · have hb := lt_infinity_of_not (by simp [hb]) hbinf
      rw [number?_of_lt hb]
      simp [hpositive, hb.ne']
  · have ha := lt_infinity_of_not (by simp [ha]) hainf
    rw [number?_of_lt ha]
    by_cases hbinf : b.isInfinite = true
    · rw [number?_of_isInfinite hbinf, hmagnitude hbinf]
      simp [hpositive, ha.ne]
    · have hb := lt_infinity_of_not (by simp [hb]) hbinf
      rw [number?_of_lt hb, Option.some_inj, Number.finite.injEq, signed_value_eq_iff]

/-- Two averages are the same value exactly when they stand for the same number. -/
theorem sameValue_iff_number? :
    a.sameValue b = true ↔ ∃ x, a.number? = some x ∧ b.number? = some x := by
  rw [sameValue_eq_true_iff]
  constructor
  · rintro ⟨⟨ha, hb⟩, h⟩
    obtain ⟨x, hx⟩ := exists_number?_iff.mpr ha
    exact ⟨x, hx, ((number?_eq_iff ha hb).mpr h).symm.trans hx⟩
  · rintro ⟨x, hax, hbx⟩
    have ha := exists_number?_iff.mp ⟨x, hax⟩
    have hb := exists_number?_iff.mp ⟨x, hbx⟩
    exact ⟨⟨ha, hb⟩, (number?_eq_iff ha hb).mp (hax.trans hbx.symm)⟩

/-- So two averages that are the same value are one pattern, unless both are zero. -/
theorem eq_or_zero_of_number? {x : Number} (ha : a.number? = some x) (hb : b.number? = some x) :
    a = b ∨ (a.magnitude : ℕ) = 0 ∧ (b.magnitude : ℕ) = 0 :=
  (number?_eq_iff (exists_number?_iff.mp ⟨x, ha⟩) (exists_number?_iff.mp ⟨x, hb⟩)).mp
    (ha.trans hb.symm)

/-! ## Zeros -/

/-- Both zeros are the number zero. -/
theorem number?_of_zero (h : (a.magnitude : ℕ) = 0) : a.number? = some (.finite 0) := by
  rw [number?_of_lt (by rw [h]; decide), h, (value_eq_zero_iff 0).mpr rfl, mul_zero]

/-- A zero is shown with its sign. -/
theorem text_of_zero (h : (a.magnitude : ℕ) = 0) :
    a.text = (if a.negative then ['-'] else []) ++ "0.00".toList := by
  rw [text_of_lt (by rw [h]; decide), hundredths, h]
  congr 1

end StudentRoster.Gpa
