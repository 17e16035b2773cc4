import StudentRoster.Gpa.Hundredths
import StudentRoster.Gpa.Literal
import StudentRoster.Proofs.Binary.Nearest
import StudentRoster.Proofs.Text.Numeral
import StudentRoster.Proofs.Text.Words

/-!
# Printed averages read back

A printed average is a literal, and the average that it denotes prints the same (`ofLiteral?_text`,
`text_reread`). For a finite average this is an argument about distances: the average nearest to the
printed hundredths is no farther from them than the average that was printed, so that it rounds to
the same hundredths. It cannot be infinite, since half a hundredth is less than the last step below
infinity.
-/

set_option autoImplicit false

namespace StudentRoster.Gpa

open Binary Text

/-! ## The digits -/

/-- The digits of a number of hundredths, with the point left out, denote that number. -/
theorem ofDigitChars_hundredths (n : Nat) :
    Nat.ofDigitChars 10
      (Nat.toDigits 10 (n / 100) ++
        [Nat.digitChar (n / 10 % 10), Nat.digitChar (n % 10)]) 0 = n := by
  rw [Nat.ofDigitChars_append, Nat.ofDigitChars_ten_toDigits,
    Nat.ofDigitChars_cons_digitChar_of_lt_ten (by omega),
    Nat.ofDigitChars_cons_digitChar_of_lt_ten (by omega), Nat.ofDigitChars_nil]
  omega

/-- The hundredths are read back exactly, as a whole number and the power of ten behind it. -/
theorem decimal?_hundredthsText (n : Nat) :
    RealNumeral.decimal? (hundredthsText n) = some (n, -2) := by
  have hwhole : (hundredthsText n).takeWhile Char.isDigit = Nat.toDigits 10 (n / 100) := by
    rw [hundredthsText, List.takeWhile_append_of_pos fun c hc => isDigit_of_mem_decimal hc]
    simp
  have hrest : (hundredthsText n).dropWhile Char.isDigit =
      ['.', Nat.digitChar (n / 10 % 10), Nat.digitChar (n % 10)] := by
    rw [hundredthsText, List.dropWhile_append_of_pos fun c hc => isDigit_of_mem_decimal hc]
    simp
  have htens : (Nat.digitChar (n / 10 % 10)).isDigit = true := by
    simp [Nat.isDigit_digitChar]
    omega
  have hones : (Nat.digitChar (n % 10)).isDigit = true := by
    simp [Nat.isDigit_digitChar]
    omega
  have hdigits : natural? (Nat.toDigits 10 (n / 100) ++
      [Nat.digitChar (n / 10 % 10), Nat.digitChar (n % 10)]) = some n := by
    have hall : (Nat.toDigits 10 (n / 100)).all Char.isDigit = true :=
      List.all_eq_true.mpr fun c hc => isDigit_of_mem_decimal hc
    simp [natural?, hall, htens, hones, ofDigitChars_hundredths]
  simp [RealNumeral.decimal?, hwhole, hrest, RealNumeral.fractionDigits, htens, hones, hdigits,
    RealNumeral.exponent?]

/-- Printed hundredths have a point in them. -/
theorem dot_mem_hundredthsText (n : Nat) : '.' ∈ hundredthsText n := by
  simp [hundredthsText]

/-- Hundredths behind a sign are no word, since they have a point. -/
theorem ofText?_of_takeSign {text : List Char} {negative : Bool} {n : Nat}
    (hsign : takeSign text = (negative, hundredthsText n)) :
    RealNumeral.ofText? text = some (.decimal negative n (-2)) := by
  have hdot : '.' ∈ (hundredthsText n).map Char.toLower :=
    List.mem_map.mpr ⟨'.', dot_mem_hundredthsText n, rfl⟩
  have hne (word : List Char) (h : '.' ∉ word) : (hundredthsText n).map Char.toLower ≠ word := by
    rintro rfl
    exact h hdot
  simp only [RealNumeral.ofText?, hsign, hne "inf".toList (by decide),
    hne "infinity".toList (by decide), hne "nan".toList (by decide), or_self, if_false,
    decimal?_hundredthsText, Option.map_some]

/-- In front of printed hundredths there is no sign to be taken. -/
theorem takeSign_hundredthsText (n : Nat) :
    takeSign (hundredthsText n) = (false, hundredthsText n) :=
  takeSign_decimal_append (n / 100) _

/-! ## The average that is read -/

/-- The average that is read where an average was printed. -/
def reread (g : Gpa) : Gpa :=
  if g.isNaN then nan
  else if g.isInfinite then infinity g.negative
  else ofDecimal g.negative g.hundredths (-2)

/-- Hundredths with their sign are read as the average nearest to them. -/
theorem ofLiteral?_hundredthsText (negative : Bool) (n : Nat) :
    ofLiteral? ((if negative then ['-'] else []) ++ hundredthsText n) =
      some (ofDecimal negative n (-2)) := by
  have hsign : takeSign ((if negative then ['-'] else []) ++ hundredthsText n) =
      (negative, hundredthsText n) := by
    cases negative
    · exact takeSign_hundredthsText n
    · rfl
  rw [ofLiteral?, ofText?_of_takeSign hsign]
  rfl

/-- A printed average is read as what a reading makes of it. -/
theorem ofLiteral?_text (g : Gpa) : ofLiteral? g.text = some g.reread := by
  rw [text, reread]
  by_cases hnan : g.isNaN = true
  · rw [if_pos hnan, if_pos hnan]
    decide
  · rw [if_neg hnan, if_neg hnan]
    by_cases hinf : g.isInfinite = true
    · rw [if_pos hinf, if_pos hinf]
      cases g.negative <;> decide
    · rw [if_neg hinf, if_neg hinf]
      exact ofLiteral?_hundredthsText g.negative g.hundredths

/-- Two places are far from the bounds of exponents. -/
theorem ofDecimal_neg_two (digits : Nat) :
    single.ofDecimal digits (-2) = single.nearest digits 100 := by
  have hbound : single.boundExponent digits (-2) = -2 := by
    simp only [Format.boundExponent, single]
    omega
  rw [Format.ofDecimal, hbound]
  rfl

/-- Half a hundredth is less than half of the last step below infinity. -/
theorem units_infinity_gap :
    single.units (single.infinity - 1) + 2 ^ single.scale < single.units single.infinity := by
  decide

/-- The pattern nearest to the hundredths of a finite one is finite, and has the same
hundredths. -/
theorem nearest_roundDiv {pattern n : Nat} (hfinite : pattern < single.infinity)
    (hn : roundDiv (single.units pattern * 100) (2 ^ single.scale) = n) :
    single.nearest n 100 < single.infinity ∧
      roundDiv (single.units (single.nearest n 100) * 100) (2 ^ single.scale) = n := by
  have hone : 0 < 2 ^ single.scale := Nat.two_pow_pos _
  obtain ⟨hhalf, heven⟩ := two_mul_abs_roundDiv_sub_le (single.units pattern * 100) hone
  have hnear := Format.abs_units_unbounded_sub_le (f := single) (by decide) n
    (show 0 < 100 by decide) pattern
  have hlast : single.units pattern ≤ single.units (single.infinity - 1) :=
    single.strictMono_units.monotone (by omega)
  have hgap := units_infinity_gap
  rw [hn] at hhalf heven
  rw [Format.nearest_eq_min]
  generalize hread : single.unbounded n 100 = read at hnear ⊢
  generalize 2 ^ single.scale = one at hone hhalf heven hnear hgap ⊢
  generalize single.units pattern = given at hhalf heven hnear hlast
  push_cast at hhalf heven hnear
  rw [abs_sub_comm] at hhalf heven
  have hbound : 2 * |(single.units read * 100 : ℤ) - n * one| ≤ one := by linarith
  -- the value read and the value given are less than a hundredth apart
  have hbelow : read < single.infinity := by
    apply single.strictMono_units.lt_iff_lt.mp
    have habove := le_abs_self ((single.units read * 100 : ℤ) - n * one)
    have hgiven := neg_abs_le ((given * 100 : ℤ) - n * one)
    have hclose : (single.units read * 100 : ℤ) ≤ given * 100 + one := by linarith
    omega
  rw [min_eq_right (le_of_lt hbelow)]
  refine ⟨hbelow, roundDiv_eq_of_near hone ?_ ?_⟩
  · push_cast
    rw [abs_sub_comm]
    exact hbound
  · intro htie
    push_cast at htie
    rw [abs_sub_comm] at htie
    exact heven (by linarith)

/-- The magnitude of a decimal is the pattern that its digits round to. -/
theorem magnitude_ofDecimal (negative : Bool) (digits : Nat) (exponent : Int) :
    ((ofDecimal negative digits exponent).magnitude : ℕ) = single.ofDecimal digits exponent :=
  rfl

/-- The sign of a decimal is the one that it was given. -/
theorem negative_ofDecimal (negative : Bool) (digits : Nat) (exponent : Int) :
    (ofDecimal negative digits exponent).negative = negative :=
  rfl

/-- The hundredths of a finite average are kept when they are read back. -/
theorem hundredths_reread {g : Gpa} (hfinite : g.magnitude < single.infinity) :
    (ofDecimal g.negative g.hundredths (-2)).magnitude < single.infinity ∧
      (ofDecimal g.negative g.hundredths (-2)).hundredths = g.hundredths := by
  have hgiven : roundDiv (single.units g.magnitude * 100) (2 ^ single.scale) = g.hundredths := by
    rw [hundredths]
  obtain ⟨hbelow, hsame⟩ := nearest_roundDiv hfinite hgiven
  rw [magnitude_ofDecimal, ofDecimal_neg_two]
  refine ⟨hbelow, ?_⟩
  conv_lhs => rw [hundredths, magnitude_ofDecimal, ofDecimal_neg_two]
  exact hsame

/-- A finite average is a number. -/
theorem isNaN_of_lt {g : Gpa} (h : g.magnitude < single.infinity) : g.isNaN = false := by
  rw [isNaN, decide_eq_false_iff_not]
  omega

/-- A finite average is not infinite. -/
theorem isInfinite_of_lt {g : Gpa} (h : g.magnitude < single.infinity) : g.isInfinite = false := by
  rw [isInfinite, beq_eq_false_iff_ne]
  omega

/-- An average that is neither no number nor infinite lies below infinity. -/
theorem lt_infinity_of_not {g : Gpa} (hnan : g.isNaN ≠ true) (hinf : g.isInfinite ≠ true) :
    g.magnitude < single.infinity := by
  rw [isNaN, ne_eq, decide_eq_true_eq] at hnan
  rw [isInfinite, ne_eq, beq_iff_eq] at hinf
  omega

/-- What is no number is printed as such. -/
theorem text_nan : nan.text = "NaN".toList := by
  rw [text, if_pos (by decide)]

/-- A finite average is printed as its sign and its hundredths. -/
theorem text_of_lt {g : Gpa} (h : g.magnitude < single.infinity) :
    g.text = (if g.negative then ['-'] else []) ++ hundredthsText g.hundredths := by
  rw [text, isNaN_of_lt h, isInfinite_of_lt h, if_neg Bool.false_ne_true,
    if_neg Bool.false_ne_true]

/-- An infinite average is a number. -/
theorem isNaN_of_isInfinite {g : Gpa} (hinf : g.isInfinite = true) : g.isNaN = false := by
  rw [isInfinite, beq_iff_eq] at hinf
  rw [isNaN, decide_eq_false_iff_not]
  omega

/-- An infinite average is printed as its sign and the short word. -/
theorem text_of_isInfinite {g : Gpa} (hinf : g.isInfinite = true) :
    g.text = (if g.negative then ['-'] else []) ++ "inf".toList := by
  rw [text, isNaN_of_isInfinite hinf, hinf, if_neg Bool.false_ne_true, if_pos rfl]

/-- An infinity is printed by its sign. -/
theorem text_infinity (negative : Bool) :
    (infinity negative).text = (if negative then ['-'] else []) ++ "inf".toList :=
  text_of_isInfinite (beq_self_eq_true _)

/-- What is read back is printed the same. -/
theorem text_reread (g : Gpa) : g.reread.text = g.text := by
  rw [reread]
  by_cases hnan : g.isNaN = true
  · rw [if_pos hnan, text_nan, text, if_pos hnan]
  · rw [if_neg hnan]
    by_cases hinf : g.isInfinite = true
    · rw [if_pos hinf, text_infinity, text_of_isInfinite hinf]
    · have hfinite := lt_infinity_of_not hnan hinf
      obtain ⟨hread, hsame⟩ := hundredths_reread hfinite
      rw [if_neg hinf, text_of_lt hread, text_of_lt hfinite, hsame, negative_ofDecimal]

/-! ## The text as a word -/

/-- Printed hundredths have no blank in them. -/
theorem isBlank_eq_false_of_mem_hundredthsText {n : Nat} {c : Char} (h : c ∈ hundredthsText n) :
    isBlank c = false := by
  simp only [hundredthsText, List.mem_append, List.mem_cons, List.not_mem_nil, or_false] at h
  rcases h with h | rfl | rfl | rfl
  · exact isBlank_eq_false_of_isDigit (isDigit_of_mem_decimal h)
  · decide
  · exact isBlank_eq_false_of_isDigit (by rw [Nat.isDigit_digitChar]; simp; omega)
  · exact isBlank_eq_false_of_isDigit (by rw [Nat.isDigit_digitChar]; simp; omega)

/-- A printed average is a field. -/
theorem isField_text (g : Gpa) : IsField g.text := by
  by_cases hnan : g.isNaN = true
  · rw [text, if_pos hnan]
    decide
  · by_cases hinf : g.isInfinite = true
    · rw [text_of_isInfinite hinf]
      cases g.negative <;> decide
    · rw [text_of_lt (lt_infinity_of_not hnan hinf)]
      refine ⟨by simp [hundredthsText], fun c hc => ?_⟩
      rcases List.mem_append.mp hc with hsign | hdigits
      · cases hnegative : g.negative <;> simp [hnegative] at hsign
        rw [hsign]
        decide
      · exact isBlank_eq_false_of_mem_hundredthsText hdigits

end StudentRoster.Gpa
