import StudentRoster.Proofs.Student.Grammar
import StudentRoster.Proofs.Student.Reread

/-!
# Averages typed with two places

An average of single precision is at most a few thousandths off a decimal with two places, as long
as the steps between averages are shorter than a hundredth. This is so below 131072: there and at
131072.00 itself every such decimal is shown as it was typed (`line_shows_typed_gpa`). The next one
falls between two averages of which none is near enough.
-/

set_option autoImplicit false

namespace StudentRoster

open Binary Text

/-- A decimal with two places in its plain form: no zero stands in front of the whole part unless it
is the whole part. -/
structure TypedGpa where
  negative : Bool
  whole : List Char
  tenths : Char
  hundredths : Char
  isNumeral : IsNumeral whole
  eq_zero_of_head : whole.head? = some '0' → whole = ['0']
  isDigit_tenths : tenths.isDigit = true
  isDigit_hundredths : hundredths.isDigit = true

namespace TypedGpa

/-- The decimal as it is typed. -/
def text (d : TypedGpa) : List Char :=
  (if d.negative then ['-'] else []) ++ d.whole ++ ['.', d.tenths, d.hundredths]

/-- The number of hundredths, without the sign. -/
def count (d : TypedGpa) : Nat := numeralValue (d.whole ++ [d.tenths, d.hundredths])

/-- The text is the one in which hundredths are written. -/
theorem text_eq (d : TypedGpa) :
    d.text = (if d.negative then ['-'] else []) ++ Gpa.hundredthsText d.count := by
  obtain ⟨hten, htenths⟩ := digitChar_of_isDigit d.isDigit_tenths
  obtain ⟨hten', hhundredths⟩ := digitChar_of_isDigit d.isDigit_hundredths
  have hcount : d.count = 10 * (10 * numeralValue d.whole + (d.tenths.toNat - '0'.toNat)) +
      (d.hundredths.toNat - '0'.toNat) := by
    rw [count, ← ofDigitChars_eq_numeralValue, Nat.ofDigitChars_append, Nat.ofDigitChars_cons,
      Nat.ofDigitChars_cons, Nat.ofDigitChars_nil, ofDigitChars_eq_numeralValue]
  have hwhole : d.count / 100 = numeralValue d.whole := by omega
  have htens : d.count / 10 % 10 = d.tenths.toNat - '0'.toNat := by omega
  have hones : d.count % 10 = d.hundredths.toNat - '0'.toNat := by omega
  rw [text, Gpa.hundredthsText, hwhole, htens, hones, htenths, hhundredths,
    toDigits_numeralValue d.isNumeral d.eq_zero_of_head, List.append_assoc]

end TypedGpa

/-! ## The average of a decimal with two places -/

namespace Gpa

/-- The pattern of 131072, with which the steps get longer than a hundredth. -/
def firstWide : Nat := 144 * single.fractions

/-- The first average that is coarser than hundredths is 131072. -/
theorem units_firstWide : single.units firstWide = 131072 * 2 ^ single.scale := by
  decide

/-- The average before it is less by the 128th part of one. -/
theorem units_before_firstWide :
    single.units (firstWide - 1) * 128 + 2 ^ single.scale = single.units firstWide * 128 := by
  decide

/-- In front of it the averages lie closer than hundredths. -/
theorem step_before_firstWide : single.step (firstWide - 1) * 100 < 2 ^ single.scale := by
  decide

/-- Hundredths below 131072 round to a pattern below that of 131072: the pattern before it would be
nearer. -/
theorem lt_firstWide {n pattern : Nat} (hn : n < 13107200) (h : single.IsNearest n 100 pattern) :
    pattern < firstWide := by
  by_contra hwide
  have hvalue : single.units firstWide ≤ single.units pattern :=
    single.strictMono_units.monotone (not_lt.mp hwide)
  have hless : n * 2 ^ single.scale ≤ 13107199 * 2 ^ single.scale :=
    Nat.mul_le_mul_right _ (by omega)
  have hone : 0 < 2 ^ single.scale := Nat.two_pow_pos _
  have hlast := units_before_firstWide
  have hfirst := units_firstWide
  have hle := h.le (firstWide - 1)
  rw [Format.distance, Format.distance] at hle
  generalize single.units pattern = value at hvalue hle
  generalize single.units (firstWide - 1) = last at hlast hle
  generalize single.units firstWide = first at hvalue hlast hfirst
  generalize 2 ^ single.scale = one at hless hone hlast hfirst hle
  generalize n * one = given at hless hle
  simp only [abs_le, le_abs] at hle
  omega

/-- Hundredths up to 131072 are the hundredths of the average nearest to them. -/
theorem hundredths_ofDecimal {n : Nat} (hn : n ≤ 13107200) (negative : Bool) :
    (ofDecimal negative n (-2)).magnitude < single.infinity ∧
      (ofDecimal negative n (-2)).hundredths = n := by
  have hnearest := Format.isNearest_unbounded (f := single) (by decide) n (show 0 < 100 by decide)
  rw [hundredths, magnitude_ofDecimal, ofDecimal_neg_two, Format.nearest_eq_min]
  rcases hn.lt_or_eq with hless | rfl
  · have hbelow := lt_firstWide hless hnearest
    have hfinite : firstWide < single.infinity := by decide
    have hstep : single.step (single.unbounded n 100) ≤ single.step (firstWide - 1) :=
      Format.step_mono (by omega)
    have hnarrow := step_before_firstWide
    rw [min_eq_right (by omega)]
    exact ⟨by omega, eq_roundDiv_of_narrow (by omega) hnearest⟩
  · decide

/-- A typed average up to 131072 is shown as it was typed. -/
theorem text_ofDecimal {n : Nat} (hn : n ≤ 13107200) (negative : Bool) :
    (ofDecimal negative n (-2)).text = (if negative then ['-'] else []) ++ hundredthsText n := by
  obtain ⟨hfinite, hsame⟩ := hundredths_ofDecimal hn negative
  rw [text_of_lt hfinite, hsame, negative_ofDecimal]

/-- Different hundredths have different texts. -/
theorem hundredthsText_injective {n m : Nat} (h : hundredthsText n = hundredthsText m) : n = m := by
  have hread := decimal?_hundredthsText n
  rw [h, decimal?_hundredthsText m] at hread
  cases hread
  rfl

/-- The first number of hundredths above 131072 falls between two averages. -/
theorem text_ofDecimal_ne (negative : Bool) :
    (ofDecimal negative 13107201 (-2)).text ≠
      (if negative then ['-'] else []) ++ hundredthsText 13107201 := by
  have hfinite : (ofDecimal negative 13107201 (-2)).magnitude < single.infinity := by
    rw [magnitude_ofDecimal, ofDecimal_neg_two]
    decide
  have hother : (ofDecimal negative 13107201 (-2)).hundredths = 13107202 := by
    rw [hundredths, magnitude_ofDecimal, ofDecimal_neg_two]
    decide
  rw [text_of_lt hfinite, hother, negative_ofDecimal]
  intro hsame
  exact absurd (hundredthsText_injective (List.append_cancel_left hsame)) (by decide)

end Gpa

/-! ## The line -/

namespace Student

/-- A line whose fourth word is a decimal with two places is read as a student. Up to 131072 the
line of that student shows the decimal as it was typed, and for the next one it does not. -/
theorem line_shows_typed_gpa (d : TypedGpa) {line : String} {id first last major : List Char}
    {n : Int32} (hid : SpellsInteger id n.toInt)
    (hwords : HasWords line.toList [id, first, last, d.text, major]) :
    ∃ s, ofLine line = .ok s ∧
      HasWords s.line.toList [integerDigits n.toInt, first, last, s.gpa.text, major] ∧
      (d.count ≤ 13107200 → s.gpa.text = d.text) ∧
      (d.count = 13107201 → s.gpa.text ≠ d.text) := by
  have hread : ofLine line = .ok ⟨n, String.ofList first, String.ofList last,
      Gpa.ofDecimal d.negative d.count (-2), String.ofList major⟩ := by
    rw [ofLine, hasWords_iff.mp hwords, ofWords]
    simp only [int32?_eq_some_iff.mpr hid, d.text_eq, Gpa.ofLiteral?_hundredthsText]
  refine ⟨_, hread, ?_, ?_, ?_⟩
  · have hshown := words_line (isWellFormed_of_ofLine hread)
    simp only [fields, String.toList_ofList] at hshown
    exact hasWords_iff.mpr hshown
  · intro hbound
    rw [d.text_eq]
    exact Gpa.text_ofDecimal hbound d.negative
  · intro hnext
    rw [d.text_eq, hnext]
    exact Gpa.text_ofDecimal_ne d.negative

/-- The statement at the last decimal that is shown as it was typed. -/
theorem line_shows_typed_gpa_last :
    ∃ d : TypedGpa, d.text = "-131072.00".toList ∧ d.count = 13107200 ∧
      SpellsInteger "+07".toList (7 : Int32).toInt ∧
      HasWords " +07 ann\tlee -131072.00 cs".toList
        ["+07".toList, "ann".toList, "lee".toList, d.text, "cs".toList] ∧
      ∃ s, ofLine " +07 ann\tlee -131072.00 cs" = .ok s ∧
        HasWords s.line.toList
          ["7".toList, "ann".toList, "lee".toList, "-131072.00".toList, "cs".toList] := by
  have hid : SpellsInteger "+07".toList (7 : Int32).toInt := integer?_eq_some_iff.mp (by decide)
  let d : TypedGpa := ⟨true, "131072".toList, '0', '0', ⟨by decide, by simp⟩, by decide,
    by decide, by decide⟩
  have hwords : HasWords " +07 ann\tlee -131072.00 cs".toList
      ["+07".toList, "ann".toList, "lee".toList, d.text, "cs".toList] :=
    hasWords_iff.mpr (by decide)
  have hcount : d.count = 13107200 := by decide
  obtain ⟨s, hread, hline, hshown, -⟩ := line_shows_typed_gpa d hid hwords
  rw [hshown hcount.le] at hline
  exact ⟨d, rfl, hcount, hid, hwords, s, hread, hline⟩

end Student

end StudentRoster
