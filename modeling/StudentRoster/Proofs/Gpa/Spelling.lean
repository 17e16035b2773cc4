import StudentRoster.Gpa.Literal
import StudentRoster.Proofs.Binary.Overflow
import StudentRoster.Proofs.Gpa.Exact
import StudentRoster.Proofs.Text.Spelling

/-!
# How averages are spelled

An average is spelled by a word for infinity or for what is no number, or by a decimal, each behind
a sign that may be left out. A decimal stands for the average that is nearest to its exact value,
and for infinity where this overflows. `ofLiteral?_eq_some_iff` says that exactly these texts are
read, each as the average for which it stands.
-/

set_option autoImplicit false

namespace StudentRoster.Gpa

open Binary Text

/-- The texts for an average. Letters of a word count in either case. -/
inductive IsSpelled : List Char → Gpa → Prop
  | infinity {sign word : List Char} {negative : Bool} (hsign : SpellsSign sign negative)
      (hword : word.map Char.toLower = "inf".toList ∨ word.map Char.toLower = "infinity".toList) :
      IsSpelled (sign ++ word) (infinity negative)
  | nan {sign word : List Char} {negative : Bool} (hsign : SpellsSign sign negative)
      (hword : word.map Char.toLower = "nan".toList) :
      IsSpelled (sign ++ word) { nan with negative := negative }
  | decimal {sign text : List Char} {negative : Bool} {q : ℚ} {g : Gpa}
      (hsign : SpellsSign sign negative) (htext : SpellsDecimal text q)
      (hnegative : g.negative = negative) (hround : single.RoundsTo q g.magnitude) :
      IsSpelled (sign ++ text) g

/-- What reads as a letter of a word is no sign. -/
theorem ne_sign_of_map_toLower {text : List Char} {letter : Char} {letters : List Char}
    (h : text.map Char.toLower = letter :: letters) (hletter : letter.isAlpha = true) :
    ∀ c ∈ text.head?, c ≠ '+' ∧ c ≠ '-' := by
  intro c hc
  obtain ⟨rest, rfl⟩ := List.head?_eq_some_iff.mp hc
  obtain ⟨hlower, -⟩ := List.cons.inj h
  constructor
  · rintro rfl
    rw [← hlower] at hletter
    exact absurd hletter (by decide)
  · rintro rfl
    rw [← hlower] at hletter
    exact absurd hletter (by decide)

/-- The words for infinity are read in any casing and with any sign. -/
theorem ofText?_of_infinity {sign word : List Char} {negative : Bool}
    (hsign : SpellsSign sign negative)
    (hword : word.map Char.toLower = "inf".toList ∨ word.map Char.toLower = "infinity".toList) :
    RealNumeral.ofText? (sign ++ word) = some (.infinity negative) := by
  have hhead : ∀ c ∈ word.head?, c ≠ '+' ∧ c ≠ '-' := by
    rcases hword with hword | hword
    · exact ne_sign_of_map_toLower hword (by decide)
    · exact ne_sign_of_map_toLower hword (by decide)
  simp only [RealNumeral.ofText?, takeSign_append hsign hhead, if_pos hword]

/-- The word for no number is read in any casing and with any sign. -/
theorem ofText?_of_nan {sign word : List Char} {negative : Bool}
    (hsign : SpellsSign sign negative) (hword : word.map Char.toLower = "nan".toList) :
    RealNumeral.ofText? (sign ++ word) = some (.nan negative) := by
  have hhead := ne_sign_of_map_toLower hword (by decide)
  have hother : ¬ ("nan".toList = "inf".toList ∨ "nan".toList = "infinity".toList) := by decide
  simp only [RealNumeral.ofText?, takeSign_append hsign hhead, hword, if_neg hother, if_true]

/-- A digit has no small form. -/
theorem toLower_of_isDigit {c : Char} (h : c.isDigit = true) : c.toLower = c := by
  show dite _ _ _ = c
  rw [dif_neg]
  rintro ⟨hupper, -⟩
  have hlow : 65 ≤ c.toNat := UInt32.le_iff_toNat_le.mp hupper
  have hhigh : c.toNat ≤ 57 := (Char.isDigit_iff_toNat.mp h).2
  omega

/-- A decimal is read behind its sign as without one. -/
theorem ofText?_of_decimal {sign text : List Char} {negative : Bool} {q : ℚ} {digits : Nat}
    {exponent : ℤ} (hsign : SpellsSign sign negative) (htext : SpellsDecimal text q)
    (hread : RealNumeral.decimal? text = some (digits, exponent)) :
    RealNumeral.ofText? (sign ++ text) = some (.decimal negative digits exponent) := by
  obtain ⟨c, rest, rfl, hc⟩ := htext.head
  have hhead : ∀ d ∈ (c :: rest).head?, d ≠ '+' ∧ d ≠ '-' := by
    intro d hd
    cases hd
    rcases hc with hdigit | rfl
    · exact ne_sign_of_isDigit hdigit
    · decide
  have hlower : c.toLower ≠ 'i' ∧ c.toLower ≠ 'n' := by
    rcases hc with hdigit | rfl
    · rw [toLower_of_isDigit hdigit]
      constructor
      · rintro rfl
        exact absurd hdigit (by decide)
      · rintro rfl
        exact absurd hdigit (by decide)
    · decide
  have hinf : ¬ ((c :: rest).map Char.toLower = "inf".toList ∨
      (c :: rest).map Char.toLower = "infinity".toList) := by
    rintro (h | h)
    · exact hlower.1 (List.cons.inj h).1
    · exact hlower.1 (List.cons.inj h).1
  have hnan : ¬ (c :: rest).map Char.toLower = "nan".toList := by
    intro h
    exact hlower.2 (List.cons.inj h).1
  simp only [RealNumeral.ofText?, takeSign_append hsign hhead, if_neg hinf, if_neg hnan, hread,
    Option.map_some]

/-- A text is read as an average exactly when it spells one, and then as that one. -/
theorem ofLiteral?_eq_some_iff {text : List Char} {g : Gpa} :
    ofLiteral? text = some g ↔ IsSpelled text g := by
  constructor
  · intro h
    obtain ⟨numeral, hnumeral, rfl⟩ := Option.map_eq_some_iff.mp h
    obtain ⟨sign, hsign, htext⟩ := exists_sign text
    rw [RealNumeral.ofText?] at hnumeral
    generalize takeSign text = parts at hnumeral hsign htext
    obtain ⟨negative, unsigned⟩ := parts
    subst htext
    dsimp only at hnumeral hsign
    split_ifs at hnumeral with hinf hnan
    · cases hnumeral
      exact .infinity hsign hinf
    · cases hnumeral
      exact .nan hsign hnan
    · obtain ⟨⟨digits, exponent⟩, hdecimal, rfl⟩ := Option.map_eq_some_iff.mp hnumeral
      exact .decimal hsign (spellsDecimal_of_decimal? hdecimal) rfl
        ((Format.roundsTo_ofDecimal_iff digits exponent).mpr rfl)
  · intro h
    rw [ofLiteral?]
    cases h with
    | infinity hsign hword => rw [ofText?_of_infinity hsign hword, Option.map_some, ofNumeral]
    | nan hsign hword => rw [ofText?_of_nan hsign hword, Option.map_some, ofNumeral]
    | decimal hsign htext hnegative hround =>
      obtain ⟨digits, exponent, hread, rfl⟩ := decimal?_of_spellsDecimal htext
      rw [ofText?_of_decimal hsign htext hread, Option.map_some, ofNumeral, Option.some.injEq,
        eq_iff_magnitude_eq (hnegative ▸ negative_ofDecimal _ _ _), magnitude_ofDecimal]
      exact (Format.roundsTo_ofDecimal_iff digits exponent).mp hround

end StudentRoster.Gpa
