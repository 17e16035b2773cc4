import Mathlib.Algebra.Order.Field.Power
import Mathlib.Data.List.Induction
import Mathlib.Data.Nat.Digits.Defs
import Mathlib.Data.Rat.Cast.Order
import Mathlib.Tactic.FieldSimp
import StudentRoster.Proofs.Text.Numeral
import StudentRoster.Text.RealNumeral

/-!
# How numbers are spelled

The grammars of whole numbers and of decimals, each with the number that a text denotes. They say
nothing of how a text is read; `integer?_eq_some_iff` and `spellsDecimal_iff` say that the readers
take exactly the texts of the grammar, for the numbers that these denote.
-/

set_option autoImplicit false

namespace StudentRoster.Text

/-! ## The grammars -/

/-- One or more ASCII digits. -/
structure IsNumeral (digits : List Char) : Prop where
  ne_nil : digits ≠ []
  isDigit : ∀ c ∈ digits, c.isDigit = true

/-- The number that digits denote by their places, none for no digits. -/
def numeralValue (digits : List Char) : Nat :=
  Nat.ofDigits 10 (digits.reverse.map fun c => c.toNat - '0'.toNat)

/-- A sign may be left out; the second argument says whether it is a minus. -/
inductive SpellsSign : List Char → Bool → Prop
  | none : SpellsSign [] false
  | plus : SpellsSign ['+'] false
  | minus : SpellsSign ['-'] true

/-- A whole number is digits behind a sign that may be left out. -/
inductive SpellsInteger : List Char → ℤ → Prop
  | signed {sign digits : List Char} {negative : Bool} (hsign : SpellsSign sign negative)
      (hdigits : IsNumeral digits) :
      SpellsInteger (sign ++ digits)
        (if negative then -(numeralValue digits : ℤ) else numeralValue digits)

/-- The power of ten behind a decimal may be left out. -/
inductive SpellsExponent : List Char → ℤ → Prop
  | none : SpellsExponent [] 0
  | marked {mark : Char} {text : List Char} {exponent : ℤ} (hmark : mark = 'e' ∨ mark = 'E')
      (htext : SpellsInteger text exponent) : SpellsExponent (mark :: text) exponent

/-- A decimal without a sign has digits before or after its point or is a numeral, and has the exact
value that its places give. -/
inductive SpellsDecimal : List Char → ℚ → Prop
  | whole {digits power : List Char} {exponent : ℤ} (hdigits : IsNumeral digits)
      (hpower : SpellsExponent power exponent) :
      SpellsDecimal (digits ++ power) (numeralValue digits * 10 ^ exponent)
  | pointed {whole fraction power : List Char} {exponent : ℤ}
      (hdigits : IsNumeral (whole ++ fraction)) (hpower : SpellsExponent power exponent) :
      SpellsDecimal (whole ++ '.' :: (fraction ++ power))
        ((numeralValue whole + numeralValue fraction / 10 ^ fraction.length) * 10 ^ exponent)

/-! ## Whole numbers -/

/-- The value of a numeral is what the library computes from its digits. -/
theorem ofDigitChars_eq_numeralValue (digits : List Char) :
    Nat.ofDigitChars 10 digits 0 = numeralValue digits := by
  induction digits using List.reverseRecOn with
  | nil => rfl
  | append_singleton front c ih =>
    rw [Nat.ofDigitChars_append, Nat.ofDigitChars_cons, Nat.ofDigitChars_nil, ih, numeralValue,
      numeralValue, List.reverse_concat, List.map_cons, Nat.ofDigits_cons]
    omega

/-- Digits behind a numeral move it by as many places. -/
theorem numeralValue_append (front back : List Char) :
    numeralValue (front ++ back) =
      numeralValue front * 10 ^ back.length + numeralValue back := by
  rw [numeralValue, List.reverse_append, List.map_append, Nat.ofDigits_append, List.length_map,
    List.length_reverse, ← numeralValue, ← numeralValue, Nat.mul_comm, Nat.add_comm]

/-- Exactly the numerals are read as natural numbers, each as its value. -/
theorem natural?_eq_some_iff {digits : List Char} {n : Nat} :
    natural? digits = some n ↔ IsNumeral digits ∧ numeralValue digits = n := by
  have hguard : (!digits.isEmpty && digits.all Char.isDigit) = true ↔ IsNumeral digits := by
    rw [Bool.and_eq_true, Bool.not_eq_true', List.isEmpty_eq_false_iff, List.all_eq_true]
    constructor
    · rintro ⟨hne, hall⟩
      exact ⟨hne, hall⟩
    · rintro ⟨hne, hall⟩
      exact ⟨hne, hall⟩
  rw [natural?, ofDigitChars_eq_numeralValue]
  by_cases h : IsNumeral digits
  · rw [if_pos (hguard.mpr h), Option.some.injEq, and_iff_right h]
  · rw [if_neg (mt hguard.mp h)]
    constructor
    · intro hnone
      cases hnone
    · intro hnumeral
      exact absurd hnumeral.1 h

/-- A digit is the digit of a number below ten. -/
theorem digitChar_of_isDigit {c : Char} (h : c.isDigit = true) :
    c.toNat - '0'.toNat < 10 ∧ Nat.digitChar (c.toNat - '0'.toNat) = c := by
  have hlow : 48 ≤ c.toNat := (Char.isDigit_iff_toNat.mp h).1
  have hhigh : c.toNat ≤ 57 := (Char.isDigit_iff_toNat.mp h).2
  have hten : c.toNat - '0'.toNat < 10 := by
    have hzero : '0'.toNat = 48 := rfl
    omega
  refine ⟨hten, Char.toNat_inj.mp ?_⟩
  rw [Nat.toNat_digitChar_of_lt_ten hten]
  have hzero : '0'.toNat = 48 := rfl
  omega

/-- Digits behind the digits of a positive number. -/
theorem toDigits_append_digits {digits : List Char} (h : ∀ c ∈ digits, c.isDigit = true)
    {front : Nat} (hfront : 0 < front) :
    Nat.toDigits 10 front ++ digits = Nat.toDigits 10 (Nat.ofDigitChars 10 digits front) := by
  induction digits generalizing front with
  | nil => rw [List.append_nil, Nat.ofDigitChars_nil]
  | cons c rest ih =>
    obtain ⟨hten, hchar⟩ := digitChar_of_isDigit (h c List.mem_cons_self)
    have hstep := Nat.toDigits_append_toDigits (by decide) hfront hten
    rw [Nat.toDigits_of_lt_base hten, hchar] at hstep
    have hrest := ih (fun d hd => h d (List.mem_cons_of_mem c hd))
      (show 0 < 10 * front + (c.toNat - '0'.toNat) by omega)
    rw [Nat.ofDigitChars_cons, ← hrest, ← hstep, List.append_assoc, List.singleton_append]

/-- A numeral without superfluous zeros is the written form of its value. -/
theorem toDigits_numeralValue {digits : List Char} (h : IsNumeral digits)
    (hzero : digits.head? = some '0' → digits = ['0']) :
    Nat.toDigits 10 (numeralValue digits) = digits := by
  obtain ⟨c, rest, rfl⟩ := List.exists_cons_of_ne_nil h.ne_nil
  obtain ⟨hten, hchar⟩ := digitChar_of_isDigit (h.isDigit c List.mem_cons_self)
  by_cases hc : c = '0'
  · rw [hzero (by rw [hc]; rfl)]
    rfl
  · have hpos : 0 < c.toNat - '0'.toNat := by
      rw [Nat.pos_iff_ne_zero]
      intro hnone
      rw [hnone] at hchar
      exact hc hchar.symm
    have hrest : ∀ d ∈ rest, d.isDigit = true := fun d hd => h.isDigit d (List.mem_cons_of_mem c hd)
    have hdigits := toDigits_append_digits hrest hpos
    rw [Nat.toDigits_of_lt_base hten, hchar, List.singleton_append] at hdigits
    rw [← ofDigitChars_eq_numeralValue, Nat.ofDigitChars_cons, Nat.mul_zero, Nat.zero_add,
      ← hdigits]

/-- What is taken off a text is a sign. -/
theorem exists_sign (text : List Char) :
    ∃ sign, SpellsSign sign (takeSign text).1 ∧ text = sign ++ (takeSign text).2 := by
  unfold takeSign
  split
  · exact ⟨['-'], .minus, rfl⟩
  · exact ⟨['+'], .plus, rfl⟩
  · exact ⟨[], .none, rfl⟩

/-- A sign is taken off what does not begin with another one. -/
theorem takeSign_append {sign unsigned : List Char} {negative : Bool}
    (hsign : SpellsSign sign negative) (hhead : ∀ c ∈ unsigned.head?, c ≠ '+' ∧ c ≠ '-') :
    takeSign (sign ++ unsigned) = (negative, unsigned) := by
  cases hsign with
  | plus => rfl
  | minus => rfl
  | none =>
    cases unsigned with
    | nil => rfl
    | cons c rest =>
      obtain ⟨hplus, hminus⟩ := hhead c rfl
      rw [List.nil_append]
      unfold takeSign
      split
      · exact absurd (List.cons.inj ‹_›).1 hminus
      · exact absurd (List.cons.inj ‹_›).1 hplus
      · rfl

/-- A digit is no sign. -/
theorem ne_sign_of_isDigit {c : Char} (h : c.isDigit = true) : c ≠ '+' ∧ c ≠ '-' := by
  constructor
  · rintro rfl
    exact absurd h (by decide)
  · rintro rfl
    exact absurd h (by decide)

/-- A whole number is read as a natural number behind its sign. -/
theorem integer?_eq (text : List Char) :
    integer? text = (natural? (takeSign text).2).map fun n : Nat =>
      if (takeSign text).1 then -(n : ℤ) else n := by
  rw [integer?]
  generalize takeSign text = parts
  obtain ⟨negative, digits⟩ := parts
  dsimp only
  cases natural? digits <;> rfl

/-- Exactly the spellings of a whole number are read as it. -/
theorem integer?_eq_some_iff {text : List Char} {n : ℤ} :
    integer? text = some n ↔ SpellsInteger text n := by
  rw [integer?_eq]
  constructor
  · intro h
    obtain ⟨value, hvalue, rfl⟩ := Option.map_eq_some_iff.mp h
    obtain ⟨hdigits, rfl⟩ := natural?_eq_some_iff.mp hvalue
    obtain ⟨sign, hsign, htext⟩ := exists_sign text
    have hspelled := SpellsInteger.signed hsign hdigits
    rwa [← htext] at hspelled
  · intro h
    cases h with
    | @signed sign digits negative hsign hdigits =>
      have hhead : ∀ c ∈ digits.head?, c ≠ '+' ∧ c ≠ '-' := by
        intro c hc
        exact ne_sign_of_isDigit (hdigits.isDigit c (List.mem_of_mem_head? hc))
      rw [takeSign_append hsign hhead, natural?_eq_some_iff.mpr ⟨hdigits, rfl⟩, Option.map_some]

/-! ## Decimals -/

/-- Exactly the spellings of an exponent are read as it. -/
theorem exponent?_eq_some_iff {text : List Char} {exponent : ℤ} :
    RealNumeral.exponent? text = some exponent ↔ SpellsExponent text exponent := by
  constructor
  · intro h
    cases text with
    | nil =>
      cases h
      exact .none
    | cons mark rest =>
      rw [RealNumeral.exponent?] at h
      by_cases hmark : mark = 'e' ∨ mark = 'E'
      · rw [if_pos hmark] at h
        exact .marked hmark (integer?_eq_some_iff.mp h)
      · rw [if_neg hmark] at h
        cases h
  · intro h
    cases h with
    | none => rfl
    | marked hmark htext =>
      rw [RealNumeral.exponent?, if_pos hmark]
      exact integer?_eq_some_iff.mpr htext

/-- A power of ten goes on neither with a digit nor with a point. -/
theorem SpellsExponent.head {power : List Char} {exponent : ℤ} (h : SpellsExponent power exponent) :
    ∀ c ∈ power.head?, c.isDigit = false ∧ c ≠ '.' := by
  intro c hc
  cases h with
  | none => cases hc
  | marked hmark _ =>
    cases hc
    rcases hmark with rfl | rfl <;> decide

/-- Digits are cut off where something else begins. -/
theorem span_digits {digits rest : List Char} (hdigits : ∀ c ∈ digits, c.isDigit = true)
    (hrest : ∀ c ∈ rest.head?, c.isDigit = false) :
    (digits ++ rest).takeWhile Char.isDigit = digits ∧
      (digits ++ rest).dropWhile Char.isDigit = rest := by
  rw [List.takeWhile_append_of_pos hdigits, List.dropWhile_append_of_pos hdigits]
  cases rest with
  | nil => exact ⟨List.append_nil digits, rfl⟩
  | cons c rest =>
    have hc : ¬ c.isDigit = true := by simp [hrest c rfl]
    rw [List.takeWhile_cons_of_neg hc, List.dropWhile_cons_of_neg hc, List.append_nil]
    exact ⟨rfl, rfl⟩

/-- The digits on both sides of a point are those of one numeral, whose power of ten is smaller. -/
theorem numeralValue_append_mul (whole fraction : List Char) (exponent : ℤ) :
    (numeralValue (whole ++ fraction) : ℚ) * 10 ^ (exponent - fraction.length) =
      (numeralValue whole + numeralValue fraction / 10 ^ fraction.length) * 10 ^ exponent := by
  rw [numeralValue_append, zpow_sub₀ (by norm_num), zpow_natCast]
  push_cast
  field_simp

/-- What spells a decimal is read as digits and an exponent of its value. -/
theorem decimal?_of_spellsDecimal {text : List Char} {q : ℚ} (h : SpellsDecimal text q) :
    ∃ digits exponent, RealNumeral.decimal? text = some (digits, exponent) ∧
      q = digits * 10 ^ exponent := by
  cases h with
  | @whole digits power exponent hdigits hpower =>
    obtain ⟨htake, hdrop⟩ := span_digits hdigits.isDigit fun c hc => (hpower.head c hc).1
    have hfraction : RealNumeral.fractionDigits power = ([], power) := by
      unfold RealNumeral.fractionDigits
      split
      · exact absurd rfl (hpower.head '.' rfl).2
      · rfl
    refine ⟨numeralValue digits, exponent, ?_, rfl⟩
    simp only [RealNumeral.decimal?, htake, hdrop, hfraction, List.append_nil,
      natural?_eq_some_iff.mpr ⟨hdigits, rfl⟩, exponent?_eq_some_iff.mpr hpower,
      List.length_nil, Nat.cast_zero, sub_zero]
  | @pointed whole fraction power exponent hdigits hpower =>
    have hwhole : ∀ c ∈ whole, c.isDigit = true := by
      intro c hc
      exact hdigits.isDigit c (List.mem_append_left fraction hc)
    have hfraction : ∀ c ∈ fraction, c.isDigit = true := by
      intro c hc
      exact hdigits.isDigit c (List.mem_append_right whole hc)
    have hpoint : ∀ c ∈ ('.' :: (fraction ++ power)).head?, c.isDigit = false := by
      rintro c hc
      cases hc
      decide
    obtain ⟨htake, hdrop⟩ := span_digits hwhole hpoint
    obtain ⟨htake', hdrop'⟩ := span_digits hfraction fun c hc => (hpower.head c hc).1
    refine ⟨numeralValue (whole ++ fraction), exponent - fraction.length, ?_,
      (numeralValue_append_mul whole fraction exponent).symm⟩
    simp only [RealNumeral.decimal?, htake, hdrop, RealNumeral.fractionDigits, htake', hdrop',
      natural?_eq_some_iff.mpr ⟨hdigits, rfl⟩, exponent?_eq_some_iff.mpr hpower]

/-- What follows the digits before a point is the point and more digits, or there is no point. -/
theorem fractionDigits_cases (tail : List Char) :
    (∃ fraction rest, tail = '.' :: (fraction ++ rest) ∧
      RealNumeral.fractionDigits tail = (fraction, rest)) ∨
    RealNumeral.fractionDigits tail = ([], tail) := by
  unfold RealNumeral.fractionDigits
  split
  · exact .inl ⟨_, _, by rw [List.takeWhile_append_dropWhile], rfl⟩
  · exact .inr rfl

/-- What is read as digits and an exponent spells their value. -/
theorem spellsDecimal_of_decimal? {text : List Char} {digits : Nat} {exponent : ℤ}
    (h : RealNumeral.decimal? text = some (digits, exponent)) :
    SpellsDecimal text (digits * 10 ^ exponent) := by
  have htext : text = text.takeWhile Char.isDigit ++ text.dropWhile Char.isDigit :=
    List.takeWhile_append_dropWhile.symm
  rw [RealNumeral.decimal?] at h
  generalize text.takeWhile Char.isDigit = whole at h htext
  generalize text.dropWhile Char.isDigit = tail at h htext
  have hparts := fractionDigits_cases tail
  generalize RealNumeral.fractionDigits tail = parts at h hparts
  obtain ⟨fraction, rest⟩ := parts
  cases hdigits : natural? (whole ++ fraction) with
  | none => simp [hdigits] at h
  | some value =>
    cases hpower : RealNumeral.exponent? rest with
    | none => simp [hdigits, hpower] at h
    | some power =>
      simp only [hdigits, hpower, Option.some.injEq, Prod.mk.injEq] at h
      obtain ⟨rfl, rfl⟩ := h
      obtain ⟨hnumeral, rfl⟩ := natural?_eq_some_iff.mp hdigits
      have hspelled := exponent?_eq_some_iff.mp hpower
      obtain ⟨_, _, rfl, hsame⟩ | hsame := hparts
      · cases hsame
        rw [htext, numeralValue_append_mul]
        exact .pointed hnumeral hspelled
      · cases hsame
        rw [List.append_nil] at hnumeral
        rw [htext, List.append_nil, List.length_nil, Nat.cast_zero, sub_zero]
        exact .whole hnumeral hspelled

/-- A text is read as a decimal exactly when it spells one, and then for the number it denotes. -/
theorem spellsDecimal_iff {text : List Char} {q : ℚ} :
    SpellsDecimal text q ↔ ∃ digits exponent,
      RealNumeral.decimal? text = some (digits, exponent) ∧ q = digits * 10 ^ exponent := by
  refine ⟨decimal?_of_spellsDecimal, ?_⟩
  rintro ⟨digits, exponent, hread, rfl⟩
  exact spellsDecimal_of_decimal? hread

/-- A decimal begins with a digit or a point. -/
theorem SpellsDecimal.head {text : List Char} {q : ℚ} (h : SpellsDecimal text q) :
    ∃ c rest, text = c :: rest ∧ (c.isDigit = true ∨ c = '.') := by
  cases h with
  | @whole digits power _ hdigits _ =>
    obtain ⟨c, rest, rfl⟩ := List.exists_cons_of_ne_nil hdigits.ne_nil
    exact ⟨c, rest ++ power, rfl, .inl (hdigits.isDigit c List.mem_cons_self)⟩
  | @pointed whole fraction power _ hdigits _ =>
    cases whole with
    | nil => exact ⟨'.', fraction ++ power, rfl, .inr rfl⟩
    | cons c rest => exact ⟨c, _, rfl, .inl (hdigits.isDigit c List.mem_cons_self)⟩

end StudentRoster.Text
