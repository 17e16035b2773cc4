import StudentRoster.Text.Blank
import StudentRoster.Text.Numeral

/-!
# Numerals read back

The numeral of a whole number reads back as the number, and the numeral of an id as the id. What
stands in a numeral is a digit or a sign, so that it is one word and begins no comment.
-/

set_option autoImplicit false

namespace StudentRoster.Text

/-- A digit is no blank. -/
theorem isBlank_eq_false_of_isDigit {c : Char} (h : c.isDigit = true) : isBlank c = false := by
  rw [Char.isDigit_iff_toNat] at h
  have hlow : 48 ≤ c.toNat := h.1
  have hhigh : c.toNat ≤ 57 := h.2
  simp only [isBlank, Bool.or_eq_false_iff, Bool.and_eq_false_iff, decide_eq_false_iff_not,
    beq_eq_false_iff_ne]
  omega

/-- A natural number is printed in digits. -/
theorem isDigit_of_mem_decimal {n : Nat} {c : Char} (h : c ∈ Nat.toDigits 10 n) :
    c.isDigit = true :=
  Nat.isDigit_of_mem_toDigits (by decide) (by decide) h

/-- A text that begins with a digit has no sign to take off. -/
theorem takeSign_cons_of_isDigit {c : Char} (h : c.isDigit = true) (rest : List Char) :
    takeSign (c :: rest) = (false, c :: rest) := by
  have hminus : c ≠ '-' := by rintro rfl; simp at h
  have hplus : c ≠ '+' := by rintro rfl; simp at h
  unfold takeSign
  split
  · exact absurd (List.cons.inj ‹_›).1 hminus
  · exact absurd (List.cons.inj ‹_›).1 hplus
  · rfl

/-- In front of a natural number there is no sign to be taken. -/
theorem takeSign_decimal_append (n : Nat) (rest : List Char) :
    takeSign (Nat.toDigits 10 n ++ rest) = (false, Nat.toDigits 10 n ++ rest) := by
  obtain ⟨c, digits, hdigits⟩ := List.exists_cons_of_ne_nil (Nat.toDigits_ne_nil (n := n) (b := 10))
  have hc : c.isDigit = true := isDigit_of_mem_decimal (n := n) (by rw [hdigits]; simp)
  rw [hdigits, List.cons_append]
  exact takeSign_cons_of_isDigit hc _

/-- A printed whole number is read back. -/
theorem integer?_integerDigits (n : Int) : integer? (integerDigits n) = some n := by
  cases n with
  | ofNat n =>
    have hsign := takeSign_decimal_append n []
    rw [List.append_nil] at hsign
    simp [integer?, integerDigits, hsign, natural?_toDigits]
  | negSucc n =>
    simp only [integer?, integerDigits, takeSign, natural?_toDigits, if_true]
    rfl

/-- A printed id is read back. -/
theorem int32?_integerDigits (id : Int32) : int32? (integerDigits id.toInt) = some id := by
  have hrange : -0x80000000 ≤ id.toInt ∧ id.toInt < 0x80000000 := ⟨id.le_toInt, id.toInt_lt⟩
  simp only [int32?, integer?_integerDigits, if_pos hrange, Int32.ofInt_toInt]

/-- A whole number is printed as something. -/
theorem integerDigits_ne_nil (n : Int) : integerDigits n ≠ [] := by
  cases n <;> simp [integerDigits, Nat.toDigits_ne_nil]

/-- A numeral consists of digits, but for a minus. -/
theorem isDigit_or_eq_minus_of_mem_integerDigits {n : Int} {c : Char} (h : c ∈ integerDigits n) :
    c.isDigit = true ∨ c = '-' := by
  cases n with
  | ofNat n => exact Or.inl (isDigit_of_mem_decimal h)
  | negSucc n =>
    rcases List.mem_cons.mp h with rfl | h
    · exact Or.inr rfl
    · exact Or.inl (isDigit_of_mem_decimal h)

/-- A printed whole number has no blank in it. -/
theorem isBlank_eq_false_of_mem_integerDigits {n : Int} {c : Char} (h : c ∈ integerDigits n) :
    isBlank c = false := by
  rcases isDigit_or_eq_minus_of_mem_integerDigits h with hdigit | rfl
  · exact isBlank_eq_false_of_isDigit hdigit
  · decide

end StudentRoster.Text
