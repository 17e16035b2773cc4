import Mathlib.Data.List.TakeWhile
import StudentRoster.Text.Blank
import StudentRoster.Text.Numeral
import StudentRoster.Text.Quoted

/-!
# Quoted texts are plain and read back

A quoted text stands on one line, whatever the text is: none of its characters is a control, and
the space is its only blank (`isPlainLine_quote`). The text is not lost by this. Each escape says
where it ends, so that a reader that comes from the opening quote takes one character of the text
after the other and stops at the closing quote (`readQuoted_quoted`). The escapes by code points
rest on the hexadecimal numerals, which read back as their numbers (`hexValue_toDigits`).
-/

set_option autoImplicit false

namespace StudentRoster.Text

/-! ## Plain lines -/

/-- Whether a character is a control: the category `Cc`. -/
def isControl (c : Char) : Bool :=
  c.toNat ≤ 0x1F || (0x7F ≤ c.toNat && c.toNat ≤ 0x9F)

/-- Whether a line ends at a character: the line feed to the carriage return, the next-line control,
and the separators of lines and of paragraphs. -/
def breaksLine (c : Char) : Bool :=
  (0x0A ≤ c.toNat && c.toNat ≤ 0x0D) || c.toNat == 0x85 || c.toNat == 0x2028 || c.toNat == 0x2029

/-- A text stands on one line and shows all it says. -/
structure IsPlainLine (text : String) : Prop where
  printable : ∀ c ∈ text.toList, isUnprintable c = false
  no_control : ∀ c ∈ text.toList, isControl c = false
  no_break : ∀ c ∈ text.toList, breaksLine c = false
  blank_eq : ∀ c ∈ text.toList, isBlank c = true → c = ' '

/-- What lies in one of the ranges has no shape of its own. -/
theorem isUnprintable_of_mem {c : Char} (low high : Nat) (hrange : (low, high) ∈ unprintableRanges)
    (hlow : low ≤ c.toNat) (hhigh : c.toNat ≤ high) : isUnprintable c = true :=
  inRanges_eq_true_iff.mpr ⟨(low, high), hrange, hlow, hhigh⟩

/-- A control has no shape of its own. -/
theorem isUnprintable_of_isControl {c : Char} (h : isControl c = true) :
    isUnprintable c = true := by
  simp only [isControl, Bool.or_eq_true, Bool.and_eq_true, decide_eq_true_eq] at h
  rcases h with hlow | ⟨hlow, hhigh⟩
  · exact isUnprintable_of_mem 0 0x1F (by decide) (Nat.zero_le _) hlow
  · exact isUnprintable_of_mem 0x7F 0xA0 (by decide) hlow (by omega)

/-- Of the blanks the space alone is shown as it is. -/
theorem isUnprintable_of_isBlank {c : Char} (h : isBlank c = true) (hspace : c ≠ ' ') :
    isUnprintable c = true := by
  have hcode : c.toNat ≠ 0x20 := fun heq => hspace (Char.toNat_inj.mp heq)
  simp only [isBlank, Bool.or_eq_true, Bool.and_eq_true, decide_eq_true_eq, beq_iff_eq] at h
  have hcases : c.toNat ≤ 0x1F ∨ (0x7F ≤ c.toNat ∧ c.toNat ≤ 0xA0) ∨ c.toNat = 0x1680 ∨
      (0x1FFF ≤ c.toNat ∧ c.toNat ≤ 0x200F) ∨ (0x2028 ≤ c.toNat ∧ c.toNat ≤ 0x202F) ∨
      (0x205F ≤ c.toNat ∧ c.toNat ≤ 0x206F) ∨ c.toNat = 0x3000 := by
    omega
  rcases hcases with hc | ⟨hlow, hhigh⟩ | hc | ⟨hlow, hhigh⟩ | ⟨hlow, hhigh⟩ | ⟨hlow, hhigh⟩ | hc
  · exact isUnprintable_of_mem 0 0x1F (by decide) (Nat.zero_le _) hc
  · exact isUnprintable_of_mem 0x7F 0xA0 (by decide) hlow hhigh
  · exact isUnprintable_of_mem 0x1680 0x1680 (by decide +kernel) hc.ge hc.le
  · exact isUnprintable_of_mem 0x1FFF 0x200F (by decide +kernel) hlow hhigh
  · exact isUnprintable_of_mem 0x2028 0x202F (by decide +kernel) hlow hhigh
  · exact isUnprintable_of_mem 0x205F 0x206F (by decide +kernel) hlow hhigh
  · exact isUnprintable_of_mem 0x3000 0x3000 (by decide +kernel) hc.ge hc.le

/-- A text whose characters all have a shape of their own is a plain line. -/
theorem isPlainLine_of_printable {text : String}
    (h : ∀ c ∈ text.toList, isUnprintable c = false) : IsPlainLine text where
  printable := h
  no_control c hc := by
    by_contra hcontrol
    rw [Bool.not_eq_false] at hcontrol
    exact absurd (isUnprintable_of_isControl hcontrol) (by simp [h c hc])
  no_break c hc := by
    by_contra hbreak
    rw [Bool.not_eq_false] at hbreak
    have hblank : isBlank c = true ∧ c ≠ ' ' := by
      refine ⟨?_, by rintro rfl; exact absurd hbreak (by decide)⟩
      simp only [breaksLine, isBlank, Bool.or_eq_true, Bool.and_eq_true, decide_eq_true_eq,
        beq_iff_eq] at hbreak ⊢
      omega
    exact absurd (isUnprintable_of_isBlank hblank.1 hblank.2) (by simp [h c hc])
  blank_eq c hc hblank := by
    by_contra hspace
    exact absurd (isUnprintable_of_isBlank hblank hspace) (by simp [h c hc])

/-- The characters of ASCII from the space to the tilde have a shape of their own. -/
theorem isUnprintable_eq_false_of_ascii {c : Char} (hlow : 0x20 ≤ c.toNat)
    (hhigh : c.toNat < 0x7F) :
    isUnprintable c = false := by
  have houtside : ∀ range ∈ unprintableRanges, range.2 < 0x20 ∨ 0x7F ≤ range.1 := by
    decide +kernel
  rw [← Bool.not_eq_true, isUnprintable, inRanges_eq_true_iff]
  rintro ⟨range, hrange, hfirst, hlast⟩
  have := houtside range hrange
  omega

/-- Whether a text consists of visible characters of ASCII and spaces. -/
def isVisibleAscii (text : String) : Bool :=
  text.toList.all fun c => 0x20 ≤ c.toNat && c.toNat < 0x7F

/-- Visible characters of ASCII make a plain line. -/
theorem isPlainLine_of_isVisibleAscii {text : String} (h : isVisibleAscii text = true) :
    IsPlainLine text := by
  refine isPlainLine_of_printable fun c hc => ?_
  have hascii := List.all_eq_true.mp h c hc
  simp only [Bool.and_eq_true, decide_eq_true_eq] at hascii
  exact isUnprintable_eq_false_of_ascii hascii.1 hascii.2

/-- A number is printed as a plain line. -/
theorem isPlainLine_toString (n : Nat) : IsPlainLine (toString n) := by
  refine isPlainLine_of_printable fun c hc => ?_
  rw [Nat.toString_eq_ofList_toDigits, String.toList_ofList] at hc
  have hdigit := Nat.isDigit_of_mem_toDigits (by decide) (by decide) hc
  rw [Char.isDigit_iff_toNat] at hdigit
  have hlow : 48 ≤ c.toNat := hdigit.1
  have hhigh : c.toNat ≤ 57 := hdigit.2
  exact isUnprintable_eq_false_of_ascii (by omega) (by omega)

/-- Two plain lines side by side are one. -/
theorem IsPlainLine.append {front back : String} (hfront : IsPlainLine front)
    (hback : IsPlainLine back) : IsPlainLine (front ++ back) := by
  refine isPlainLine_of_printable fun c hc => ?_
  rw [String.toList_append, List.mem_append] at hc
  exact hc.elim (hfront.printable c) (hback.printable c)

/-! ## Hexadecimal numerals -/

/-- The number that hexadecimal digits denote. -/
def hexValue (digits : List Char) : Nat :=
  digits.foldl (fun value c => 16 * value + (hexDigit? c).getD 0) 0

/-- A hexadecimal digit is read back. -/
theorem hexDigit?_digitChar {d : Nat} (h : d < 16) : hexDigit? (Nat.digitChar d) = some d := by
  have hall : ∀ d < 16, hexDigit? (Nat.digitChar d) = some d := by decide
  exact hall d h

/-- A hexadecimal number is read back. -/
theorem hexValue_toDigits (n : Nat) : hexValue (Nat.toDigits 16 n) = n := by
  induction n using Nat.strongRecOn with
  | ind n ih =>
    by_cases hsmall : n < 16
    · rw [Nat.toDigits_of_lt_base hsmall, hexValue, List.foldl_cons, hexDigit?_digitChar hsmall]
      simp
    · have hrest := ih (n / 16) (Nat.div_lt_self (by omega) (by decide))
      have hlast : n % 16 < 16 := Nat.mod_lt n (by decide)
      rw [Nat.toDigits_of_base_le (by decide) (by omega), hexValue, List.foldl_append, ← hexValue,
        hrest, List.foldl_cons, hexDigit?_digitChar hlast]
      simp only [Option.getD_some, List.foldl_nil]
      omega

/-- What stands in a hexadecimal numeral is one of sixteen characters. -/
theorem exists_digitChar_of_mem_hex {n : Nat} {c : Char} (h : c ∈ Nat.toDigits 16 n) :
    ∃ d < 16, c = Nat.digitChar d := by
  induction n using Nat.strongRecOn with
  | ind n ih =>
    by_cases hsmall : n < 16
    · rw [Nat.toDigits_of_lt_base hsmall, List.mem_singleton] at h
      exact ⟨n, hsmall, h⟩
    · rw [Nat.toDigits_of_base_le (by decide) (by omega), List.mem_append, List.mem_singleton] at h
      rcases h with hfront | hlast
      · exact ih (n / 16) (Nat.div_lt_self (by omega) (by decide)) hfront
      · exact ⟨n % 16, Nat.mod_lt n (by decide), hlast⟩

/-- The digits of a hexadecimal number are visible and close nothing. -/
theorem ascii_of_mem_hex {n : Nat} {c : Char} (h : c ∈ Nat.toDigits 16 n) :
    0x20 ≤ c.toNat ∧ c.toNat < 0x7F ∧ c ≠ '}' := by
  have hall : ∀ d < 16, 0x20 ≤ (Nat.digitChar d).toNat ∧ (Nat.digitChar d).toNat < 0x7F ∧
      Nat.digitChar d ≠ '}' := by
    decide
  obtain ⟨d, hd, rfl⟩ := exists_digitChar_of_mem_hex h
  exact hall d hd

/-! ## Quoted texts -/

/-- An escape is made of visible characters of ASCII. -/
theorem isUnprintable_of_mem_escapeChar {c d : Char} (h : d ∈ escapeChar c) :
    isUnprintable d = false := by
  unfold escapeChar at h
  split at h
  case h_7 =>
    split at h
    next =>
      rcases List.mem_append.mp h with hnumeral | hbrace
      · rcases List.mem_append.mp hnumeral with hfront | hdigit
        · simp only [List.mem_cons, List.not_mem_nil, or_false] at hfront
          rcases hfront with rfl | rfl | rfl
          all_goals exact isUnprintable_eq_false_of_ascii (by decide) (by decide)
        · obtain ⟨hlow, hhigh, -⟩ := ascii_of_mem_hex hdigit
          exact isUnprintable_eq_false_of_ascii hlow hhigh
      · rw [List.mem_singleton.mp hbrace]
        exact isUnprintable_eq_false_of_ascii (by decide) (by decide)
    next hprintable =>
      rw [List.mem_singleton.mp h]
      simpa using hprintable
  all_goals
    simp only [List.mem_cons, List.not_mem_nil, or_false] at h
    rcases h with rfl | rfl <;> exact isUnprintable_eq_false_of_ascii (by decide) (by decide)

/-- Any text is quoted on one plain line. -/
theorem isPlainLine_quote (text : String) : IsPlainLine (quote text) := by
  refine isPlainLine_of_printable fun c hc => ?_
  rw [toList_quote, List.mem_append, List.mem_cons, List.mem_flatMap, List.mem_singleton] at hc
  rcases hc with (rfl | ⟨d, -, hescape⟩) | rfl
  · exact isUnprintable_eq_false_of_ascii (by decide) (by decide)
  · exact isUnprintable_of_mem_escapeChar hescape
  · exact isUnprintable_eq_false_of_ascii (by decide) (by decide)

/-! ## Reading back -/

/-- The character that an escape of two characters stands for, by the second of them. -/
def ofShortEscape? : Char → Option Char
  | '"' => some '"'
  | '\\' => some '\\'
  | 't' => some '\t'
  | 'r' => some '\r'
  | 'n' => some '\n'
  | '0' => some '\x00'
  | _ => none

/-- The text up to the closing quote, each escape read as the character it stands for. -/
def readQuoted : List Char → Option (List Char)
  | [] => none
  | '"' :: _ => some []
  | '\\' :: 'u' :: '{' :: rest =>
    (readQuoted (rest.dropWhile (· != '}')).tail).map
      (Char.ofNat (hexValue (rest.takeWhile (· != '}'))) :: ·)
  | '\\' :: c :: rest =>
    (ofShortEscape? c).bind fun d => (readQuoted rest).map (d :: ·)
  | c :: rest => (readQuoted rest).map (c :: ·)
termination_by text => text.length
decreasing_by
  · have := (List.dropWhile_suffix (l := rest) (· != '}')).length_le
    simp only [List.length_tail, List.length_cons]
    omega
  all_goals simp only [List.length_cons]; omega

/-- An escape by a code point reads back: its numeral ends at the closing brace. -/
theorem readQuoted_codePoint (c : Char) (rest : List Char) :
    readQuoted (['\\', 'u', '{'] ++ Nat.toDigits 16 c.toNat ++ ['}'] ++ rest) =
      (readQuoted rest).map (c :: ·) := by
  have hdigits : ∀ d ∈ Nat.toDigits 16 c.toNat, (d != '}') = true := fun d hd => by
    simpa using (ascii_of_mem_hex hd).2.2
  simp only [List.cons_append, List.nil_append, List.append_assoc]
  rw [readQuoted, List.takeWhile_append_of_pos hdigits, List.dropWhile_append_of_pos hdigits]
  simp [hexValue_toDigits]

/-- One character after the other is read back from its escape. -/
theorem readQuoted_escapeChar (c : Char) (rest : List Char) :
    readQuoted (escapeChar c ++ rest) = (readQuoted rest).map (c :: ·) := by
  unfold escapeChar
  split
  case h_7 hquote hbackslash _ _ _ _ =>
    split
    · exact readQuoted_codePoint c rest
    · rw [List.singleton_append, readQuoted]
      · exact hquote
      · exact fun _ h => absurd h hbackslash
      · exact fun _ _ h => absurd h hbackslash
  all_goals
    rw [List.cons_append, List.singleton_append, readQuoted]
    · rfl
    · rintro _ ⟨⟩

/-- A quoted text reads back, whatever stands behind its closing quote. -/
theorem readQuoted_quoted (text rest : List Char) :
    readQuoted (text.flatMap escapeChar ++ '"' :: rest) = some text := by
  induction text with
  | nil => rw [List.flatMap_nil, List.nil_append, readQuoted]
  | cons c text ih =>
    rw [List.flatMap_cons, List.append_assoc, readQuoted_escapeChar, ih, Option.map_some]

/-- The text that a message quotes: what stands behind its first quote, read back. -/
def quotedText? (message : String) : Option String :=
  (readQuoted ((message.toList.dropWhile (· != '"')).drop 1)).map String.ofList

/-- What stands in front of the first quote does not matter. -/
theorem quotedText?_append {front : String} (hfront : '"' ∉ front.toList) (back : String) :
    quotedText? (front ++ back) = quotedText? back := by
  have hskip : ∀ c ∈ front.toList, (c != '"') = true := fun c hc => by
    simpa using fun heq : c = '"' => hfront (heq ▸ hc)
  rw [quotedText?, quotedText?, String.toList_append, List.dropWhile_append_of_pos hskip]

/-- Any text is read back from its quotation, whatever follows it. -/
theorem quotedText?_quote (text back : String) : quotedText? (quote text ++ back) = some text := by
  rw [quotedText?, String.toList_append, toList_quote, List.cons_append, List.cons_append,
    List.append_assoc, List.dropWhile_cons_of_neg (by decide), List.drop_succ_cons, List.drop_zero,
    List.singleton_append, readQuoted_quoted, Option.map_some, String.ofList_toList]

end StudentRoster.Text
