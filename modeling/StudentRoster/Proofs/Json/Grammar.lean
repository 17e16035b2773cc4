import Mathlib.Data.List.DropRight
import StudentRoster.Json.Scan
import StudentRoster.Proofs.Text.Spelling

/-!
# The grammar of JSON

Which texts spell a value, by the productions of the format, and which value that is: `Spells`
relates a part of a value to the texts that spell it, and says nothing of how a text is read. A
number is kept as it is spelled, a string as the characters that its escapes denote together.
`Spells.exists_start` says how every part begins, which is what tells it from the end of an array
or an object.
-/

set_option autoImplicit false

namespace StudentRoster.Json

open Text (IsNumeral SpellsExponent hexDigit?)

/-! ## Values -/

/-- The value of a JSON text. A string, and likewise the key of a member, is none when one of its
escapes denotes a half of a surrogate pair and the other half is not next to it. -/
inductive Value where
  | null
  | boolean (answer : Bool)
  | number (spelling : List Char)
  | string (decoded : Option String)
  | array (elements : List Value)
  | object (members : List (Option String × Value))

/-- The key and the value of a member of an object. -/
abbrev Member := Option String × Value

/-! ## Strings -/

/-- Four hexadecimal digits spell a number of 16 bits. -/
inductive SpellsCode : List Char → Nat → Prop
  | digits {a b c d : Char} {p q r s : Nat} (ha : hexDigit? a = some p) (hb : hexDigit? b = some q)
      (hc : hexDigit? c = some r) (hd : hexDigit? d = some s) :
      SpellsCode [a, b, c, d] (((p * 16 + q) * 16 + r) * 16 + s)

/-- A piece of a string: a character, or a number of 16 bits that stands for one or for half of
one. -/
inductive Piece where
  | character (c : Char)
  | code (n : Nat)

/-- How a piece of a string is spelled. -/
inductive SpellsPiece : List Char → Piece → Prop
  | plain {c : Char} (hcontrol : 32 ≤ c.toNat) (hquote : c ≠ '"') (hbackslash : c ≠ '\\') :
      SpellsPiece [c] (.character c)
  | short {letter c : Char} (h : shortEscape? letter = some c) :
      SpellsPiece ['\\', letter] (.character c)
  | code {digits : List Char} {n : Nat} (h : SpellsCode digits n) :
      SpellsPiece ('\\' :: 'u' :: digits) (.code n)

/-- What stands between two quotes is made of pieces. -/
inductive SpellsPieces : List Char → List Piece → Prop
  | nil : SpellsPieces [] []
  | cons {text rest : List Char} {piece : Piece} {pieces : List Piece}
      (hpiece : SpellsPiece text piece) (h : SpellsPieces rest pieces) :
      SpellsPieces (text ++ rest) (piece :: pieces)

/-- The character beyond 16 bits that a surrogate pair denotes. -/
def paired (leading trailing : Nat) : Char :=
  Char.ofNat (0x10000 + (leading - 0xD800) * 0x400 + (trailing - 0xDC00))

/-- The characters that pieces denote, when each half of a surrogate pair has its other half. -/
def decode? : List Piece → Option (List Char)
  | [] => some []
  | .character c :: pieces => (decode? pieces).map (c :: ·)
  | .code n :: pieces =>
    if isTrailingSurrogate n then none
    else if isLeadingSurrogate n then
      match pieces with
      | .code m :: pieces =>
        if isTrailingSurrogate m then (decode? pieces).map (paired n m :: ·) else none
      | _ => none
    else (decode? pieces).map (Char.ofNat n :: ·)

/-- The text that pieces denote. -/
def decodeText? (pieces : List Piece) : Option String :=
  (decode? pieces).map String.ofList

/-! ## Numbers -/

/-- The digits in front of the point: a zero stands there only alone. -/
structure IsWhole (digits : List Char) : Prop extends IsNumeral digits where
  eq_zero : digits.head? = some '0' → digits = ['0']

/-- The point and the digits behind it may be left out together. -/
inductive IsFraction : List Char → Prop
  | none : IsFraction []
  | digits {digits : List Char} (h : IsNumeral digits) : IsFraction ('.' :: digits)

/-- A power of ten is as in any decimal, and so is the sign in it. The number itself has a minus or
no sign. -/
inductive IsNumber : List Char → Prop
  | parts {minus whole fraction power : List Char} {exponent : ℤ}
      (hminus : minus = [] ∨ minus = ['-']) (hwhole : IsWhole whole)
      (hfraction : IsFraction fraction) (hpower : SpellsExponent power exponent) :
      IsNumber (minus ++ (whole ++ (fraction ++ power)))

/-! ## Texts -/

/-- A text of blanks, which may stand between any two parts. -/
def IsGap (text : List Char) : Prop :=
  ∀ c ∈ text, isBlank c = true

/-- What a text can spell: a value alone or with gaps around it, or what stands between the
brackets of an array or an object that is not empty. -/
inductive Part where
  | value (value : Value)
  | element (value : Value)
  | elements (values : List Value)
  | member (member : Member)
  | members (members : List Member)

/-- How a part is spelled. The number of gaps and what is in them is free. -/
inductive Spells : Part → List Char → Prop
  | null : Spells (.value .null) ['n', 'u', 'l', 'l']
  | yes : Spells (.value (.boolean true)) ['t', 'r', 'u', 'e']
  | no : Spells (.value (.boolean false)) ['f', 'a', 'l', 's', 'e']
  | number {text : List Char} (h : IsNumber text) : Spells (.value (.number text)) text
  | string {text : List Char} {pieces : List Piece} (h : SpellsPieces text pieces) :
      Spells (.value (.string (decodeText? pieces))) ('"' :: (text ++ ['"']))
  | emptyArray {gap : List Char} (h : IsGap gap) :
      Spells (.value (.array [])) ('[' :: (gap ++ [']']))
  | array {values : List Value} {text : List Char} (h : Spells (.elements values) text) :
      Spells (.value (.array values)) ('[' :: (text ++ [']']))
  | emptyObject {gap : List Char} (h : IsGap gap) :
      Spells (.value (.object [])) ('{' :: (gap ++ ['}']))
  | object {members : List Member} {text : List Char} (h : Spells (.members members) text) :
      Spells (.value (.object members)) ('{' :: (text ++ ['}']))
  | element {value : Value} {front text back : List Char} (hfront : IsGap front)
      (h : Spells (.value value) text) (hback : IsGap back) :
      Spells (.element value) (front ++ (text ++ back))
  | lastElement {value : Value} {text : List Char} (h : Spells (.element value) text) :
      Spells (.elements [value]) text
  | moreElements {value : Value} {values : List Value} {text rest : List Char}
      (h : Spells (.element value) text) (hrest : Spells (.elements values) rest) :
      Spells (.elements (value :: values)) (text ++ ',' :: rest)
  | member {pieces : List Piece} {value : Value} {front key back text : List Char}
      (hfront : IsGap front) (hkey : SpellsPieces key pieces) (hback : IsGap back)
      (h : Spells (.element value) text) :
      Spells (.member (decodeText? pieces, value))
        (front ++ '"' :: (key ++ '"' :: (back ++ ':' :: text)))
  | lastMember {member : Member} {text : List Char} (h : Spells (.member member) text) :
      Spells (.members [member]) text
  | moreMembers {member : Member} {members : List Member} {text rest : List Char}
      (h : Spells (.member member) text) (hrest : Spells (.members members) rest) :
      Spells (.members (member :: members)) (text ++ ',' :: rest)

/-- Characters that need no escape spell themselves. -/
theorem spellsPieces_plain {text : List Char}
    (h : text.all (fun c => 32 ≤ c.toNat && c != '"' && c != '\\') = true) :
    SpellsPieces text (text.map .character) := by
  induction text with
  | nil => exact .nil
  | cons c rest ih =>
    simp only [List.all_cons, Bool.and_eq_true, decide_eq_true_eq, bne_iff_ne] at h
    obtain ⟨⟨⟨hcontrol, hquote⟩, hbackslash⟩, hrest⟩ := h
    refine .cons (.plain hcontrol hquote hbackslash) (ih ?_)
    simpa [and_assoc] using hrest

/-! ## How parts begin -/

/-- Nothing at all is a gap. -/
theorem isGap_nil : IsGap [] := by
  simp [IsGap]

/-- Two gaps side by side are one. -/
theorem IsGap.append {front back : List Char} (hfront : IsGap front) (hback : IsGap back) :
    IsGap (front ++ back) :=
  List.forall_mem_append.mpr ⟨hfront, hback⟩

/-- Skipping blanks passes over a gap. -/
theorem skipBlanks_gap {gap : List Char} (h : IsGap gap) (text : List Char) :
    skipBlanks (gap ++ text) = skipBlanks text :=
  List.dropWhile_append_of_pos h

/-- Skipping blanks stops where a character is none. -/
theorem skipBlanks_cons {c : Char} (h : isBlank c = false) (rest : List Char) :
    skipBlanks (c :: rest) = c :: rest :=
  List.dropWhile_cons_of_neg (by simp [h])

/-- Skipping blanks a second time passes over nothing. -/
theorem skipBlanks_start {text rest : List Char} {c : Char} (h : skipBlanks text = c :: rest) :
    skipBlanks (c :: rest) = skipBlanks text := by
  rw [← h]
  exact List.dropWhile_idempotent isBlank text

/-- A digit is no character that is not one. -/
theorem ne_of_isDigit {c other : Char} (h : c.isDigit = true) (hother : other.isDigit = false) :
    c ≠ other := by
  rintro rfl
  rw [h] at hother
  cases hother

/-- A digit is no blank. -/
theorem isBlank_eq_false_of_isDigit {c : Char} (h : c.isDigit = true) : isBlank c = false := by
  simp only [isBlank, Bool.or_eq_false_iff, beq_eq_false_iff_ne]
  exact ⟨⟨⟨ne_of_isDigit h (by decide), ne_of_isDigit h (by decide)⟩, ne_of_isDigit h (by decide)⟩,
    ne_of_isDigit h (by decide)⟩

/-- A number begins with its minus or with a digit. -/
theorem IsNumber.exists_head {text : List Char} (h : IsNumber text) :
    ∃ c rest, text = c :: rest ∧ (c = '-' ∨ c.isDigit = true) := by
  obtain ⟨rfl | rfl, hwhole, -, -⟩ := h
  · obtain ⟨c, rest, rfl⟩ := List.exists_cons_of_ne_nil hwhole.ne_nil
    exact ⟨c, _, rfl, .inr (hwhole.isDigit c List.mem_cons_self)⟩
  · exact ⟨'-', _, rfl, .inl rfl⟩

/-- A part begins, behind a gap, with something that is neither a blank nor the end of an array or
an object. -/
theorem Spells.exists_start {part : Part} {text : List Char} (h : Spells part text) :
    ∃ gap c rest, text = gap ++ c :: rest ∧ IsGap gap ∧
      isBlank c = false ∧ c ≠ ']' ∧ c ≠ '}' := by
  induction h with
  | null | yes | no | string | emptyArray | array | emptyObject | object =>
    exact ⟨[], _, _, rfl, isGap_nil, by decide, by decide, by decide⟩
  | number h =>
    obtain ⟨c, rest, rfl, rfl | hdigit⟩ := h.exists_head
    · exact ⟨[], _, _, rfl, isGap_nil, by decide, by decide, by decide⟩
    · exact ⟨[], c, rest, rfl, isGap_nil, isBlank_eq_false_of_isDigit hdigit,
        ne_of_isDigit hdigit (by decide), ne_of_isDigit hdigit (by decide)⟩
  | @element _ front _ back hfront _ _ ih =>
    obtain ⟨gap, c, rest, rfl, hgap, hc⟩ := ih
    exact ⟨front ++ gap, c, rest ++ back, by simp, hfront.append hgap, hc⟩
  | lastElement _ ih => exact ih
  | lastMember _ ih => exact ih
  | @moreElements _ _ _ others _ _ ih =>
    obtain ⟨gap, c, rest, rfl, hgap, hc⟩ := ih
    exact ⟨gap, c, rest ++ ',' :: others, by simp, hgap, hc⟩
  | @moreMembers _ _ _ others _ _ ih =>
    obtain ⟨gap, c, rest, rfl, hgap, hc⟩ := ih
    exact ⟨gap, c, rest ++ ',' :: others, by simp, hgap, hc⟩
  | member hfront => exact ⟨_, _, _, rfl, hfront, by decide, by decide, by decide⟩

/-- A spelled value begins, behind its gap, with a character that closes nothing. -/
theorem Spells.exists_skipBlanks {part : Part} {text : List Char} (h : Spells part text)
    (rest : List Char) :
    ∃ c left, skipBlanks (text ++ rest) = c :: left ∧ isBlank c = false ∧ c ≠ ']' ∧ c ≠ '}' := by
  obtain ⟨gap, c, left, rfl, hgap, hc⟩ := h.exists_start
  refine ⟨c, left ++ rest, ?_, hc⟩
  rw [List.append_assoc, skipBlanks_gap hgap]
  exact skipBlanks_cons hc.1 _

/-- The first character of a value tells its kind, numbers apart. -/
theorem Spells.exists_head {value : Value} {text : List Char} (h : Spells (.value value) text) :
    ∃ c tail, text = c :: tail ∧ isBlank c = false ∧ (c = 'n' → value = .null) ∧
      (c = 't' ∨ c = 'f' → ∃ answer, value = .boolean answer) ∧
      (c = '"' → ∃ decoded, value = .string decoded) ∧
      (c = '[' → ∃ values, value = .array values) ∧
      (c = '{' → ∃ members, value = .object members) := by
  cases h with
  | number h =>
    obtain ⟨c, tail, rfl, hc⟩ := h.exists_head
    refine ⟨c, tail, rfl, ?_⟩
    rcases hc with rfl | hdigit
    · simp [isBlank]
    · refine ⟨isBlank_eq_false_of_isDigit hdigit, ?_, ?_, ?_, ?_, ?_⟩
      · rintro rfl
        cases hdigit
      · rintro (rfl | rfl) <;> cases hdigit
      all_goals
        rintro rfl
        cases hdigit
  | null | yes | no | string | emptyArray | array | emptyObject | object =>
    exact ⟨_, _, rfl, by simp [isBlank]⟩

/-- Spelled elements are at least one. -/
theorem Spells.elements_ne_nil {values : List Value} {text : List Char}
    (h : Spells (.elements values) text) : values ≠ [] := by
  cases h <;> exact List.cons_ne_nil _ _

/-- Spelled members are at least one. -/
theorem Spells.members_ne_nil {members : List Member} {text : List Char}
    (h : Spells (.members members) text) : members ≠ [] := by
  cases h <;> exact List.cons_ne_nil _ _

end StudentRoster.Json
