import StudentRoster.Json.Number
import StudentRoster.Proofs.Json.Grammar

/-!
# The leaves of a JSON text are read as they are spelled

Keywords, strings and numbers, each in front of whatever may follow it. A string is passed over
whatever its escapes are and read exactly when they denote characters (`readString_eq_ok_iff`); a
number is read up to what cannot go on with it (`readNumber_append`).
-/

set_option autoImplicit false

namespace StudentRoster.Json

open Text (IsNumeral SpellsExponent SpellsInteger byteCount takeSign takeSign_append span_digits
  ne_sign_of_isDigit)

variable {text digits rest left : List Char} {pieces : List Piece} {n : Nat} {c : Char}

/-- A keyword is passed over where its letters stand. -/
theorem keyword_append (letters rest : List Char) :
    keyword letters (letters ++ rest) = .ok rest := by
  induction letters with
  | nil => rfl
  | cons letter letters ih =>
    rw [List.cons_append, keyword, if_pos rfl]
    exact ih

/-- What is made of a part that is read, when it is known what the part denotes. -/
theorem map_read_eq_ok_iff {α β : Type} {x : Except Fault (α × List Char)} {denotes : α → Prop}
    {f : α → β} {b : β} (h : ∀ {a}, x = .ok (a, left) ↔ denotes a ∧ left = rest) :
    (x.map fun read => (f read.1, read.2)) = .ok (b, left) ↔
      (∃ a, denotes a ∧ b = f a) ∧ left = rest := by
  rw [map_eq_ok_iff]
  constructor
  · rintro ⟨⟨a, other⟩, hx, heq⟩
    cases heq
    obtain ⟨ha, hleft⟩ := h.mp hx
    exact ⟨⟨a, ha, rfl⟩, hleft⟩
  · rintro ⟨⟨a, ha, rfl⟩, hleft⟩
    exact ⟨(a, left), h.mpr ⟨ha, hleft⟩, rfl⟩

/-! ## Escapes -/

/-- Four hexadecimal digits are read as the code that they spell. -/
theorem readHex_append (h : SpellsCode digits n) (rest : List Char) :
    readHex (digits ++ rest) = .ok (n, rest) := by
  cases h with | @digits a b c d _ _ _ _ ha hb hc hd =>
  have hcount : ¬ byteCount (a :: b :: c :: d :: rest) < 4 := by
    have := a.utf8Size_pos
    have := b.utf8Size_pos
    have := c.utf8Size_pos
    have := d.utf8Size_pos
    simp only [Text.byteCount_cons]
    omega
  change readHex (a :: b :: c :: d :: rest) = _
  rw [readHex, if_neg hcount, ha, hb, hc, hd]

/-- The letter of a short escape begins no escape with a code. -/
theorem ne_u_of_shortEscape? {letter : Char} (h : shortEscape? letter = some c) : letter ≠ 'u' := by
  rintro rfl
  cases h

/-- A short escape is passed over. -/
theorem skipEscape_short {letter : Char} (h : shortEscape? letter = some c) (rest : List Char) :
    skipEscape (letter :: rest) = .ok rest := by
  rw [skipEscape.eq_3 _ _ (ne_u_of_shortEscape? h), h]

/-- A short escape is read as its character. -/
theorem readEscape_short {letter : Char} (h : shortEscape? letter = some c) (rest : List Char) :
    readEscape (letter :: rest) = .ok (c, rest) := by
  rw [readEscape.eq_3 _ _ (ne_u_of_shortEscape? h), h]

/-- An escape with a code is passed over, whatever its code is. -/
theorem skipEscape_code (h : SpellsCode digits n) (rest : List Char) :
    skipEscape ('u' :: (digits ++ rest)) = .ok rest := by
  rw [skipEscape, readHex_append h]
  rfl

/-- An escape with a code is read by the kind of its code. -/
theorem readEscape_code (h : SpellsCode digits n) (rest : List Char) :
    readEscape ('u' :: (digits ++ rest)) =
      if isTrailingSurrogate n then .error (.before .loneSurrogate rest)
      else if isLeadingSurrogate n then readPartner n rest
      else .ok (Char.ofNat n, rest) := by
  rw [readEscape, readHex_append h]

/-! ## Strings -/

/-- A string is passed over from behind an escape that was passed over. -/
theorem skipString_escape (h : skipEscape text = .ok left) :
    skipString ('\\' :: text) = skipString left := by
  rw [skipString]
  split
  next e herror =>
    rw [h] at herror
    cases herror
  next other hother =>
    rw [h] at hother
    cases hother
    rfl

/-- A string is read from behind an escape that was read. -/
theorem readString_escape (h : readEscape text = .ok (c, left)) :
    readString ('\\' :: text) =
      (readString left).map fun read => (c :: read.1, read.2) := by
  rw [readString]
  split
  next e herror =>
    rw [h] at herror
    cases herror
  next other hother =>
    rw [h] at hother
    cases hother
    cases readString left <;> rfl

/-- An escape that cannot be read keeps the string from being read. -/
theorem readString_escape_ne_ok (h : ∀ result, readEscape text ≠ .ok result)
    (result : List Char × List Char) : readString ('\\' :: text) ≠ .ok result := by
  intro hread
  rw [readString] at hread
  split at hread
  next => cases hread
  next hescape => exact h _ hescape

/-- A character that needs no escape is read as itself. -/
theorem readString_plain (hcontrol : 32 ≤ c.toNat) (hquote : c ≠ '"') (hbackslash : c ≠ '\\')
    (rest : List Char) :
    readString (c :: rest) = (readString rest).map fun read => (c :: read.1, read.2) := by
  rw [readString.eq_4 _ _ hquote hbackslash, if_neg (Nat.not_lt.mpr hcontrol)]
  cases readString rest <;> rfl

/-- A string is passed over whatever its escapes denote. -/
theorem skipString_spelled (h : SpellsPieces text pieces) (rest : List Char) :
    skipString (text ++ '"' :: rest) = .ok rest := by
  induction h with
  | nil => rw [List.nil_append, skipString]
  | @cons front back piece pieces hpiece _ ih =>
    cases hpiece with
    | @plain c hcontrol hquote hbackslash =>
      rw [List.cons_append, List.nil_append, List.cons_append,
        skipString.eq_4 _ _ hquote hbackslash, if_neg (Nat.not_lt.mpr hcontrol), ih]
    | short hletter =>
      exact (skipString_escape (skipEscape_short hletter _)).trans ih
    | code hdigits =>
      refine (skipString_escape ?_).trans ih
      have hskip := skipEscape_code hdigits (back ++ '"' :: rest)
      rwa [← List.append_assoc] at hskip

/-- Two escapes are read as one character when they are the halves of a pair. -/
theorem readEscape_pair {digits' : List Char} {m : Nat} (h : SpellsCode digits n)
    (hfirst : ¬isTrailingSurrogate n = true) (hleading : isLeadingSurrogate n = true)
    (h' : SpellsCode digits' m) (rest : List Char) :
    readEscape ('u' :: (digits ++ '\\' :: 'u' :: (digits' ++ rest))) =
      if isTrailingSurrogate m then .ok (paired n m, rest)
      else .error (.before .loneSurrogate rest) := by
  rw [readEscape_code h, if_neg hfirst, if_pos hleading, readPartner, readHex_append h']
  rfl

/-- The second half of a pair is an escape with a code. -/
theorem exists_of_readPartner {leading : Nat} {result : Char × List Char}
    (h : readPartner leading text = .ok result) : ∃ tail, text = '\\' :: 'u' :: tail := by
  unfold readPartner at h
  split at h
  next => cases h
  next => cases h
  next tail => exact ⟨tail, rfl⟩
  next => cases h
  next => cases h

/-- A backslash and a u begin nothing but a code. -/
theorem exists_code_of_spellsPieces {tail : List Char} (h : SpellsPieces text pieces)
    (htext : text ++ '"' :: rest = '\\' :: 'u' :: tail) :
    ∃ n others, pieces = .code n :: others := by
  cases h with
  | nil => cases htext
  | cons hpiece _ =>
    cases hpiece with
    | plain _ _ hbackslash =>
      injection htext with hbackslash' _
      exact absurd hbackslash' hbackslash
    | short hletter =>
      injection htext with _ htext
      injection htext with hletter' _
      exact absurd hletter' (ne_u_of_shortEscape? hletter)
    | code _ => exact ⟨_, _, rfl⟩

/-- One more character in front of what is read. -/
theorem map_cons_eq_ok_iff {x : Except Fault (List Char × List Char)} {all : Option (List Char)}
    (h : ∀ {decoded}, x = .ok (decoded, left) ↔ all = some decoded ∧ left = rest)
    (c : Char) (decoded : List Char) :
    (x.map fun read => (c :: read.1, read.2)) = .ok (decoded, left) ↔
      all.map (c :: ·) = some decoded ∧ left = rest := by
  simp only [Option.map_eq_some_iff, eq_comm (b := decoded)]
  exact map_read_eq_ok_iff h

/-- A string is read exactly when its escapes denote characters. -/
theorem readString_eq_ok_iff {decoded : List Char} (h : SpellsPieces text pieces) :
    readString (text ++ '"' :: rest) = .ok (decoded, left) ↔
      decode? pieces = some decoded ∧ left = rest := by
  fun_induction decode? pieces generalizing text decoded with
  | case1 =>
    cases h
    rw [List.nil_append, readString]
    simp [eq_comm]
  | case2 c pieces ih =>
    cases h with | @cons _ back _ _ hpiece h =>
    cases hpiece with
    | plain hcontrol hquote hbackslash =>
      simp only [List.cons_append, List.nil_append]
      rw [readString_plain hcontrol hquote hbackslash]
      exact map_cons_eq_ok_iff (ih h) c decoded
    | short hletter =>
      simp only [List.cons_append, List.nil_append]
      rw [readString_escape (readEscape_short hletter _)]
      exact map_cons_eq_ok_iff (ih h) c decoded
  | case3 n pieces htrailing =>
    -- the second half of a pair without the first one
    cases h with | @cons _ back _ _ hpiece h =>
    cases hpiece with | @code digits _ hdigits =>
    simp only [List.append_assoc, List.cons_append]
    refine iff_of_false (readString_escape_ne_ok (fun result => ?_) _) (by simp)
    rw [readEscape_code hdigits, if_pos htrailing]
    simp
  | case4 n hfirst hleading m pieces htrailing ih =>
    cases h with | @cons _ _ _ _ hpiece h =>
    cases h with | @cons _ back _ _ hpartner h =>
    cases hpiece with | @code digits _ hdigits =>
    cases hpartner with | @code digits' _ hdigits' =>
    have hescape := readEscape_pair hdigits hfirst hleading hdigits' (back ++ '"' :: rest)
    rw [if_pos htrailing] at hescape
    simp only [List.append_assoc, List.cons_append]
    rw [readString_escape hescape]
    exact map_cons_eq_ok_iff (ih h) (paired n m) decoded
  | case5 n hfirst hleading m pieces htrailing =>
    -- behind the first half of a pair a code that is no second half
    cases h with | @cons _ _ _ _ hpiece h =>
    cases h with | @cons _ back _ _ hpartner _ =>
    cases hpiece with | @code digits _ hdigits =>
    cases hpartner with | @code digits' _ hdigits' =>
    simp only [List.append_assoc, List.cons_append]
    refine iff_of_false (readString_escape_ne_ok (fun result => ?_) _) (by simp)
    rw [readEscape_pair hdigits hfirst hleading hdigits', if_neg htrailing]
    simp
  | case6 n pieces hfirst hleading hcode =>
    -- behind the first half of a pair no code at all
    cases h with | @cons _ back _ _ hpiece h =>
    cases hpiece with | @code digits _ hdigits =>
    simp only [List.append_assoc, List.cons_append]
    refine iff_of_false (readString_escape_ne_ok (fun result hescape => ?_) _) (by simp)
    rw [readEscape_code hdigits, if_neg hfirst, if_pos hleading] at hescape
    obtain ⟨tail, htail⟩ := exists_of_readPartner hescape
    obtain ⟨m, others, rfl⟩ := exists_code_of_spellsPieces h htail
    exact hcode m others rfl
  | case7 n pieces hfirst hleading ih =>
    cases h with | @cons _ back _ _ hpiece h =>
    cases hpiece with | @code digits _ hdigits =>
    have hescape := readEscape_code hdigits (back ++ '"' :: rest)
    rw [if_neg hfirst, if_neg hleading] at hescape
    simp only [List.append_assoc, List.cons_append]
    rw [readString_escape hescape]
    exact map_cons_eq_ok_iff (ih h) _ decoded

/-! ## What stands behind a value -/

/-- A comma, or the end of an array or an object. -/
def IsMark (c : Char) : Prop :=
  c = ',' ∨ c = ']' ∨ c = '}'

/-- What can stand behind a value: a blank, a mark or nothing. -/
def EndsValue (rest : List Char) : Prop :=
  ∀ c ∈ rest.head?, isBlank c = true ∨ IsMark c

/-- A mark is no blank. -/
theorem IsMark.isBlank_eq_false (h : IsMark c) : isBlank c = false := by
  rcases h with rfl | rfl | rfl <;> decide

/-- A mark ends the value in front of it. -/
theorem endsValue_mark (h : IsMark c) (rest : List Char) : EndsValue (c :: rest) := by
  rintro d hd
  cases hd
  exact .inr h

/-- A gap changes nothing about what ends a value. -/
theorem endsValue_gap {gap : List Char} (hgap : IsGap gap) (h : EndsValue rest) :
    EndsValue (gap ++ rest) := by
  cases gap with
  | nil => exact h
  | cons c gap =>
    rintro d hd
    cases hd
    exact .inl (hgap c List.mem_cons_self)

/-- Nothing that can stand behind a number goes on with it. -/
theorem EndsValue.head (h : EndsValue rest) :
    ∀ c ∈ rest.head?, c.isDigit = false ∧ c ≠ '.' ∧ c ≠ 'e' ∧ c ≠ 'E' := by
  intro c hc
  rcases h c hc with hblank | rfl | rfl | rfl
  · simp only [isBlank, Bool.or_eq_true, beq_iff_eq] at hblank
    rcases hblank with ((rfl | rfl) | rfl) | rfl <;> decide
  all_goals decide

/-! ## Numbers -/

variable {whole fraction power : List Char} {exponent : ℤ} (atEnd : Cause)

/-- A power of ten goes on with none of the digits in front of it. -/
theorem head_append_power (hpower : SpellsExponent power exponent) (hrest : EndsValue rest) :
    ∀ c ∈ (power ++ rest).head?, c.isDigit = false ∧ c ≠ '.' := by
  intro c hc
  cases hpower with
  | none => exact ⟨(hrest.head c hc).1, (hrest.head c hc).2.1⟩
  | marked hmark _ =>
    cases hc
    rcases hmark with rfl | rfl <;> decide

/-- A fraction is read as far as it goes. -/
theorem readFraction_append (h : IsFraction fraction)
    (hrest : ∀ c ∈ rest.head?, c.isDigit = false ∧ c ≠ '.') :
    ∃ read, readFraction atEnd (fraction ++ rest) = .ok (read, rest) := by
  cases h with
  | none =>
    refine ⟨[], ?_⟩
    rw [List.nil_append]
    unfold readFraction
    split
    next => exact absurd rfl (hrest '.' rfl).2
    next => rfl
  | @digits digits hdigits =>
    obtain ⟨htake, hdrop⟩ := span_digits hdigits.isDigit fun c hc => (hrest c hc).1
    refine ⟨digits, ?_⟩
    rw [List.cons_append, readFraction, htake, hdrop, if_neg]
    simp [hdigits.ne_nil]

/-- An exponent is read as far as it goes. -/
theorem readExponent_append (hpower : SpellsExponent power exponent) (hrest : EndsValue rest) :
    ∃ read, readExponent atEnd (power ++ rest) = .ok (read, rest) := by
  cases hpower with
  | none =>
    refine ⟨none, ?_⟩
    cases rest with
    | nil => rfl
    | cons c rest =>
      obtain ⟨-, -, he, hE⟩ := hrest.head c rfl
      rw [List.nil_append, readExponent, if_neg (not_or_intro he hE)]
  | marked hmark htext =>
    cases htext with
    | @signed sign digits negative hsign hdigits =>
      have hhead : ∀ c ∈ (digits ++ rest).head?, c ≠ '+' ∧ c ≠ '-' := by
        obtain ⟨d, others, rfl⟩ := List.exists_cons_of_ne_nil hdigits.ne_nil
        rintro c hc
        cases hc
        exact ne_sign_of_isDigit (hdigits.isDigit d List.mem_cons_self)
      obtain ⟨htake, hdrop⟩ := span_digits hdigits.isDigit fun c hc => (hrest.head c hc).1
      refine ⟨some (negative, digits), ?_⟩
      rw [List.cons_append, List.append_assoc, readExponent, if_pos hmark,
        takeSign_append hsign hhead]
      simp only [htake, hdrop]
      rw [if_neg]
      simp [hdigits.ne_nil]

/-- A number is read up to what cannot go on with it. -/
theorem readNumber_append (negative : Bool) (hwhole : IsWhole whole)
    (hfraction : IsFraction fraction) (hpower : SpellsExponent power exponent)
    (hrest : EndsValue rest) :
    ∃ number, readNumber atEnd negative (whole ++ (fraction ++ (power ++ rest))) =
      .ok (number, rest) := by
  have hdot : ∀ c ∈ (fraction ++ (power ++ rest)).head?, c.isDigit = false := by
    intro c hc
    cases hfraction with
    | none => exact (head_append_power hpower hrest c hc).1
    | digits _ =>
      cases hc
      decide
  obtain ⟨htake, hdrop⟩ := span_digits hwhole.isDigit hdot
  obtain ⟨read, hread⟩ := readFraction_append atEnd hfraction (head_append_power hpower hrest)
  obtain ⟨read', hread'⟩ := readExponent_append atEnd hpower hrest
  refine ⟨⟨negative, whole, read, read'⟩, ?_⟩
  unfold readNumber
  rw [htake, hdrop, hread]
  dsimp only
  rw [hread']
  split
  next => exact absurd rfl hwhole.ne_nil
  next => cases hwhole.eq_zero rfl
  next => rfl

end StudentRoster.Json
