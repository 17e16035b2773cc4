import StudentRoster.Json.Fault
import StudentRoster.Text.Numeral

/-!
# The leaves of a JSON text

Blanks, keywords and strings. Every function takes the text that is left and gives back what it
read and the text that is left then. A string is read in one of two ways: `readString` decodes it,
`skipString` only finds its end and is content with escapes that denote no character. The lemmas at
the end say that both shorten the text.
-/

set_option autoImplicit false

namespace StudentRoster.Json

open Text (byteCount hexDigit?)

/-- The four blanks of the format. -/
def isBlank (c : Char) : Bool :=
  c == ' ' || c == '\n' || c == '\t' || c == '\r'

/-- The text behind the blanks at its front. -/
def skipBlanks (text : List Char) : List Char :=
  text.dropWhile isBlank

/-- Reads the letters of a keyword. -/
def keyword : List Char → List Char → Except Fault (List Char)
  | [], text => .ok text
  | _ :: _, [] => .error (.before .endInValue [])
  | letter :: letters, c :: rest =>
    if c = letter then keyword letters rest else .error (.behind .noKeyword (c :: rest))

/-- Reads the four hexadecimal digits of an escape. They are taken as four bytes at once, so that a
fault in any of them is placed behind all four. -/
def readHex (text : List Char) : Except Fault (Nat × List Char) :=
  if byteCount text < 4 then .error ⟨.endInString, 0⟩
  else
    match text with
    | a :: b :: c :: d :: rest =>
      match hexDigit? a, hexDigit? b, hexDigit? c, hexDigit? d with
      | some a, some b, some c, some d => .ok (((a * 16 + b) * 16 + c) * 16 + d, rest)
      | _, _, _, _ => .error ⟨.badEscape, byteCount text - 4⟩
    | _ => .error ⟨.badEscape, byteCount text - 4⟩

/-- The character that a backslash and one letter denote. -/
def shortEscape? : Char → Option Char
  | '"' => some '"'
  | '\\' => some '\\'
  | '/' => some '/'
  | 'b' => some '\x08'
  | 'f' => some '\x0c'
  | 'n' => some '\n'
  | 'r' => some '\r'
  | 't' => some '\t'
  | _ => none

/-- Whether a number is the first half of a surrogate pair. -/
def isLeadingSurrogate (n : Nat) : Bool := 0xD800 ≤ n && n ≤ 0xDBFF

/-- Whether a number is the second half of a surrogate pair. -/
def isTrailingSurrogate (n : Nat) : Bool := 0xDC00 ≤ n && n ≤ 0xDFFF

/-- Reads the second half of an escape by two surrogates. -/
def readPartner (leading : Nat) : List Char → Except Fault (Char × List Char)
  | [] => .error (.before .endInString [])
  | ['\\'] => .error (.before .endInString [])
  | '\\' :: 'u' :: rest =>
    match readHex rest with
    | .error e => .error e
    | .ok (n, rest) =>
      if isTrailingSurrogate n then
        .ok (Char.ofNat (0x10000 + (leading - 0xD800) * 0x400 + (n - 0xDC00)), rest)
      else .error (.before .loneSurrogate rest)
  | '\\' :: rest => .error (.behind .surrogateCut rest)
  | rest => .error (.behind .surrogateCut rest)

/-- Reads what stands behind the backslash of an escape. -/
def readEscape : List Char → Except Fault (Char × List Char)
  | [] => .error (.before .endInString [])
  | 'u' :: rest =>
    match readHex rest with
    | .error e => .error e
    | .ok (n, rest) =>
      if isTrailingSurrogate n then .error (.before .loneSurrogate rest)
      else if isLeadingSurrogate n then readPartner n rest
      else .ok (Char.ofNat n, rest)
  | c :: rest =>
    match shortEscape? c with
    | some decoded => .ok (decoded, rest)
    | none => .error (.behind .badEscape (c :: rest))

/-- Passes over what stands behind the backslash of an escape. -/
def skipEscape : List Char → Except Fault (List Char)
  | [] => .error (.before .endInString [])
  | 'u' :: rest => (readHex rest).map Prod.snd
  | c :: rest =>
    match shortEscape? c with
    | some _ => .ok rest
    | none => .error (.behind .badEscape (c :: rest))

/-- Four digits that are read leave less text. -/
theorem length_of_readHex {text rest : List Char} {n : Nat} (h : readHex text = .ok (n, rest)) :
    rest.length < text.length := by
  unfold readHex at h
  split at h
  · cases h
  · split at h
    · split at h
      · cases h
        simp only [List.length_cons]
        omega
      · cases h
    · cases h

/-- The second half of a pair leaves less text. -/
theorem length_of_readPartner {leading : Nat} {text rest : List Char} {c : Char}
    (h : readPartner leading text = .ok (c, rest)) : rest.length < text.length := by
  unfold readPartner at h
  split at h <;> try cases h
  split at h
  · cases h
  · next hread =>
    have := length_of_readHex hread
    split at h
    · simp only [Except.ok.injEq, Prod.mk.injEq] at h
      simp only [← h.2, List.length_cons]
      omega
    · cases h

/-- An escape that is read leaves less text. -/
theorem length_of_readEscape {text rest : List Char} {c : Char}
    (h : readEscape text = .ok (c, rest)) : rest.length < text.length := by
  unfold readEscape at h
  split at h
  · cases h
  · split at h
    · cases h
    · next hread =>
      have := length_of_readHex hread
      split at h
      · cases h
      · split at h
        · have := length_of_readPartner h
          simp only [List.length_cons]
          omega
        · cases h
          simp only [List.length_cons]
          omega
  · split at h
    · cases h
      simp
    · cases h

/-- An escape that is passed over leaves less text. -/
theorem length_of_skipEscape {text rest : List Char} (h : skipEscape text = .ok rest) :
    rest.length < text.length := by
  unfold skipEscape at h
  split at h
  · cases h
  · next tail =>
    cases hread : readHex tail with
    | error e => simp [hread, Except.map] at h
    | ok result =>
      obtain ⟨n, left⟩ := result
      simp only [hread, Except.map, Except.ok.injEq] at h
      have := length_of_readHex hread
      subst h
      simp only [List.length_cons]
      omega
  · split at h
    · cases h
      simp
    · cases h

/-- Reads a string, its opening quote left behind, and decodes it. -/
def readString (text : List Char) : Except Fault (List Char × List Char) :=
  match text with
  | [] => .error (.before .endInString [])
  | '"' :: rest => .ok ([], rest)
  | '\\' :: rest =>
    match hescape : readEscape rest with
    | .error e => .error e
    | .ok (c, left) =>
      have := length_of_readEscape hescape
      match readString left with
      | .error e => .error e
      | .ok (decoded, left) => .ok (c :: decoded, left)
  | c :: rest =>
    if c.toNat < 32 then .error (.behind .controlInString (c :: rest))
    else
      match readString rest with
      | .error e => .error e
      | .ok (decoded, left) => .ok (c :: decoded, left)
termination_by text.length

/-- Passes over a string, its opening quote left behind. -/
def skipString (text : List Char) : Except Fault (List Char) :=
  match text with
  | [] => .error (.before .endInString [])
  | '"' :: rest => .ok rest
  | '\\' :: rest =>
    match hescape : skipEscape rest with
    | .error e => .error e
    | .ok left =>
      have := length_of_skipEscape hescape
      skipString left
  | c :: rest =>
    if c.toNat < 32 then .error (.before .controlInString (c :: rest)) else skipString rest
termination_by text.length

/-- Without the blanks in front there is no more text. -/
theorem length_skipBlanks_le (text : List Char) : (skipBlanks text).length ≤ text.length :=
  (List.dropWhile_sublist _).length_le

/-- The rest of a keyword leaves no more text. -/
theorem length_of_keyword {letters text rest : List Char} (h : keyword letters text = .ok rest) :
    rest.length ≤ text.length := by
  induction letters generalizing text with
  | nil =>
    cases h
    exact Nat.le_refl _
  | cons letter letters ih =>
    cases text with
    | nil => cases h
    | cons c tail =>
      simp only [keyword] at h
      split at h
      · exact Nat.le_succ_of_le (ih h)
      · cases h

/-- A string with its closing quote leaves less text. -/
theorem length_of_readString {text decoded rest : List Char}
    (h : readString text = .ok (decoded, rest)) : rest.length < text.length := by
  fun_induction readString text generalizing decoded rest with
  | case1 => cases h
  | case2 => cases h; simp
  | case3 => cases h
  | case4 => cases h
  | case5 tail c left hescape hlt decoded' left' hread ih =>
    cases h
    have := ih hread
    simp only [List.length_cons]
    omega
  | case6 => cases h
  | case7 => cases h
  | case8 c tail _ _ hsmall decoded' left' hread ih =>
    cases h
    have := ih hread
    simp only [List.length_cons]
    omega

/-- A string that is passed over leaves less text. -/
theorem length_of_skipString {text rest : List Char} (h : skipString text = .ok rest) :
    rest.length < text.length := by
  fun_induction skipString text with
  | case1 => cases h
  | case2 => cases h; simp
  | case3 => cases h
  | case4 tail left hescape hlt ih =>
    have := ih h
    simp only [List.length_cons]
    omega
  | case5 => cases h
  | case6 c tail _ _ hsmall ih =>
    have := ih h
    simp only [List.length_cons]
    omega

end StudentRoster.Json
