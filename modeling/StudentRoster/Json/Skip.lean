import StudentRoster.Json.Number

/-!
# Passing over a JSON value

The value of a member that nobody asks for is passed over, whatever it is and however deep. What
is still open is kept as a list of enclosures, the innermost first, so that depth costs nothing but
memory. `length_of_skipValue` says that the text does not grow.
-/

set_option autoImplicit false

namespace StudentRoster.Json

/-- What a value can stand in. -/
inductive Enclosure where
  | list
  | object
  deriving DecidableEq, Repr

namespace Enclosure

/-- The character that ends it. -/
def close : Enclosure → Char
  | list => ']'
  | object => '}'

/-- The fault of a text that ends inside. -/
def atEnd : Enclosure → Cause
  | list => .endInList
  | object => .endInObject

/-- The fault of something that neither goes on nor ends it. -/
def noComma : Enclosure → Cause
  | list => .noCommaOrBracket
  | object => .noCommaOrBrace

end Enclosure

/-- Reads the colon between a key and its value. -/
def readColon (text : List Char) : Except Fault (List Char) :=
  match skipBlanks text with
  | [] => .error (.behind .endInObject [])
  | c :: rest => if c = ':' then .ok rest else .error (.behind .noColon (c :: rest))

/-- Passes over a key and the colon behind it. -/
def skipKey (text : List Char) : Except Fault (List Char) :=
  match skipBlanks text with
  | [] => .error (.behind .endInObject [])
  | c :: rest =>
    if c = '"' then
      match skipString rest with
      | .error e => .error e
      | .ok rest => readColon rest
    else .error (.behind .keyNotString (c :: rest))

/-- Passes over a value without parts, of which `c` is the first character. -/
def skipScalar (c : Char) (rest : List Char) : Except Fault (List Char) :=
  if c = 'n' then keyword "ull".toList rest
  else if c = 't' then keyword "rue".toList rest
  else if c = 'f' then keyword "alse".toList rest
  else if c = '"' then skipString rest
  else if c = '-' then (readNumber .badNumber true rest).map Prod.snd
  else if c.isDigit then (readNumber .badNumber false (c :: rest)).map Prod.snd
  else .error (.behind .noValue (c :: rest))

/-- A colon that is read leaves less text. -/
theorem length_of_readColon {text rest : List Char} (h : readColon text = .ok rest) :
    rest.length < text.length := by
  unfold readColon at h
  have hblanks := length_skipBlanks_le text
  split at h
  · cases h
  · next hskip =>
    rw [hskip, List.length_cons] at hblanks
    split at h
    · cases h
      omega
    · cases h

/-- A key that is passed over leaves less text. -/
theorem length_of_skipKey {text rest : List Char} (h : skipKey text = .ok rest) :
    rest.length < text.length := by
  unfold skipKey at h
  have hblanks := length_skipBlanks_le text
  split at h
  · cases h
  · next hskip =>
    rw [hskip, List.length_cons] at hblanks
    split at h
    · split at h
      · cases h
      · next hstring =>
        have := length_of_skipString hstring
        have := length_of_readColon h
        omega
    · cases h

/-- A number that is passed over leaves less text. -/
theorem length_of_map_readNumber {atEnd : Cause} {negative : Bool} {text rest : List Char}
    (h : (readNumber atEnd negative text).map Prod.snd = .ok rest) : rest.length < text.length := by
  cases hread : readNumber atEnd negative text with
  | error e => simp [hread, Except.map] at h
  | ok result =>
    obtain ⟨number, left⟩ := result
    simp only [hread, Except.map, Except.ok.injEq] at h
    exact h ▸ length_of_readNumber hread

/-- A value without parts that is passed over leaves no more text behind its first character. -/
theorem length_of_skipScalar {c : Char} {text rest : List Char}
    (h : skipScalar c text = .ok rest) : rest.length ≤ text.length := by
  unfold skipScalar at h
  split at h
  · exact length_of_keyword h
  split at h
  · exact length_of_keyword h
  split at h
  · exact length_of_keyword h
  split at h
  · exact Nat.le_of_lt (length_of_skipString h)
  split at h
  · exact Nat.le_of_lt (length_of_map_readNumber h)
  split at h
  · exact Nat.le_of_lt_succ (length_of_map_readNumber h)
  · cases h

-- The equations of the matches are used only where the recursion is shown to end.
set_option linter.unusedVariables false in
mutual

/-- Passes over a value and over what then ends the enclosures around it. -/
def skipValue (around : List Enclosure) (text : List Char) : Except Fault (List Char) :=
  match hblanks : skipBlanks text with
  | [] => .error (.behind .endInValue [])
  | c :: rest =>
    if c = '[' then skipRest (.list :: around) true rest
    else if c = '{' then skipRest (.object :: around) true rest
    else
      match hscalar : skipScalar c rest with
      | .error e => .error e
      | .ok rest => skipRest around false rest
termination_by (text.length, 0)
decreasing_by
  all_goals
    apply Prod.Lex.left
    have h := length_skipBlanks_le text
    rw [hblanks, List.length_cons] at h
  · omega
  · omega
  · have := length_of_skipScalar hscalar
    omega

/-- Passes over the rest of the enclosures, of which the innermost is `fresh` when nothing in it has
been read yet. -/
def skipRest (around : List Enclosure) (fresh : Bool) (text : List Char) :
    Except Fault (List Char) :=
  match around with
  | [] => .ok text
  | inner :: outer =>
    match hblanks : skipBlanks text with
    | [] => .error (.behind inner.atEnd [])
    | c :: rest =>
      if c = ',' ∧ !fresh then
        match inner with
        | .list => skipValue (.list :: outer) rest
        | .object =>
          match hkey : skipKey rest with
          | .error e => .error e
          | .ok rest => skipValue (.object :: outer) rest
      else if c = inner.close then skipRest outer false rest
      else if !fresh then .error (.behind inner.noComma (c :: rest))
      else
        match inner with
        | .list => skipValue (.list :: outer) (c :: rest)
        | .object =>
          match hkey : skipKey (c :: rest) with
          | .error e => .error e
          | .ok rest => skipValue (.object :: outer) rest
termination_by (text.length, 1)
decreasing_by
  · apply Prod.Lex.left
    have h := length_skipBlanks_le text
    rw [hblanks, List.length_cons] at h
    omega
  · apply Prod.Lex.left
    have h := length_skipBlanks_le text
    rw [hblanks, List.length_cons] at h
    have := length_of_skipKey hkey
    omega
  · apply Prod.Lex.left
    have h := length_skipBlanks_le text
    rw [hblanks, List.length_cons] at h
    omega
  · have h := length_skipBlanks_le text
    rw [hblanks] at h
    rcases Nat.lt_or_eq_of_le h with hlt | heq
    · exact Prod.Lex.left _ _ hlt
    · exact heq ▸ Prod.Lex.right _ (by decide)
  · apply Prod.Lex.left
    have h := length_skipBlanks_le text
    rw [hblanks] at h
    have := length_of_skipKey hkey
    omega

end

/-- Neither function gives back more text than it takes: by induction on the length, for values
before what follows them. -/
theorem length_of_skip (n : Nat) : ∀ text : List Char, text.length = n →
    (∀ around rest, skipValue around text = .ok rest → rest.length ≤ n) ∧
      ∀ around fresh rest, skipRest around fresh text = .ok rest → rest.length ≤ n := by
  induction n using Nat.strongRecOn with
  | ind n ih =>
    intro text hn
    have hle := length_skipBlanks_le text
    have hvalue : ∀ around rest, skipValue around text = .ok rest → rest.length ≤ n := by
      intro around rest h
      have hrest {left : List Char} {around : List Enclosure} {fresh : Bool}
          (hlt : left.length < n) (h : skipRest around fresh left = .ok rest) : rest.length ≤ n :=
        Nat.le_trans ((ih _ hlt left rfl).2 _ _ _ h) (Nat.le_of_lt hlt)
      rw [skipValue] at h
      split at h
      · cases h
      · next c tail hblanks =>
        rw [hblanks, List.length_cons] at hle
        split at h
        · exact hrest (by omega) h
        split at h
        · exact hrest (by omega) h
        split at h
        · cases h
        · next hscalar =>
          have := length_of_skipScalar hscalar
          exact hrest (by omega) h
    refine ⟨hvalue, ?_⟩
    intro around fresh rest h
    have hsmaller {left : List Char} {around : List Enclosure}
        (hlt : left.length < n) (h : skipValue around left = .ok rest) : rest.length ≤ n :=
      Nat.le_trans ((ih _ hlt left rfl).1 _ _ h) (Nat.le_of_lt hlt)
    rw [skipRest.eq_def] at h
    split at h
    · cases h
      omega
    split at h
    · cases h
    · next c tail hblanks =>
      rw [hblanks, List.length_cons] at hle
      split at h
      · split at h
        · exact hsmaller (by omega) h
        · split at h
          · cases h
          · next hkey =>
            have := length_of_skipKey hkey
            exact hsmaller (by omega) h
      split at h
      · exact Nat.le_trans ((ih _ (by omega) tail rfl).2 _ _ _ h) (by omega)
      split at h
      · cases h
      split at h
      · rcases Nat.lt_or_eq_of_le hle with hlt | heq
        · exact hsmaller (by simp only [List.length_cons]; omega) h
        · have hsame : c :: tail = text := by
            have := (List.dropWhile_sublist (l := text) isBlank).eq_of_length
              (by rw [← skipBlanks, hblanks, List.length_cons, heq])
            rw [← hblanks]
            exact this
          exact hvalue _ _ (hsame ▸ h)
      · split at h
        · cases h
        · next hkey =>
          have := length_of_skipKey hkey
          simp only [List.length_cons] at this
          exact hsmaller (by omega) h

/-- A value that is passed over leaves no more text. -/
theorem length_of_skipValue {around : List Enclosure} {text rest : List Char}
    (h : skipValue around text = .ok rest) : rest.length ≤ text.length :=
  (length_of_skip _ text rfl).1 _ _ h

end StudentRoster.Json
