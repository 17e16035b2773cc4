import StudentRoster.Settings
import StudentRoster.Json.Skip
import StudentRoster.Text.Quoted

/-!
# Reading settings from a JSON text

The text is an object, in which the two settings may stand in any order among other members, or an
array of at most the two values. A casing is its name or an object whose only key is the name and
whose value is null. What is absent keeps its default. A fault names the first thing in the text
that the reader has no use for.
-/

set_option autoImplicit false

namespace StudentRoster.Settings

open Json
open Text (byteCount)

/-- The fault of a value that stands where something else is expected, with a description of it. -/
def wrongType (expected : String) (text : List Char) : Fault :=
  let found (kind : String) (rest : List Char) : Fault :=
    .before (.wrongType kind expected) rest
  let word (letters kind : String) (rest : List Char) : Fault :=
    match keyword letters.toList rest with
    | .error e => e
    | .ok rest => found kind rest
  let number (negative : Bool) (rest : List Char) : Fault :=
    match readNumber .endInValue negative rest with
    | .error e => e
    | .ok (number, rest) =>
      match number.value with
      | .ok value => found value.description rest
      | .error unread => ⟨.numberOutOfRange, byteCount rest + unread⟩
  match text with
  | [] => .behind .noValue []
  | c :: rest =>
    if c = 'n' then word "ull" "null" rest
    else if c = 't' then word "rue" "boolean `true`" rest
    else if c = 'f' then word "alse" "boolean `false`" rest
    else if c = '-' then number true rest
    else if c.isDigit then number false (c :: rest)
    else if c = '"' then
      match readString rest with
      | .error e => e
      | .ok (decoded, rest) => found ("string " ++ Text.quote (String.ofList decoded)) rest
    else if c = '[' then found "sequence" (c :: rest)
    else if c = '{' then found "map" (c :: rest)
    else .behind .noValue (c :: rest)

/-- Reads the name of a casing, its opening quote left behind. -/
def readCasingName (text : List Char) : Except Fault (Casing × List Char) :=
  match readString text with
  | .error e => .error e
  | .ok (name, rest) =>
    if name = Casing.legacy.name.toList then .ok (.legacy, rest)
    else if name = Casing.title.name.toList then .ok (.title, rest)
    else .error (.before (.unknownCasing (String.ofList name)) rest)

/-- Reads the null and the closing brace behind the colon of a casing that is the key of an object.
-/
def readUnitMember (casing : Casing) (text : List Char) : Except Fault (Casing × List Char) :=
  match skipBlanks text with
  | [] => .error (.behind .endInValue [])
  | c :: rest =>
    if c = 'n' then
      match keyword "ull".toList rest with
      | .error e => .error e
      | .ok rest =>
        match skipBlanks rest with
        | [] => .error (.before .endInObject [])
        | c :: rest =>
          if c = '}' then .ok (casing, rest) else .error (.before .noValue (c :: rest))
    else .error (wrongType "unit" (c :: rest))

/-- Reads a casing that is the key of an object, the opening brace left behind. -/
def readCasingKey (text : List Char) : Except Fault (Casing × List Char) :=
  match skipBlanks text with
  | [] => .error (.behind .endInObject [])
  | c :: rest =>
    if c = '"' then
      match readCasingName rest with
      | .error e => .error e
      | .ok (casing, rest) =>
        match readColon rest with
        | .error e => .error e
        | .ok rest => readUnitMember casing rest
    else if c = '}' then .error (.behind .noValue (c :: rest))
    else .error (.behind .keyNotString (c :: rest))

/-- Reads a casing. -/
def readCasing (text : List Char) : Except Fault (Casing × List Char) :=
  match skipBlanks text with
  | [] => .error (.behind .endInValue [])
  | c :: rest =>
    if c = '"' then readCasingName rest
    else if c = '{' then readCasingKey rest
    else .error (.behind .noValue (c :: rest))

/-- Reads true or false. -/
def readAnswer (text : List Char) : Except Fault (Bool × List Char) :=
  match skipBlanks text with
  | [] => .error (.behind .endInValue [])
  | c :: rest =>
    if c = 't' then (keyword "rue".toList rest).map fun rest => (true, rest)
    else if c = 'f' then (keyword "alse".toList rest).map fun rest => (false, rest)
    else .error (wrongType "a boolean" (c :: rest))

/-- The members of an object that have been read so far. -/
structure Found where
  casing : Option Casing := none
  normalizeOnLoad : Option Bool := none
  deriving DecidableEq, Repr

/-- The settings, the absent ones at their defaults. -/
def Found.settings (found : Found) : Settings where
  casing := found.casing.getD .legacy
  normalizeOnLoad := found.normalizeOnLoad.getD false

/-- The key of the casing in the text. -/
def casingField : String := "casing"

/-- The key of the other setting in the text. -/
def normalizeField : String := "normalize_on_load"

/-- The fault of a setting that occurs twice. Its place is found by looking for the end of the
object behind the second key. -/
def duplicateField (name : String) (text : List Char) : Fault :=
  match skipBlanks text with
  | '}' :: rest => .before (.duplicateField name) rest
  | rest => .before (.duplicateField name) rest

/-- Reads the value of the member with this key, the key left behind. -/
def readMember (found : Found) (key : String) (text : List Char) :
    Except Fault (Found × List Char) :=
  if key = casingField then
    if found.casing.isSome then .error (duplicateField key text)
    else
      match readColon text with
      | .error e => .error e
      | .ok rest =>
        (readCasing rest).map fun (casing, rest) => ({ found with casing := some casing }, rest)
  else if key = normalizeField then
    if found.normalizeOnLoad.isSome then .error (duplicateField key text)
    else
      match readColon text with
      | .error e => .error e
      | .ok rest =>
        (readAnswer rest).map fun (answer, rest) =>
          ({ found with normalizeOnLoad := some answer }, rest)
  else
    match readColon text with
    | .error e => .error e
    | .ok rest => (skipValue [] rest).map fun rest => (found, rest)

/-- Passes over the comma in front of a member that is not the first. -/
def skipComma (first : Bool) (text : List Char) : Except Fault (List Char) :=
  if first then .ok text
  else
    match text with
    | ',' :: rest =>
      match skipBlanks rest with
      | [] => .error (.behind .endInValue [])
      | '}' :: rest => .error (.behind .trailingComma ('}' :: rest))
      | rest => .ok rest
    | rest => .error (.behind .noCommaOrBrace rest)

/-- What is made of a result that was read leaves the text that the result leaves. -/
theorem length_of_wrap {α β : Type} {x : Except Fault (α × List Char)}
    {f : α × List Char → β × List Char} {b : β} {rest : List Char} {n : Nat}
    (h : x.map f = .ok (b, rest)) (hf : ∀ a left, (f (a, left)).2 = left)
    (hx : ∀ a left, x = .ok (a, left) → left.length ≤ n) : rest.length ≤ n := by
  cases x with
  | error e => simp [Except.map] at h
  | ok result =>
    obtain ⟨a, left⟩ := result
    simp only [Except.map, Except.ok.injEq] at h
    have hrest : rest = left := by
      have := hf a left
      rwa [h] at this
    exact hrest ▸ hx a left rfl

/-- A name of a casing that is read leaves no more text. -/
theorem length_of_readCasingName {text rest : List Char} {casing : Casing}
    (h : readCasingName text = .ok (casing, rest)) : rest.length ≤ text.length := by
  unfold readCasingName at h
  split at h
  · cases h
  · next hread =>
    have := length_of_readString hread
    split at h
    · cases h
      omega
    split at h
    · cases h
      omega
    · cases h

/-- A null with its closing brace leaves no more text. -/
theorem length_of_readUnitMember {text rest : List Char} {casing given : Casing}
    (h : readUnitMember given text = .ok (casing, rest)) : rest.length ≤ text.length := by
  unfold readUnitMember at h
  have hle := length_skipBlanks_le text
  split at h
  · cases h
  · next hblanks =>
    rw [hblanks, List.length_cons] at hle
    split at h
    · split at h
      · cases h
      · next left hkeyword =>
        have := length_of_keyword hkeyword
        have hle' := length_skipBlanks_le left
        split at h
        · cases h
        · next hblanks' =>
          rw [hblanks', List.length_cons] at hle'
          split at h
          · cases h
            omega
          · cases h
    · cases h

/-- A casing that is the key of an object leaves no more text. -/
theorem length_of_readCasingKey {text rest : List Char} {casing : Casing}
    (h : readCasingKey text = .ok (casing, rest)) : rest.length ≤ text.length := by
  unfold readCasingKey at h
  have hle := length_skipBlanks_le text
  split at h
  · cases h
  · next hblanks =>
    rw [hblanks, List.length_cons] at hle
    split at h
    · split at h
      · cases h
      · next hname =>
        have := length_of_readCasingName hname
        split at h
        · cases h
        · next hcolon =>
          have := length_of_readColon hcolon
          have := length_of_readUnitMember h
          omega
    split at h
    · cases h
    · cases h

/-- A casing that is read leaves no more text. -/
theorem length_of_readCasing {text rest : List Char} {casing : Casing}
    (h : readCasing text = .ok (casing, rest)) : rest.length ≤ text.length := by
  unfold readCasing at h
  have hle := length_skipBlanks_le text
  split at h
  · cases h
  · next hblanks =>
    rw [hblanks, List.length_cons] at hle
    split at h
    · have := length_of_readCasingName h
      omega
    split at h
    · have := length_of_readCasingKey h
      omega
    · cases h

/-- An answer that is read leaves no more text. -/
theorem length_of_readAnswer {text rest : List Char} {answer : Bool}
    (h : readAnswer text = .ok (answer, rest)) : rest.length ≤ text.length := by
  unfold readAnswer at h
  have hle := length_skipBlanks_le text
  have hword {letters tail : List Char} {given : Bool}
      (h : (keyword letters tail).map (fun rest => (given, rest)) = .ok (answer, rest)) :
      rest.length ≤ tail.length := by
    cases hkeyword : keyword letters tail with
    | error e => simp [hkeyword, Except.map] at h
    | ok left =>
      simp only [hkeyword, Except.map, Except.ok.injEq, Prod.mk.injEq] at h
      exact h.2 ▸ length_of_keyword hkeyword
  split at h
  · cases h
  · next hblanks =>
    rw [hblanks, List.length_cons] at hle
    split at h
    · exact Nat.le_trans (hword h) (by omega)
    split at h
    · exact Nat.le_trans (hword h) (by omega)
    · cases h

/-- The value of a member that is read leaves no more text. -/
theorem length_of_readMember {found result : Found} {key : String} {text rest : List Char}
    (h : readMember found key text = .ok (result, rest)) : rest.length ≤ text.length := by
  unfold readMember at h
  split at h
  · split at h
    · cases h
    split at h
    · cases h
    · next hcolon =>
      have := length_of_readColon hcolon
      exact length_of_wrap h (fun _ _ => rfl) fun _ _ hread => by
        have := length_of_readCasing hread
        omega
  split at h
  · split at h
    · cases h
    split at h
    · cases h
    · next hcolon =>
      have := length_of_readColon hcolon
      exact length_of_wrap h (fun _ _ => rfl) fun _ _ hread => by
        have := length_of_readAnswer hread
        omega
  · split at h
    · cases h
    · next left hcolon =>
      have := length_of_readColon hcolon
      cases hskip : skipValue [] left with
      | error e => simp [hskip, Except.map] at h
      | ok left' =>
        simp only [hskip, Except.map, Except.ok.injEq, Prod.mk.injEq] at h
        have := length_of_skipValue hskip
        have := h.2
        subst this
        omega

/-- A comma that is passed over leaves no more text. -/
theorem length_of_skipComma {first : Bool} {text rest : List Char}
    (h : skipComma first text = .ok rest) : rest.length ≤ text.length := by
  unfold skipComma at h
  split at h
  · cases h
    exact Nat.le_refl _
  · split at h
    · next tail =>
      have := length_skipBlanks_le tail
      split at h
      · cases h
      · cases h
      · cases h
        simp only [List.length_cons]
        omega
    · cases h

-- The equations of the matches are used only where the recursion is shown to end.
set_option linter.unusedVariables false in
/-- Reads the members of an object and its closing brace. `first` holds in front of the first. -/
def readMembers (found : Found) (first : Bool) (text : List Char) :
    Except Fault (Found × List Char) :=
  match hblanks : skipBlanks text with
  | [] => .error (.behind .endInObject [])
  | c :: rest =>
    if c = '}' then .ok (found, rest)
    else
      match hcomma : skipComma first (c :: rest) with
      | .error e => .error e
      | .ok [] => .error (.behind .endInValue [])
      | .ok (c :: rest) =>
        if c = '"' then
          match hkey : readString rest with
          | .error e => .error e
          | .ok (key, rest) =>
            match hmember : readMember found (String.ofList key) rest with
            | .error e => .error e
            | .ok (found, rest) => readMembers found false rest
        else .error (.behind .keyNotString (c :: rest))
termination_by text.length
decreasing_by
  have hle := length_skipBlanks_le text
  rw [hblanks] at hle
  have := length_of_skipComma hcomma
  have := length_of_readString hkey
  have := length_of_readMember hmember
  simp only [List.length_cons] at *
  omega

/-- Reads the closing bracket of an array behind its last value. -/
def readArrayEnd (text : List Char) : Except Fault (List Char) :=
  match skipBlanks text with
  | [] => .error (.behind .endInList [])
  | c :: rest =>
    if c = ']' then .ok rest
    else if c = ',' then
      match skipBlanks rest with
      | ']' :: rest => .error (.behind .trailingComma (']' :: rest))
      | rest => .error (.behind .trailingCharacters rest)
    else .error (.behind .trailingCharacters (c :: rest))

/-- Reads the second value of an array and its closing bracket. -/
def readSecondElement (casing : Casing) (text : List Char) : Except Fault (Settings × List Char) :=
  match skipBlanks text with
  | [] => .error (.behind .endInList [])
  | c :: rest =>
    if c = ']' then .ok ({ casing := casing }, rest)
    else if c = ',' then
      match skipBlanks rest with
      | [] => .error (.behind .endInValue [])
      | ']' :: rest => .error (.behind .trailingComma (']' :: rest))
      | rest =>
        match readAnswer rest with
        | .error e => .error e
        | .ok (answer, rest) =>
          (readArrayEnd rest).map fun rest => (⟨casing, answer⟩, rest)
    else .error (.behind .noCommaOrBracket (c :: rest))

/-- Reads the values of an array and its closing bracket. -/
def readElements (text : List Char) : Except Fault (Settings × List Char) :=
  match skipBlanks text with
  | [] => .error (.behind .endInList [])
  | c :: rest =>
    if c = ']' then .ok ({}, rest)
    else
      match readCasing (c :: rest) with
      | .error e => .error e
      | .ok (casing, rest) => readSecondElement casing rest

/-- Reads an object or an array of settings. -/
def readSettings (text : List Char) : Except Fault (Settings × List Char) :=
  match skipBlanks text with
  | [] => .error (.behind .endInValue [])
  | c :: rest =>
    if c = '{' then (readMembers {} true rest).map fun (found, rest) => (found.settings, rest)
    else if c = '[' then readElements rest
    else .error (wrongType "struct RosterConfig" (c :: rest))

/-- Reads a text that holds settings and nothing else. -/
def readWhole (text : List Char) : Except Fault Settings :=
  match readSettings text with
  | .error e => .error e
  | .ok (settings, rest) =>
    match skipBlanks rest with
    | [] => .ok settings
    | rest => .error (.behind .trailingCharacters rest)

/-- The settings that a JSON text holds. -/
def ofJson (text : String) : Except LocatedFault Settings :=
  match readWhole text.toList with
  | .ok settings => .ok settings
  | .error fault => .error (fault.locate text)

end StudentRoster.Settings
