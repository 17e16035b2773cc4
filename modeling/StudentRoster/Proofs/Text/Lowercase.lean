import StudentRoster.Proofs.Casing.Letters
import StudentRoster.Text.Lowercase

/-!
# Lower case within ASCII

The lower case of a text of ASCII is made letter by letter. A character beyond ASCII brings at least
one character beyond ASCII into the lower case of a text, with one exception: the sign for kelvin
becomes a small k. So a word of small letters without k and of digits is the lower case of nothing
but its own spellings in other letter case (`lowercase_eq_iff`).
-/

set_option autoImplicit false

namespace StudentRoster.Text

/-! ## Single characters -/

/-- A run of capitals beyond ASCII leads to characters beyond ASCII, or from the sign for kelvin to
a small k. -/
def CapitalRun.StaysBeyond (run : CapitalRun) : Prop :=
  128 ≤ run.first ∧
    (128 ≤ run.first + run.shift ∧ run.last + run.shift < 0xD800 ∨
      0xE000 ≤ run.first + run.shift ∧ run.last + run.shift < 0x110000 ∨
      run.first = run.last ∧ run.first + run.shift = 'k'.toNat)

instance (run : CapitalRun) : Decidable run.StaysBeyond :=
  inferInstanceAs (Decidable (_ ∧ _))

/-- The capitals of ASCII are the first run, and the others begin beyond. -/
theorem capitalRuns_eq : ∃ rest, capitalRuns = ⟨65, 90, 1, 32⟩ :: rest ∧
    ∀ run ∈ rest, run.StaysBeyond :=
  ⟨capitalRuns.tail, rfl, by decide +kernel⟩

/-- A character of ASCII has one small form, also of ASCII. -/
theorem lowerChar_of_lt {c : Char} (h : c.toNat < 128) : lowerChar c = [c.toLower] := by
  obtain ⟨rest, hruns, hrest⟩ := capitalRuns_eq
  have hdotted : c ≠ 'İ' := by
    rintro rfl
    exact absurd h (by decide)
  have hnone : rest.find? (·.contains c.toNat) = none := by
    rw [List.find?_eq_none]
    intro run hrun hcontains
    have hfirst := (hrest run hrun).1
    simp only [CapitalRun.contains, Bool.and_eq_true, decide_eq_true_eq] at hcontains
    omega
  rw [lowerChar, if_neg hdotted, hruns, List.find?_cons, hnone]
  by_cases hupper : 65 ≤ c.toNat ∧ c.toNat ≤ 90
  · have hcontains : CapitalRun.contains ⟨65, 90, 1, 32⟩ c.toNat = true := by
      simp [CapitalRun.contains, hupper, Nat.mod_one]
    rw [hcontains]
    have hcode : ((c.toNat : Int) + 32).toNat = c.toNat + 32 := by omega
    simp only [hcode]
    congr 1
    rw [← Char.toNat_inj, toNat_toLower, if_pos hupper]
    exact toNat_ofNat_of_lt (by omega)
  · have hcontains : CapitalRun.contains ⟨65, 90, 1, 32⟩ c.toNat = false := by
      simp only [CapitalRun.contains, Bool.and_eq_false_iff, decide_eq_false_iff_not]
      omega
    have hsame : c.toLower = c := by
      rw [← Char.toNat_inj, toNat_toLower, if_neg hupper]
    rw [hcontains, hsame]

/-- A character that occurs in no word of ASCII without a small k. -/
def IsForeign (c : Char) : Prop := 128 ≤ c.toNat ∨ c = 'k'

/-- A character beyond ASCII does not become a plain one. -/
theorem exists_isForeign_lowerChar {c : Char} (h : 128 ≤ c.toNat) :
    ∃ d ∈ lowerChar c, IsForeign d := by
  obtain ⟨rest, hruns, hrest⟩ := capitalRuns_eq
  rw [lowerChar]
  split
  · exact ⟨'\u0307', by decide, .inl (by decide)⟩
  split
  next run hfind =>
    have hcontains := List.find?_some hfind
    have hmem := List.mem_of_find?_eq_some hfind
    simp only [CapitalRun.contains, Bool.and_eq_true, decide_eq_true_eq] at hcontains
    rw [hruns, List.mem_cons] at hmem
    rcases hmem with rfl | hmem
    · exact absurd hcontains.1.2 (by simp only; omega)
    refine ⟨_, List.mem_singleton_self _, ?_⟩
    rcases (hrest run hmem).2 with hlow | hhigh | hkelvin
    · left
      rw [toNat_ofNat_of_isValidChar (.inl (by omega))]
      omega
    · left
      rw [toNat_ofNat_of_isValidChar (.inr (by omega))]
      omega
    · right
      have hcode : ((c.toNat : Int) + run.shift).toNat = 'k'.toNat := by omega
      rw [hcode, Char.ofNat_toNat]
  next => exact ⟨c, List.mem_singleton_self c, .inl h⟩

/-! ## Texts -/

/-- Texts of ASCII are put in small letters character by character. -/
theorem lowercaseAfter_of_lt {text : List Char} (h : ∀ c ∈ text, c.toNat < 128)
    (before : List Char) : lowercaseAfter before text = text.map Char.toLower := by
  induction text generalizing before with
  | nil => rfl
  | cons c rest ih =>
    have hc : c.toNat < 128 := h c List.mem_cons_self
    have hsigma : c ≠ 'Σ' := by
      rintro rfl
      exact absurd hc (by decide)
    rw [lowercaseAfter, if_neg hsigma, lowerChar_of_lt hc,
      ih (fun d hd => h d (List.mem_cons_of_mem c hd)), List.map_cons, List.singleton_append]

/-- In small letters, too, a text shows that a character of it is beyond ASCII. -/
theorem exists_isForeign_lowercaseAfter {text : List Char} {c : Char} (hc : c ∈ text)
    (h : 128 ≤ c.toNat) (before : List Char) :
    ∃ d ∈ lowercaseAfter before text, IsForeign d := by
  induction text generalizing before with
  | nil => cases hc
  | cons first rest ih =>
    rw [lowercaseAfter]
    rcases List.mem_cons.mp hc with rfl | hrest
    · split
      · refine ⟨_, List.mem_append_left _ (List.mem_singleton_self _), .inl ?_⟩
        rw [lowerSigma]
        split <;> decide
      · obtain ⟨d, hd, hforeign⟩ := exists_isForeign_lowerChar h
        exact ⟨d, List.mem_append_left _ hd, hforeign⟩
    · obtain ⟨d, hd, hforeign⟩ := ih hrest (first :: before)
      exact ⟨d, List.mem_append_right _ hd, hforeign⟩

/-- A word of small letters and digits of ASCII without k. -/
def IsPlain (word : List Char) : Prop :=
  ∀ d ∈ word, (d.isLower = true ∨ d.isDigit = true) ∧ d ≠ 'k'

instance (word : List Char) : Decidable (IsPlain word) :=
  List.decidableBAll _ word

/-- By its code, a character of a plain word is a small letter or a digit. -/
theorem IsPlain.code {word : List Char} (h : IsPlain word) {d : Char} (hd : d ∈ word) :
    97 ≤ d.toNat ∧ d.toNat ≤ 122 ∨ 48 ≤ d.toNat ∧ d.toNat ≤ 57 :=
  (h d hd).1.imp isLower_iff.mp Char.isDigit_iff_toNat.mp

/-- A plain word is the lower case of exactly its spellings in any letter case. -/
theorem lowercase_eq_iff {text word : List Char} (hword : IsPlain word) :
    lowercase text = word ↔ SameLetters text word := by
  have hsmall : word.map Char.toLower = word := by
    refine (List.map_congr_left fun d hd => ?_).trans (List.map_id' word)
    have hcode := hword.code hd
    rw [← Char.toNat_inj, toNat_toLower, if_neg (by omega)]
  rw [← map_eq_map_iff toLower_eq_toLower_iff, hsmall]
  by_cases hascii : ∀ c ∈ text, c.toNat < 128
  · rw [lowercase, lowercaseAfter_of_lt hascii]
  · simp only [not_forall, Nat.not_lt] at hascii
    obtain ⟨c, hc, hbeyond⟩ := hascii
    refine iff_of_false (fun heq => ?_) (fun heq => ?_)
    · obtain ⟨d, hd, hforeign⟩ := exists_isForeign_lowercaseAfter hc hbeyond []
      rw [← lowercase, heq] at hd
      rcases hforeign with hlarge | rfl
      · have hcode := hword.code hd
        omega
      · exact (hword 'k' hd).2 rfl
    · have hcode := hword.code (heq ▸ List.mem_map_of_mem hc : c.toLower ∈ word)
      rw [toNat_toLower, if_neg (by omega)] at hcode
      omega

end StudentRoster.Text
