import Mathlib.Data.List.Forall2
import StudentRoster.Proofs.Casing.Characters

/-!
# Texts that differ in letter case only

The title casing gives two texts the same form exactly when they differ at most in the case of
letters of ASCII (`title_fixName_eq_iff`, `map_title_capital_eq_iff`): it makes no other two
characters alike, and it makes the two forms of a letter alike wherever they stand.
-/

set_option autoImplicit false

namespace StudentRoster

namespace Text

/-- The same character, or the two forms of one letter of ASCII. -/
def SameLetter (c d : Char) : Prop :=
  c = d ∨ c.isUpper = true ∧ d.toNat = c.toNat + 32 ∨ d.isUpper = true ∧ c.toNat = d.toNat + 32

instance : DecidableRel SameLetter := fun c d =>
  inferInstanceAs (Decidable (c = d ∨ c.isUpper = true ∧ d.toNat = c.toNat + 32 ∨
    d.isUpper = true ∧ c.toNat = d.toNat + 32))

/-- Two texts are the same but for the case of letters of ASCII. -/
def SameLetters (text other : List Char) : Prop := List.Forall₂ SameLetter text other

instance : DecidableRel SameLetters := fun text other =>
  inferInstanceAs (Decidable (List.Forall₂ SameLetter text other))

/-- By their codes, two forms of a letter lie 32 apart. -/
theorem sameLetter_iff {c d : Char} : SameLetter c d ↔
    c.toNat = d.toNat ∨ (65 ≤ c.toNat ∧ c.toNat ≤ 90) ∧ d.toNat = c.toNat + 32 ∨
      (65 ≤ d.toNat ∧ d.toNat ≤ 90) ∧ c.toNat = d.toNat + 32 := by
  rw [SameLetter, isUpper_iff, isUpper_iff, Char.toNat_inj]

/-- Characters have the same capital exactly when they are forms of one letter. -/
theorem toUpper_eq_toUpper_iff {c d : Char} : c.toUpper = d.toUpper ↔ SameLetter c d := by
  rw [← Char.toNat_inj, toNat_toUpper, toNat_toUpper, sameLetter_iff]
  split_ifs <;> omega

/-- Characters have the same small form exactly when they are forms of one letter. -/
theorem toLower_eq_toLower_iff {c d : Char} : c.toLower = d.toLower ↔ SameLetter c d := by
  rw [← Char.toNat_inj, toNat_toLower, toNat_toLower, sameLetter_iff]
  split_ifs <;> omega

/-- A change that makes nothing alike but the two forms of a letter tells texts apart up to case. -/
theorem map_eq_map_iff {change : Char → Char}
    (h : ∀ {c d : Char}, change c = change d ↔ SameLetter c d) (text other : List Char) :
    text.map change = other.map change ↔ SameLetters text other := by
  rw [← List.forall₂_eq_eq_eq, List.forall₂_map_left_iff, List.forall₂_map_right_iff]
  simp only [h, SameLetters]

end Text

open Text

namespace Casing

/-- Texts have the same capitals exactly when they have the same letters. -/
theorem map_title_capital_eq_iff (text other : List Char) :
    text.map title.capital = other.map title.capital ↔ SameLetters text other :=
  map_eq_map_iff toUpper_eq_toUpper_iff text other

/-- Names are recased to the same title exactly when they have the same letters. -/
theorem title_fixName_eq_iff (name other : String) :
    title.fixName name = title.fixName other ↔ SameLetters name.toList other.toList := by
  rw [← String.toList_inj, toList_fixName, toList_fixName]
  cases name.toList with
  | nil =>
    cases other.toList with
    | nil => simp [SameLetters]
    | cons d rest => simp [mapByPlace, SameLetters]
  | cons c rest =>
    cases other.toList with
    | nil => simp [mapByPlace, SameLetters]
    | cons d others =>
      have hfirst : title.capital c = title.capital d ↔ SameLetter c d := toUpper_eq_toUpper_iff
      have hlater : rest.map title.small = others.map title.small ↔ SameLetters rest others :=
        map_eq_map_iff toLower_eq_toLower_iff rest others
      rw [mapByPlace, mapByPlace, List.cons.injEq, hfirst, hlater, SameLetters, SameLetters,
        List.forall₂_cons]

end Casing

end StudentRoster
