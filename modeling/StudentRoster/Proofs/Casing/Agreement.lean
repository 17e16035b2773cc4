import Mathlib.Data.List.Forall2
import StudentRoster.Proofs.Casing.Characters
import StudentRoster.Roster

/-!
# Where the two casings agree

The legacy casing takes every character of ASCII above `Z` for a small letter and every character
below `Z` for a capital, and the title casing goes by the letters. So they part at the signs above
`Z` where a capital is due, and at `Z` and at everything below `A` where a small letter is due; all
other characters they treat alike (`casings_agree_iff`).
-/

set_option autoImplicit false

namespace StudentRoster

open Text

/-- A character of ASCII above `Z` that is no small letter. -/
def Text.IsHighSign (c : Char) : Prop := 'Z' < c ∧ c < 'a' ∨ 'z' < c ∧ c ≤ '\x7f'

/-- By their codes, the high signs lie on both sides of the small letters. -/
theorem Text.isHighSign_iff {c : Char} :
    IsHighSign c ↔ 90 < c.toNat ∧ c.toNat < 97 ∨ 122 < c.toNat ∧ c.toNat ≤ 127 :=
  Iff.rfl

/-! ## Texts -/

namespace Casing

/-- In front the casings part exactly at the high signs. -/
theorem shiftDown_eq_toUpper_iff (c : Char) : shiftDown c = c.toUpper ↔ ¬ IsHighSign c := by
  rw [← Char.toNat_inj, toNat_shiftDown, toNat_toUpper, isHighSign_iff]
  split <;> split <;> omega

/-- Further behind they part exactly below the capitals and at the last of them. -/
theorem shiftUp_eq_toLower_iff (c : Char) : shiftUp c = c.toLower ↔ 'A' ≤ c ∧ c ≠ 'Z' := by
  have hbounds : ('A' ≤ c ∧ c ≠ 'Z') ↔ 65 ≤ c.toNat ∧ c.toNat ≠ 90 :=
    and_congr Iff.rfl (not_congr Char.toNat_inj.symm)
  rw [hbounds, ← Char.toNat_inj, toNat_shiftUp, toNat_toLower]
  split <;> split <;> omega

/-- A name that both casings treat alike: no sign above `Z` comes first, and behind the first
character there is no `Z` and nothing below `A`. -/
structure IsPlainName (name : String) : Prop where
  first : ∀ c ∈ name.toList.head?, ¬ IsHighSign c
  later : ∀ c ∈ name.toList.tail, 'A' ≤ c ∧ c ≠ 'Z'

/-- A major that both casings treat alike: there is no sign above `Z` in it. -/
def IsPlainMajor (major : String) : Prop := ∀ c ∈ major.toList, ¬ IsHighSign c

/-- The casings agree on a name exactly when it is plain. -/
theorem fixName_agrees_iff (name : String) :
    legacy.fixName name = title.fixName name ↔ IsPlainName name := by
  rw [← String.toList_inj, toList_fixName, toList_fixName, mapByPlace_eq_iff]
  constructor
  · rintro ⟨hfirst, hlater⟩
    exact ⟨fun c hc => (shiftDown_eq_toUpper_iff c).mp (hfirst c hc),
      fun c hc => (shiftUp_eq_toLower_iff c).mp (hlater c hc)⟩
  · rintro ⟨hfirst, hlater⟩
    exact ⟨fun c hc => (shiftDown_eq_toUpper_iff c).mpr (hfirst c hc),
      fun c hc => (shiftUp_eq_toLower_iff c).mpr (hlater c hc)⟩

/-- The casings agree on a major exactly when it is plain. -/
theorem fixMajor_agrees_iff (major : String) :
    legacy.fixMajor major = title.fixMajor major ↔ IsPlainMajor major := by
  rw [← String.toList_inj, toList_fixMajor, toList_fixMajor, List.map_inj_left]
  exact forall₂_congr fun c _ => shiftDown_eq_toUpper_iff c

end Casing

/-! ## Students and rosters -/

/-- Two casings agree on a student exactly when they agree on the names and on the major. -/
theorem Student.recase_eq_recase_iff (casing other : Casing) (s : Student) :
    s.recase casing = s.recase other ↔
      casing.fixName s.firstName = other.fixName s.firstName ∧
        casing.fixName s.lastName = other.fixName s.lastName ∧
        casing.fixMajor s.major = other.fixMajor s.major := by
  simp [Student.recase]

/-- Students with the same average, if it is a number, are the same exactly when they are equal. -/
theorem Student.sameAs_iff_eq {s t : Student} (hgpa : s.gpa = t.gpa)
    (hnumber : s.gpa.isNaN = false) :
    s.sameAs t = true ↔ s = t := by
  constructor
  · intro h
    simp only [sameAs, Bool.and_eq_true, beq_iff_eq] at h
    obtain ⟨⟨⟨⟨hid, hfirst⟩, hlast⟩, -⟩, hmajor⟩ := h
    cases s
    cases t
    simp_all
  · rintro rfl
    rw [sameAs_self, hnumber, Bool.not_false]

namespace Roster

/-- Two rosters are the same exactly when their students are, one by one. -/
theorem sameAs_iff_forall₂ {roster other : Roster} :
    roster.sameAs other = true ↔
      List.Forall₂ (fun s t => s.sameAs t = true) roster.arrivals.toList other.arrivals.toList := by
  rw [sameAs, ← Array.isEqv_toList]
  generalize roster.arrivals.toList = students, other.arrivals.toList = others
  induction students generalizing others with
  | nil => cases others <;> simp [List.isEqv]
  | cons student rest ih =>
    cases others with
    | nil => simp [List.isEqv]
    | cons t others => simp [List.isEqv, ih]

/-- Where all averages are numbers, two recasings of a roster are the same exactly when they agree
on every student. -/
theorem sameAs_recase_iff {roster : Roster} (casing other : Casing)
    (hnumber : ∀ s ∈ roster.students, s.gpa.isNaN = false) :
    (roster.recase casing).sameAs (roster.recase other) = true ↔
      ∀ s ∈ roster.students, s.recase casing = s.recase other := by
  have hsame (s : Student) (hs : s ∈ roster.students) :
      (s.recase casing).sameAs (s.recase other) = true ↔ s.recase casing = s.recase other :=
    Student.sameAs_iff_eq rfl (hnumber s hs)
  have hmem (s : Student) : s ∈ roster.arrivals.toList ↔ s ∈ roster.students :=
    List.mem_reverse.symm
  rw [sameAs_iff_forall₂, recase, recase, Array.toList_map, Array.toList_map,
    List.forall₂_map_left_iff, List.forall₂_map_right_iff, List.forall₂_same]
  constructor
  · intro h s hs
    exact (hsame s hs).mp (h s ((hmem s).mpr hs))
  · intro h s hs
    exact (hsame s ((hmem s).mp hs)).mpr (h s ((hmem s).mp hs))

/-- The legacy and the title casing agree on a name exactly when no sign above `Z` comes first in it
and nothing below `A` and no `Z` later, and on a major exactly when there is no sign above `Z` in
it. So a roster whose averages are numbers comes out the same in both casings exactly when all its
names and majors are of this kind. -/
theorem casings_agree_iff (roster : Roster) :
    (∀ name, Casing.legacy.fixName name = Casing.title.fixName name ↔ Casing.IsPlainName name) ∧
    (∀ major, Casing.legacy.fixMajor major = Casing.title.fixMajor major ↔
      Casing.IsPlainMajor major) ∧
    ((∀ s ∈ roster.students, s.gpa.isNaN = false) →
      ((roster.recase .legacy).sameAs (roster.recase .title) = true ↔
        ∀ s ∈ roster.students, Casing.IsPlainName s.firstName ∧ Casing.IsPlainName s.lastName ∧
          Casing.IsPlainMajor s.major)) := by
  refine ⟨Casing.fixName_agrees_iff, Casing.fixMajor_agrees_iff, fun hnumber => ?_⟩
  rw [sameAs_recase_iff .legacy .title hnumber]
  apply forall₂_congr
  intro s _
  rw [Student.recase_eq_recase_iff, Casing.fixName_agrees_iff, Casing.fixName_agrees_iff,
    Casing.fixMajor_agrees_iff]

/-- The name Zoë comes out the same, and the hyphen of Day-Lewis does not. -/
theorem casings_agree_iff_hyphen :
    let zoe : Student := ⟨1, "zoë", "LEE", .ofDecimal false 35 (-1), "csc"⟩
    let daniel : Student := ⟨2, "daniel", "day-lewis", .ofDecimal false 3 0, "bio"⟩
    (∀ s ∈ (ofList [zoe]).students, s.gpa.isNaN = false) ∧
      ((ofList [zoe]).recase .legacy).sameAs ((ofList [zoe]).recase .title) = true ∧
      (∀ s ∈ (ofList [zoe, daniel]).students, s.gpa.isNaN = false) ∧
      ((ofList [zoe, daniel]).recase .legacy).sameAs
        ((ofList [zoe, daniel]).recase .title) ≠ true := by
  intro zoe daniel
  have hone : ∀ s ∈ (ofList [zoe]).students, s.gpa.isNaN = false := by decide
  have hboth : ∀ s ∈ (ofList [zoe, daniel]).students, s.gpa.isNaN = false := by decide
  refine ⟨hone, ?_, hboth, ?_⟩
  · apply ((casings_agree_iff (ofList [zoe])).2.2 hone).mpr
    intro s hs
    obtain rfl : s = zoe := by simpa using hs
    refine ⟨⟨?_, ?_⟩, ⟨?_, ?_⟩, ?_⟩ <;> simp [zoe, IsHighSign, Casing.IsPlainMajor]
  · intro hsame
    have hplain := ((casings_agree_iff (ofList [zoe, daniel])).2.2 hboth).mp hsame daniel (by simp)
    have hhyphen := hplain.2.1.later '-' (by simp [daniel])
    exact absurd hhyphen.1 (by decide)

end Roster

end StudentRoster
