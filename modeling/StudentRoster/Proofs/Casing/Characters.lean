import Mathlib.Logic.Basic
import StudentRoster.Casing

/-!
# Recased characters and their places

What becomes of a character is said by its code (`toNat_shiftDown`, `toNat_shiftUp`,
`toNat_toUpper`, `toNat_toLower`), and which of the four applies by its place alone. So a question
about recased texts is a question about the first character and about each later one
(`mapByPlace_eq_iff`).
-/

set_option autoImplicit false

namespace StudentRoster

/-! ## Codes -/

namespace Text

/-- A valid code is that of its character. -/
theorem toNat_ofNat_of_isValidChar {code : Nat} (h : code.isValidChar) :
    (Char.ofNat code).toNat = code := by
  rw [Char.ofNat, dif_pos h]
  rfl

/-- A code of ASCII is that of its character. -/
theorem toNat_ofNat_of_lt {code : Nat} (h : code < 128) : (Char.ofNat code).toNat = code :=
  toNat_ofNat_of_isValidChar (.inl (by omega))

/-- The codes of the small letters of ASCII. -/
theorem isLower_iff {c : Char} : c.isLower = true ↔ 97 ≤ c.toNat ∧ c.toNat ≤ 122 := by
  show (decide ('a'.val ≤ c.val) && decide (c.val ≤ 'z'.val)) = true ↔ _
  rw [Bool.and_eq_true, decide_eq_true_eq, decide_eq_true_eq]
  exact Iff.rfl

/-- The codes of the capital letters of ASCII. -/
theorem isUpper_iff {c : Char} : c.isUpper = true ↔ 65 ≤ c.toNat ∧ c.toNat ≤ 90 := by
  show decide ('A'.val ≤ c.val ∧ c.val ≤ 'Z'.val) = true ↔ _
  rw [decide_eq_true_eq]
  exact Iff.rfl

/-- A small letter is made the capital one. -/
theorem toNat_toUpper (c : Char) :
    c.toUpper.toNat = if 97 ≤ c.toNat ∧ c.toNat ≤ 122 then c.toNat - 32 else c.toNat := by
  by_cases h : 97 ≤ c.toNat ∧ c.toNat ≤ 122
  · have hupper : c.toUpper = _ := dif_pos h
    have hdown : ('A'.val - 'a'.val).toNat = 2 ^ 32 - 32 := rfl
    have hbounds : 97 ≤ c.val.toNat ∧ c.val.toNat ≤ 122 := h
    rw [if_pos h, hupper]
    show (c.val + ('A'.val - 'a'.val)).toNat = c.val.toNat - 32
    rw [UInt32.toNat_add, hdown]
    omega
  · rw [if_neg h]
    exact congrArg Char.toNat (dif_neg h)

/-- Capital letters are made once. -/
theorem toUpper_toUpper (c : Char) : c.toUpper.toUpper = c.toUpper := by
  have hcode := toNat_toUpper c
  rw [← Char.toNat_inj, toNat_toUpper c.toUpper, if_neg]
  split at hcode <;> omega

/-- A capital letter is made the small one. -/
theorem toNat_toLower (c : Char) :
    c.toLower.toNat = if 65 ≤ c.toNat ∧ c.toNat ≤ 90 then c.toNat + 32 else c.toNat := by
  by_cases h : 65 ≤ c.toNat ∧ c.toNat ≤ 90
  · have hlower : c.toLower = _ := dif_pos h
    have hup : ('a'.val - 'A'.val).toNat = 32 := rfl
    have hbounds : 65 ≤ c.val.toNat ∧ c.val.toNat ≤ 90 := h
    rw [if_pos h, hlower]
    show (c.val + ('a'.val - 'A'.val)).toNat = c.val.toNat + 32
    rw [UInt32.toNat_add, hup]
    omega
  · rw [if_neg h]
    exact congrArg Char.toNat (dif_neg h)

/-- Small letters are made once. -/
theorem toLower_toLower (c : Char) : c.toLower.toLower = c.toLower := by
  have hcode := toNat_toLower c
  rw [← Char.toNat_inj, toNat_toLower c.toLower, if_neg]
  split at hcode <;> omega

end Text

open Text

namespace Casing

/-- What lies beyond the capital letters of ASCII is shifted down. -/
theorem toNat_shiftDown (c : Char) :
    (shiftDown c).toNat = if 90 < c.toNat ∧ c.toNat < 128 then c.toNat - 32 else c.toNat := by
  have hcode : ('Z' < c ∧ c.toNat < 128) ↔ 90 < c.toNat ∧ c.toNat < 128 := Iff.rfl
  rw [shiftDown, ← if_congr hcode rfl rfl]
  split
  · exact toNat_ofNat_of_lt (by omega)
  · rfl

/-- What lies in front of the last capital letter is shifted up. -/
theorem toNat_shiftUp (c : Char) :
    (shiftUp c).toNat = if c.toNat < 90 then c.toNat + 32 else c.toNat := by
  have hcode : c < 'Z' ↔ c.toNat < 90 := Iff.rfl
  rw [shiftUp, ← if_congr hcode rfl rfl]
  split
  next h => exact toNat_ofNat_of_lt (by have := hcode.mp h; omega)
  · rfl

end Casing

/-! ## Places -/

namespace Text

variable {first later first' later' : Char → Char}

/-- A text with its first character changed in one way and the others in another. -/
def mapByPlace (first later : Char → Char) : List Char → List Char
  | [] => []
  | c :: rest => first c :: rest.map later

/-- Two changes of a text agree when they agree at the first place and at the later ones. -/
theorem mapByPlace_eq_iff (text : List Char) :
    mapByPlace first later text = mapByPlace first' later' text ↔
      (∀ c ∈ text.head?, first c = first' c) ∧ ∀ c ∈ text.tail, later c = later' c := by
  cases text with
  | nil => simp [mapByPlace]
  | cons c rest => simp [mapByPlace, List.map_inj_left]

/-- Two changes one after the other are one change. -/
theorem mapByPlace_mapByPlace (text : List Char) :
    mapByPlace first later (mapByPlace first' later' text) =
      mapByPlace (first ∘ first') (later ∘ later') text := by
  cases text with
  | nil => rfl
  | cons c rest => rw [mapByPlace, mapByPlace, mapByPlace, List.map_map, Function.comp_apply]

/-- Where no character is changed the text is not. -/
theorem mapByPlace_id (text : List Char) : mapByPlace id id text = text := by
  cases text with
  | nil => rfl
  | cons c rest => rw [mapByPlace, List.map_id, id_eq]

end Text

namespace Casing

variable (casing : Casing)

/-- A casing changes a text by place. -/
theorem capitalize_eq (text : List Char) :
    casing.capitalize text = mapByPlace casing.capital casing.small text := by
  cases text <;> rfl

/-- The characters of a recased name. -/
theorem toList_fixName (name : String) :
    (casing.fixName name).toList = mapByPlace casing.capital casing.small name.toList := by
  rw [fixName, String.toList_ofList, capitalize_eq]

/-- The characters of a recased major. -/
theorem toList_fixMajor (major : String) :
    (casing.fixMajor major).toList = major.toList.map casing.capital := by
  rw [fixMajor, String.toList_ofList]

end Casing

end StudentRoster
