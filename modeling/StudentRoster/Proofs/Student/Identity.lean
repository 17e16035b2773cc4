import Mathlib.Data.List.Forall2
import Mathlib.Data.String.Basic
import StudentRoster.Proofs.Casing.Characters

/-!
# What a recasing keeps

Both casings move the characters of ASCII among themselves and leave all others where they are. So
a text has the same shape after any recasing (`sameShape_of_forall₂`), and a student can be told by
what no recasing changes (`sameIdentity_recase`).
-/

set_option autoImplicit false

namespace StudentRoster

namespace Text

/-- Two characters are the same, or both of ASCII. -/
def AsciiAlike (c d : Char) : Prop :=
  c = d ∨ c.toNat < 128 ∧ d.toNat < 128

/-- A character of ASCII may become another one. -/
theorem asciiAlike_ofNat {c : Char} {code : Nat} (hc : c.toNat < 128) (hcode : code < 128) :
    AsciiAlike c (Char.ofNat code) := by
  refine .inr ⟨hc, ?_⟩
  rwa [toNat_ofNat_of_lt hcode]

/-- Such characters take as many bytes. -/
theorem AsciiAlike.utf8Size_eq {c d : Char} (h : AsciiAlike c d) : d.utf8Size = c.utf8Size := by
  have hone {e : Char} (he : e.toNat < 128) : e.utf8Size = 1 :=
    Char.utf8Size_eq_one_iff.mpr (UInt32.le_iff_toNat_le.mpr (Nat.le_of_lt_succ he))
  rcases h with rfl | ⟨hc, hd⟩
  · rfl
  · rw [hone hc, hone hd]

/-- Of two such characters, one that is not of ASCII is both. -/
theorem AsciiAlike.eq_iff {c d e : Char} (h : AsciiAlike c d) (he : 128 ≤ e.toNat) :
    d = e ↔ c = e := by
  rcases h with rfl | ⟨hc, hd⟩
  · rfl
  · constructor
    · rintro rfl
      omega
    · rintro rfl
      omega

/-- Two texts have as many characters and bytes, and every character that is not of ASCII at the
same places. -/
structure SameShape (text other : String) : Prop where
  length_eq : other.length = text.length
  utf8ByteSize_eq : other.utf8ByteSize = text.utf8ByteSize
  getElem?_eq_iff : ∀ (place : Nat) (c : Char), 128 ≤ c.toNat →
    (other.toList[place]? = some c ↔ text.toList[place]? = some c)

/-- A text has its own shape. -/
theorem SameShape.refl (text : String) : SameShape text text :=
  ⟨rfl, rfl, fun _ _ _ => Iff.rfl⟩

/-- Shapes may be compared through a third text. -/
theorem SameShape.trans {text middle other : String} (h : SameShape text middle)
    (h' : SameShape middle other) : SameShape text other where
  length_eq := h'.length_eq.trans h.length_eq
  utf8ByteSize_eq := h'.utf8ByteSize_eq.trans h.utf8ByteSize_eq
  getElem?_eq_iff place c hc :=
    (h'.getElem?_eq_iff place c hc).trans (h.getElem?_eq_iff place c hc)

/-- Texts whose characters are alike one by one take as many bytes. -/
theorem utf8Len_of_forall₂ {text other : List Char} (h : List.Forall₂ AsciiAlike text other) :
    String.utf8Len other = String.utf8Len text := by
  induction h with
  | nil => rfl
  | cons hhead _ ih => rw [String.utf8Len_cons, String.utf8Len_cons, ih, hhead.utf8Size_eq]

/-- Texts whose characters are alike one by one have the others at the same places. -/
theorem getElem?_of_forall₂ {text other : List Char} (h : List.Forall₂ AsciiAlike text other)
    {c : Char} (hc : 128 ≤ c.toNat) (place : Nat) :
    other[place]? = some c ↔ text[place]? = some c := by
  induction h generalizing place with
  | nil => simp
  | cons hhead _ ih =>
    cases place with
    | zero => simpa using hhead.eq_iff hc
    | succ place => simpa using ih place

/-- Texts whose characters are alike one by one have the same shape. -/
theorem sameShape_of_forall₂ {text other : List Char}
    (h : List.Forall₂ AsciiAlike text other) :
    SameShape (String.ofList text) (String.ofList other) where
  length_eq := by rw [String.length_ofList, String.length_ofList, h.length_eq]
  utf8ByteSize_eq := by
    rw [String.utf8ByteSize_ofList, String.utf8ByteSize_ofList, utf8Len_of_forall₂ h]
  getElem?_eq_iff place c hc := by
    rw [String.toList_ofList, String.toList_ofList]
    exact getElem?_of_forall₂ h hc place

end Text

open Text

/-! ## Casings -/

namespace Casing

/-- The legacy casing shifts characters of ASCII down. -/
theorem asciiAlike_shiftDown (c : Char) : AsciiAlike c (shiftDown c) := by
  unfold shiftDown
  split
  next h => exact asciiAlike_ofNat h.2 (by omega)
  · exact .inl rfl

/-- The legacy casing shifts characters of ASCII up. -/
theorem asciiAlike_shiftUp (c : Char) : AsciiAlike c (shiftUp c) := by
  unfold shiftUp
  split
  next h =>
    have hc : c.toNat < 90 := h
    exact asciiAlike_ofNat (by omega) (by omega)
  · exact .inl rfl

/-- Capital letters of ASCII are made of small ones. -/
theorem asciiAlike_toUpper (c : Char) : AsciiAlike c c.toUpper := by
  have hcode := toNat_toUpper c
  split at hcode
  · exact .inr (by omega)
  · exact .inl (Char.toNat_inj.mp hcode.symm)

/-- Small letters of ASCII are made of capital ones. -/
theorem asciiAlike_toLower (c : Char) : AsciiAlike c c.toLower := by
  have hcode := toNat_toLower c
  split at hcode
  · exact .inr (by omega)
  · exact .inl (Char.toNat_inj.mp hcode.symm)

/-- What stands in front becomes a character that is alike. -/
theorem asciiAlike_capital (casing : Casing) (c : Char) : AsciiAlike c (casing.capital c) := by
  cases casing with
  | legacy => exact asciiAlike_shiftDown c
  | title => exact asciiAlike_toUpper c

/-- What stands further behind becomes a character that is alike. -/
theorem asciiAlike_small (casing : Casing) (c : Char) : AsciiAlike c (casing.small c) := by
  cases casing with
  | legacy => exact asciiAlike_shiftUp c
  | title => exact asciiAlike_toLower c

/-- A recased major keeps its shape. -/
theorem sameShape_fixMajor (casing : Casing) (major : String) :
    SameShape major (casing.fixMajor major) := by
  have halike : List.Forall₂ AsciiAlike major.toList (major.toList.map casing.capital) :=
    List.forall₂_map_right_iff.mpr (List.forall₂_same.mpr fun c _ => casing.asciiAlike_capital c)
  simpa only [fixMajor, String.ofList_toList] using sameShape_of_forall₂ halike

/-- A recased name keeps its shape. -/
theorem sameShape_fixName (casing : Casing) (name : String) :
    SameShape name (casing.fixName name) := by
  have halike : List.Forall₂ AsciiAlike name.toList (casing.capitalize name.toList) := by
    cases name.toList with
    | nil => exact .nil
    | cons c rest =>
      exact .cons (casing.asciiAlike_capital c) (List.forall₂_map_right_iff.mpr
        (List.forall₂_same.mpr fun d _ => casing.asciiAlike_small d))
  simpa only [fixName, String.ofList_toList] using sameShape_of_forall₂ halike

end Casing

/-! ## Students -/

namespace Student

/-- Two students have the same id and average, and texts of the same shape. -/
structure SameIdentity (student other : Student) : Prop where
  id_eq : other.id = student.id
  gpa_eq : other.gpa = student.gpa
  firstName : SameShape student.firstName other.firstName
  lastName : SameShape student.lastName other.lastName
  major : SameShape student.major other.major

/-- A student has the own identity. -/
theorem SameIdentity.refl (student : Student) : student.SameIdentity student :=
  ⟨rfl, rfl, .refl _, .refl _, .refl _⟩

/-- Identities may be compared through a third student. -/
theorem SameIdentity.trans {student middle other : Student} (h : student.SameIdentity middle)
    (h' : middle.SameIdentity other) : student.SameIdentity other where
  id_eq := h'.id_eq.trans h.id_eq
  gpa_eq := h'.gpa_eq.trans h.gpa_eq
  firstName := h.firstName.trans h'.firstName
  lastName := h.lastName.trans h'.lastName
  major := h.major.trans h'.major

/-- A recased student is the same one. -/
theorem sameIdentity_recase (casing : Casing) (student : Student) :
    student.SameIdentity (student.recase casing) where
  id_eq := rfl
  gpa_eq := rfl
  firstName := casing.sameShape_fixName student.firstName
  lastName := casing.sameShape_fixName student.lastName
  major := casing.sameShape_fixMajor student.major

end Student

end StudentRoster
