import StudentRoster.Proofs.Casing.Characters
import StudentRoster.Proofs.Student.Kept

/-!
# Recased students on a line

A student that was read from a line is recased and written to a line again. No casing makes a blank
of a character that is none, but for the legacy casing, which moves the null character to the space
where a small letter is due (`isBlank_small_iff`). So the second line gives the recased student back
unless this happens in a name (`recased_line_reads_back_iff`). A blank at the end of a name leaves
five words on the line, and then it is the name that is not given back.
-/

set_option autoImplicit false

namespace StudentRoster

open Text

/-! ## Characters -/

/-- A character that comes to stand above the space in ASCII, if it moves at all, does not become a
blank. -/
theorem Text.isBlank_eq_false_of_moved {c d : Char} (h : isBlank c = false)
    (hcode : d.toNat = c.toNat ∨ 32 < d.toNat ∧ d.toNat < 128) : isBlank d = false := by
  rcases hcode with hsame | hmoved
  · rwa [Char.toNat_inj.mp hsame]
  · simp only [isBlank, Bool.or_eq_false_iff, Bool.and_eq_false_iff, decide_eq_false_iff_not,
      beq_eq_false_iff_ne]
    omega

namespace Casing

/-- No casing makes a blank in front. -/
theorem isBlank_capital (casing : Casing) {c : Char} (h : isBlank c = false) :
    isBlank (casing.capital c) = false := by
  apply isBlank_eq_false_of_moved h
  cases casing with
  | legacy =>
    rw [capital, toNat_shiftDown]
    split_ifs <;> omega
  | title =>
    rw [capital, toNat_toUpper]
    split_ifs <;> omega

/-- The one blank that comes of a character that is none is the space that the legacy casing makes
of the null character. -/
theorem isBlank_small_iff (casing : Casing) {c : Char} (h : isBlank c = false) :
    isBlank (casing.small c) = true ↔ casing = .legacy ∧ c = '\x00' := by
  constructor
  · intro hblank
    by_contra hother
    -- anything else that moves comes to stand above the space
    have hsmall : isBlank (casing.small c) = false := by
      apply isBlank_eq_false_of_moved h
      cases casing with
      | legacy =>
        have hpos : c.toNat ≠ 0 := fun hzero => hother ⟨rfl, Char.toNat_inj.mp hzero⟩
        rw [small, toNat_shiftUp]
        split_ifs <;> omega
      | title =>
        rw [small, toNat_toLower]
        split_ifs <;> omega
    rw [hsmall] at hblank
    cases hblank
  · rintro ⟨rfl, rfl⟩
    decide

/-! ## Texts -/

variable (casing : Casing)

/-- Small letters are no blanks exactly when no null character is moved to the space. -/
theorem isBlank_map_small_iff {text : List Char} (h : ∀ c ∈ text, isBlank c = false) :
    (∀ c ∈ text.map casing.small, isBlank c = false) ↔ casing = .title ∨ '\x00' ∉ text := by
  simp only [List.forall_mem_map, ← Bool.not_eq_true]
  constructor
  · intro hsmall
    cases casing with
    | title => exact .inl rfl
    | legacy =>
      right
      intro hnull
      exact hsmall _ hnull ((isBlank_small_iff .legacy (h _ hnull)).mpr ⟨rfl, rfl⟩)
  · intro hcasing c hc hblank
    obtain ⟨rfl, rfl⟩ := (casing.isBlank_small_iff (h c hc)).mp hblank
    rcases hcasing with htitle | hnull
    · cases htitle
    · exact hnull hc

/-- A recased name is a field unless the legacy casing meets a NUL in it. -/
theorem isField_fixName_iff {name : String} (h : IsField name.toList) :
    IsField (casing.fixName name).toList ↔ casing = .title ∨ '\x00' ∉ name.toList.tail := by
  rw [toList_fixName]
  cases hname : name.toList with
  | nil => exact absurd hname h.1
  | cons first later =>
    rw [hname] at h
    have hfirst : isBlank (casing.capital first) = false :=
      casing.isBlank_capital (h.2 first List.mem_cons_self)
    have hlater : ∀ c ∈ later, isBlank c = false :=
      fun c hc => h.2 c (List.mem_cons_of_mem first hc)
    rw [List.tail_cons, ← casing.isBlank_map_small_iff hlater, mapByPlace, Text.IsField,
      List.forall_mem_cons]
    exact ⟨fun hfield => hfield.2.2, fun hsmall => ⟨List.cons_ne_nil _ _, hfirst, hsmall⟩⟩

/-- A recased major is a field. -/
theorem isField_fixMajor {major : String} (h : IsField major.toList) :
    IsField (casing.fixMajor major).toList := by
  obtain ⟨hne, hblank⟩ := h
  rw [toList_fixMajor]
  refine ⟨by simpa using hne, ?_⟩
  intro c hc
  obtain ⟨d, hd, rfl⟩ := List.mem_map.mp hc
  exact casing.isBlank_capital (hblank d hd)

end Casing

/-! ## Students -/

namespace Student

/-- A recased student is well formed unless the legacy casing meets a NUL. -/
theorem isWellFormed_recase_iff (casing : Casing) {s : Student} (h : s.IsWellFormed) :
    (s.recase casing).IsWellFormed ↔
      casing = .title ∨ '\x00' ∉ s.firstName.toList.tail ∧ '\x00' ∉ s.lastName.toList.tail := by
  have hmajor : IsField (s.recase casing).major.toList := casing.isField_fixMajor h.major
  have hfirst := casing.isField_fixName_iff h.firstName
  have hlast := casing.isField_fixName_iff h.lastName
  constructor
  · intro hformed
    exact or_and_left.mpr ⟨hfirst.mp hformed.firstName, hlast.mp hformed.lastName⟩
  · intro hcasing
    have hnames := or_and_left.mp hcasing
    exact ⟨hfirst.mpr hnames.1, hlast.mpr hnames.2, hmajor⟩

/-- A student that was read from a line is read again from its line after a recasing, with the same
id, names and major, exactly when the casing is that of titles or neither name had a null character
behind its first character. -/
theorem recased_line_reads_back_iff {line : String} {s : Student} (hread : ofLine line = .ok s)
    (casing : Casing) :
    (∃ r, ofLine (s.recase casing).line = .ok r ∧ (s.recase casing).SameButGpa r) ↔
      casing = .title ∨ '\x00' ∉ s.firstName.toList.tail ∧ '\x00' ∉ s.lastName.toList.tail := by
  rw [exists_ofLine_line_iff]
  exact isWellFormed_recase_iff casing (isWellFormed_of_ofLine hread)

/-- A null character at the end of a name becomes a space, and the line still has five words. -/
theorem recased_line_reads_back_iff_null :
    let s : Student := ⟨7, "a\x00", "lee", .ofDecimal false 35 (-1), "cs"⟩
    ofLine "7 a\x00 lee 3.5 cs" = .ok s ∧
      (∃ r, ofLine (s.recase .title).line = .ok r ∧ (s.recase .title).SameButGpa r) ∧
      (ofLine (s.recase .legacy).line).isOk = true ∧
      ¬ ∃ r, ofLine (s.recase .legacy).line = .ok r ∧ (s.recase .legacy).SameButGpa r := by
  intro s
  have hread : ofLine "7 a\x00 lee 3.5 cs" = .ok s := by decide +kernel
  refine ⟨hread, ?_, by decide +kernel, ?_⟩
  · exact (recased_line_reads_back_iff hread .title).mpr (.inl rfl)
  · rw [recased_line_reads_back_iff hread .legacy]
    simp [s]

end Student

end StudentRoster
