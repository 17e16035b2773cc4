import Mathlib.Logic.Function.Iterate
import Mathlib.Tactic.SplitIfs
import StudentRoster.Proofs.Casing.Characters
import StudentRoster.Proofs.Roster.LookUp

/-!
# Recasing again and again

Of each character it can be told how many passes still move it, and a pass takes one from that
number (`countsDown_capital`, `countsDown_small`). So two numbers of passes over a text give the
same exactly when they differ only in passes that move no character of it, and so on for students
and rosters (`iterate_fixName_eq_iff`, `Roster.iterate_recase_eq_iff`). The title casing moves a
character once. The legacy casing moves one down up to twice and one up to three times, so that it
settles after three passes (`recase_settles`).
-/

set_option autoImplicit false

namespace StudentRoster

open Text

/-! ## Passes that are left -/

/-- Each pass of a change takes one from the passes that are left, and without any nothing moves. -/
structure CountsDown {α : Type} (change : α → α) (left : α → Nat) : Prop where
  left_change : ∀ a, left (change a) = left a - 1
  eq_of_left_eq_zero : ∀ a, left a = 0 → change a = a

namespace CountsDown

variable {α : Type} {change : α → α} {left : α → Nat}

/-- After some passes there are as many fewer left. -/
theorem left_iterate (h : CountsDown change left) (passes : Nat) (a : α) :
    left (change^[passes] a) = left a - passes := by
  induction passes with
  | zero => rfl
  | succ passes ih => rw [Function.iterate_succ_apply', h.left_change, ih, Nat.sub_sub]

/-- Passes beyond those that are left move nothing. -/
theorem iterate_min (h : CountsDown change left) (passes : Nat) (a : α) :
    change^[min passes (left a)] a = change^[passes] a := by
  by_cases hle : passes ≤ left a
  · rw [Nat.min_eq_left hle]
  · -- the passes that are left come first, and where they lead nothing moves any more
    have hsplit : passes = (passes - left a) + left a := by omega
    have hfixed : change (change^[left a] a) = change^[left a] a := by
      apply h.eq_of_left_eq_zero
      rw [h.left_iterate, Nat.sub_self]
    rw [Nat.min_eq_right (by omega), hsplit, Function.iterate_add_apply]
    exact (Function.iterate_fixed hfixed _).symm

/-- Two numbers of passes come to the same exactly when they differ only beyond the passes that are
left. -/
theorem iterate_eq_iff (h : CountsDown change left) (m n : Nat) (a : α) :
    change^[m] a = change^[n] a ↔ min m (left a) = min n (left a) := by
  constructor
  · intro heq
    have hleft := congrArg left heq
    rw [h.left_iterate, h.left_iterate] at hleft
    omega
  · intro heq
    rw [← h.iterate_min m, ← h.iterate_min n, heq]

end CountsDown

/-- A change that has nothing to do a second time has one pass left where it moves anything. -/
theorem countsDown_of_idempotent {α : Type} [DecidableEq α] {change : α → α}
    (h : ∀ a, change (change a) = change a) :
    CountsDown change fun a => if change a = a then 0 else 1 := by
  refine ⟨fun a => ?_, fun a hleft => ?_⟩
  · rw [if_pos (h a)]
    split_ifs <;> rfl
  · by_contra hmoved
    rw [if_neg hmoved] at hleft
    cases hleft

/-! ## Characters -/

namespace Casing

/-- The number of passes that move a character where a capital is due. In the legacy casing each
takes 32 off its code until it has left the codes from 91 to 127. -/
def capitalPasses : Casing → Char → Nat
  | .legacy, c => if c.toNat < 128 then (c.toNat - 59) / 32 else 0
  | .title, c => if c.toUpper = c then 0 else 1

/-- The number of passes that move a character where a small letter is due. In the legacy casing
each adds 32 to its code until it has left the codes below 90. -/
def smallPasses : Casing → Char → Nat
  | .legacy, c => (121 - c.toNat) / 32
  | .title, c => if c.toLower = c then 0 else 1

/-- A pass takes one from what a character in front has left. -/
theorem countsDown_capital (casing : Casing) :
    CountsDown casing.capital casing.capitalPasses := by
  cases casing with
  | legacy =>
    refine ⟨fun c => ?_, fun c hleft => ?_⟩
    · simp only [capital, capitalPasses, toNat_shiftDown]
      split_ifs <;> omega
    · simp only [capitalPasses] at hleft
      rw [capital, ← Char.toNat_inj, toNat_shiftDown]
      split_ifs at hleft ⊢ <;> omega
  | title => exact countsDown_of_idempotent toUpper_toUpper

/-- A pass takes one from what a character further behind has left. -/
theorem countsDown_small (casing : Casing) : CountsDown casing.small casing.smallPasses := by
  cases casing with
  | legacy =>
    refine ⟨fun c => ?_, fun c hleft => ?_⟩
    · simp only [small, smallPasses, toNat_shiftUp]
      split_ifs <;> omega
    · simp only [smallPasses] at hleft
      rw [small, ← Char.toNat_inj, toNat_shiftUp]
      split_ifs <;> omega
  | title => exact countsDown_of_idempotent toLower_toLower

/-- No character is moved more often than this. -/
def maxPasses : Casing → Nat
  | .legacy => 3
  | .title => 1

/-- A character in front is moved at most so often. -/
theorem capitalPasses_le (casing : Casing) (c : Char) :
    casing.capitalPasses c ≤ casing.maxPasses := by
  cases casing <;> simp only [capitalPasses, maxPasses] <;> split_ifs <;> omega

/-- A character further behind is moved at most so often. -/
theorem smallPasses_le (casing : Casing) (c : Char) : casing.smallPasses c ≤ casing.maxPasses := by
  cases casing with
  | legacy =>
    simp only [smallPasses, maxPasses]
    omega
  | title =>
    simp only [smallPasses, maxPasses]
    split_ifs <;> omega

/-! ## Texts -/

section texts

variable (casing : Casing) (m n : Nat)

/-- Passes over a name are passes over its characters, by their places. -/
theorem toList_iterate_fixName (passes : Nat) (name : String) :
    (casing.fixName^[passes] name).toList =
      mapByPlace casing.capital^[passes] casing.small^[passes] name.toList := by
  induction passes with
  | zero => exact (mapByPlace_id _).symm
  | succ passes ih =>
    rw [Function.iterate_succ_apply', toList_fixName, ih, mapByPlace_mapByPlace,
      ← Function.iterate_succ', ← Function.iterate_succ']

/-- Passes over a major are passes over its characters. -/
theorem toList_iterate_fixMajor (passes : Nat) (major : String) :
    (casing.fixMajor^[passes] major).toList = major.toList.map casing.capital^[passes] := by
  induction passes with
  | zero => exact (List.map_id _).symm
  | succ passes ih =>
    rw [Function.iterate_succ_apply', toList_fixMajor, ih, List.map_map, ← Function.iterate_succ']

/-- Two numbers of passes come to the same name exactly when they do for each character of it. -/
theorem iterate_fixName_eq_iff (name : String) :
    casing.fixName^[m] name = casing.fixName^[n] name ↔
      (∀ c ∈ name.toList.head?, min m (casing.capitalPasses c) = min n (casing.capitalPasses c)) ∧
        ∀ c ∈ name.toList.tail, min m (casing.smallPasses c) = min n (casing.smallPasses c) := by
  rw [← String.toList_inj, toList_iterate_fixName, toList_iterate_fixName, mapByPlace_eq_iff]
  apply and_congr
  · exact forall₂_congr fun c _ => casing.countsDown_capital.iterate_eq_iff m n c
  · exact forall₂_congr fun c _ => casing.countsDown_small.iterate_eq_iff m n c

/-- Two numbers of passes come to the same major exactly when they do for each character of it. -/
theorem iterate_fixMajor_eq_iff (major : String) :
    casing.fixMajor^[m] major = casing.fixMajor^[n] major ↔
      ∀ c ∈ major.toList, min m (casing.capitalPasses c) = min n (casing.capitalPasses c) := by
  rw [← String.toList_inj, toList_iterate_fixMajor, toList_iterate_fixMajor, List.map_inj_left]
  exact forall₂_congr fun c _ => casing.countsDown_capital.iterate_eq_iff m n c

end texts

/-- A character of ASCII behind `z`: two passes bring it below the capitals. -/
def IsBehindSmall (c : Char) : Prop := 'z' < c ∧ c ≤ '\x7f'

/-- A name that a second pass of the legacy casing changes. -/
def NameMovesTwice (name : String) : Prop :=
  (∃ c ∈ name.toList.head?, IsBehindSmall c) ∨ ∃ c ∈ name.toList.tail, c < ':'

/-- A major that a second pass of the legacy casing changes. -/
def MajorMovesTwice (major : String) : Prop := ∃ c ∈ major.toList, IsBehindSmall c

/-- In front a second pass moves exactly the characters behind the small letters. -/
theorem min_capitalPasses_eq_iff (c : Char) :
    min 2 (legacy.capitalPasses c) = min 1 (legacy.capitalPasses c) ↔ ¬ IsBehindSmall c := by
  have hcode : IsBehindSmall c ↔ 122 < c.toNat ∧ c.toNat ≤ 127 := Iff.rfl
  rw [hcode, capitalPasses]
  split <;> omega

/-- Further behind a second pass moves exactly the characters below the colon. -/
theorem min_smallPasses_eq_iff (c : Char) :
    min 2 (legacy.smallPasses c) = min 1 (legacy.smallPasses c) ↔ ¬ c < ':' := by
  have hcode : c < ':' ↔ c.toNat < 58 := Iff.rfl
  rw [hcode, smallPasses]
  omega

/-- A second pass leaves a name alone unless one of its characters moves twice. -/
theorem iterate_two_fixName_iff (name : String) :
    legacy.fixName^[2] name = legacy.fixName^[1] name ↔ ¬ NameMovesTwice name := by
  rw [iterate_fixName_eq_iff, NameMovesTwice, not_or]
  simp only [min_capitalPasses_eq_iff, min_smallPasses_eq_iff, not_exists, not_and]

/-- A second pass leaves a major alone unless one of its characters moves twice. -/
theorem iterate_two_fixMajor_iff (major : String) :
    legacy.fixMajor^[2] major = legacy.fixMajor^[1] major ↔ ¬ MajorMovesTwice major := by
  rw [iterate_fixMajor_eq_iff, MajorMovesTwice]
  simp only [min_capitalPasses_eq_iff, not_exists, not_and]

end Casing

/-! ## Students and rosters -/

/-- Passes over a student are passes over the names and the major. -/
theorem Student.iterate_recase (casing : Casing) (passes : Nat) (s : Student) :
    (recase casing)^[passes] s =
      { s with
        firstName := casing.fixName^[passes] s.firstName
        lastName := casing.fixName^[passes] s.lastName
        major := casing.fixMajor^[passes] s.major } := by
  induction passes with
  | zero => rfl
  | succ passes ih =>
    rw [Function.iterate_succ_apply', ih, recase, Function.iterate_succ_apply',
      Function.iterate_succ_apply', Function.iterate_succ_apply']

/-- Two numbers of passes come to the same student exactly when they do for the names and the major.
-/
theorem Student.iterate_recase_eq_iff (casing : Casing) (m n : Nat) (s : Student) :
    (recase casing)^[m] s = (recase casing)^[n] s ↔
      casing.fixName^[m] s.firstName = casing.fixName^[n] s.firstName ∧
        casing.fixName^[m] s.lastName = casing.fixName^[n] s.lastName ∧
        casing.fixMajor^[m] s.major = casing.fixMajor^[n] s.major := by
  rw [iterate_recase, iterate_recase]
  simp

namespace Roster

/-- A roster is known by its students. -/
theorem students_inj {roster other : Roster} :
    roster.students = other.students ↔ roster = other := by
  constructor
  · intro h
    have harrivals : roster.arrivals = other.arrivals := by
      rw [arrivals_eq, h, ← arrivals_eq]
    cases roster
    cases other
    exact congrArg Roster.mk harrivals
  · rintro rfl
    rfl

variable (roster : Roster) (casing : Casing)

/-- Passes over a roster are passes over each student. -/
theorem students_iterate_recase (passes : Nat) :
    ((recase · casing)^[passes] roster).students =
      roster.students.map (Student.recase casing)^[passes] := by
  induction passes with
  | zero => exact (List.map_id _).symm
  | succ passes ih =>
    rw [Function.iterate_succ_apply', students_recase, ih, List.map_map, ← Function.iterate_succ']

/-- Two numbers of passes over a roster come to the same exactly when they do for every student. -/
theorem iterate_recase_eq_iff (m n : Nat) :
    (recase · casing)^[m] roster = (recase · casing)^[n] roster ↔
      ∀ s ∈ roster.students, (Student.recase casing)^[m] s = (Student.recase casing)^[n] s := by
  rw [← students_inj, students_iterate_recase, students_iterate_recase, List.map_inj_left]

/-- Passes beyond those that move some character change nothing in a roster. -/
theorem iterate_recase_eq_of_le {m n : Nat} (hm : casing.maxPasses ≤ m)
    (hn : casing.maxPasses ≤ n) :
    (recase · casing)^[m] roster = (recase · casing)^[n] roster := by
  have hcapital (c : Char) : min m (casing.capitalPasses c) = min n (casing.capitalPasses c) := by
    have hle := casing.capitalPasses_le c
    omega
  have hsmall (c : Char) : min m (casing.smallPasses c) = min n (casing.smallPasses c) := by
    have hle := casing.smallPasses_le c
    omega
  apply (iterate_recase_eq_iff roster casing m n).mpr
  intro s _
  apply (s.iterate_recase_eq_iff casing m n).mpr
  refine ⟨?_, ?_, ?_⟩
  · exact (casing.iterate_fixName_eq_iff m n _).mpr ⟨fun c _ => hcapital c, fun c _ => hsmall c⟩
  · exact (casing.iterate_fixName_eq_iff m n _).mpr ⟨fun c _ => hcapital c, fun c _ => hsmall c⟩
  · exact (casing.iterate_fixMajor_eq_iff m n _).mpr fun c _ => hcapital c

/-- The title casing leaves a roster alone that it has recased once. The legacy casing leaves one
alone that it has recased three times, and changes one that it has recased once exactly when there
was a name with a first character behind `z` or with a later one below the colon, or a major with a
character behind `z`. -/
theorem recase_settles :
    (roster.recase .title).recase .title = roster.recase .title ∧
    (∀ more, (recase · .legacy)^[3 + more] roster =
      ((roster.recase .legacy).recase .legacy).recase .legacy) ∧
    ((roster.recase .legacy).recase .legacy ≠ roster.recase .legacy ↔
      ∃ s ∈ roster.students, Casing.NameMovesTwice s.firstName ∨
        Casing.NameMovesTwice s.lastName ∨ Casing.MajorMovesTwice s.major) := by
  refine ⟨?_, fun more => ?_, ?_⟩
  · show (recase · .title)^[2] roster = (recase · .title)^[1] roster
    exact roster.iterate_recase_eq_of_le .title (by decide) (by decide)
  · show (recase · .legacy)^[3 + more] roster = (recase · .legacy)^[3] roster
    exact roster.iterate_recase_eq_of_le .legacy (Nat.le_add_right 3 more) (by decide)
  · have hsecond : (roster.recase .legacy).recase .legacy = roster.recase .legacy ↔
        ∀ s ∈ roster.students, ¬ Casing.NameMovesTwice s.firstName ∧
          ¬ Casing.NameMovesTwice s.lastName ∧ ¬ Casing.MajorMovesTwice s.major := by
      refine (roster.iterate_recase_eq_iff .legacy 2 1).trans (forall₂_congr fun s _ => ?_)
      rw [Student.iterate_recase_eq_iff, Casing.iterate_two_fixName_iff,
        Casing.iterate_two_fixName_iff, Casing.iterate_two_fixMajor_iff]
    -- a roster changes when one of its students does
    rw [ne_eq, hsecond]
    simp only [← not_or, not_forall, not_not, exists_prop]

end Roster

end StudentRoster
