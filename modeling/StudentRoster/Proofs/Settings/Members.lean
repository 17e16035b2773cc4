import StudentRoster.Proofs.Json.Grammar
import StudentRoster.Settings.Reader

/-!
# What the members of an object hold for the settings

`Found.Takes` relates what was found in front of members to what is found behind them. It asks that
each setting has one value at most, in all, and that this value denotes one of what the setting can
be; of the other members it asks that their keys denote texts. It says nothing of how members are
read, and holds of members one after the other exactly when it holds of all of them
(`takes_append`).
-/

set_option autoImplicit false

namespace StudentRoster.Settings

open Json

variable {value : Value} {members : List Member} {found result : Found} {key : String}

/-! ## What members hold -/

/-- A casing is its name, or an object with the name as its only key and with null. -/
inductive DenotesCasing : Value → Casing → Prop
  | name (casing : Casing) : DenotesCasing (.string (some casing.name)) casing
  | key (casing : Casing) : DenotesCasing (.object [(some casing.name, .null)]) casing

/-- An answer is a truth value and nothing else. -/
def DenotesAnswer (value : Value) (answer : Bool) : Prop :=
  value = .boolean answer

/-- An answer denotes itself. -/
theorem denotesAnswer_boolean (answer : Bool) : DenotesAnswer (.boolean answer) answer :=
  rfl

/-- The values of the members with a key, in the order in which they stand. -/
def valuesAt (key : String) (members : List Member) : List Value :=
  (members.filter fun member => member.1 == some key).map Prod.snd

/-- There is one value of a setting at most, with what was found before. -/
inductive Fills {α : Type} (denotes : Value → α → Prop) : Option α → List Value → Option α → Prop
  | none {found : Option α} : Fills denotes found [] found
  | some {value : Value} {a : α} (h : denotes value a) : Fills denotes none [value] (some a)

/-- What is found behind members. Their keys denote texts, and the two settings are filled. -/
structure Found.Takes (found : Found) (members : List Member) (result : Found) : Prop where
  isSome_key : ∀ member ∈ members, member.1.isSome = true
  casing : Fills DenotesCasing found.casing (valuesAt casingField members) result.casing
  normalizeOnLoad : Fills DenotesAnswer found.normalizeOnLoad (valuesAt normalizeField members)
    result.normalizeOnLoad

/-- A string denotes the casing whose name it is. -/
theorem denotesCasing_string_iff {decoded : Option String} {casing : Casing} :
    DenotesCasing (.string decoded) casing ↔ decoded = some casing.name := by
  constructor
  · intro h
    cases h
    rfl
  · rintro rfl
    exact .name casing

/-- An object denotes the casing that is its only key. -/
theorem denotesCasing_object_iff {casing : Casing} :
    DenotesCasing (.object members) casing ↔ members = [(some casing.name, .null)] := by
  constructor
  · intro h
    cases h
    rfl
  · rintro rfl
    exact .key casing

/-- The values at a key in two parts are those in each of them. -/
theorem valuesAt_append (key : String) (front back : List Member) :
    valuesAt key (front ++ back) = valuesAt key front ++ valuesAt key back := by
  rw [valuesAt, List.filter_append, List.map_append, valuesAt, valuesAt]

/-- A setting is filled by values in two parts when each part goes on from where the one before
ended. -/
theorem fills_append {α : Type} {denotes : Value → α → Prop} {before after : Option α}
    {front back : List Value} :
    Fills denotes before (front ++ back) after ↔
      ∃ middle, Fills denotes before front middle ∧ Fills denotes middle back after := by
  constructor
  · intro h
    generalize hall : front ++ back = all at h
    cases h with
    | none =>
      obtain ⟨rfl, rfl⟩ := List.append_eq_nil_iff.mp hall
      exact ⟨before, .none, .none⟩
    | some h =>
      rcases List.append_eq_singleton_iff.mp hall with ⟨rfl, rfl⟩ | ⟨rfl, rfl⟩
      · exact ⟨_, .none, .some h⟩
      · exact ⟨_, .some h, .none⟩
  · rintro ⟨middle, hfront, hback⟩
    cases hfront with
    | none => exact hback
    | some h =>
      cases hback with
      | none => exact .some h

/-- Nothing but the values of the two settings matters, and whether all keys denote texts. -/
theorem takes_congr {others : List Member} (hkeys : ∀ member ∈ members, member.1.isSome = true)
    (hkeys' : ∀ member ∈ others, member.1.isSome = true)
    (hcasing : valuesAt casingField members = valuesAt casingField others)
    (hnormalize : valuesAt normalizeField members = valuesAt normalizeField others) :
    found.Takes members result ↔ found.Takes others result := by
  constructor
  · rintro ⟨-, htakes, htakes'⟩
    exact ⟨hkeys', hcasing ▸ htakes, hnormalize ▸ htakes'⟩
  · rintro ⟨-, htakes, htakes'⟩
    exact ⟨hkeys, hcasing ▸ htakes, hnormalize ▸ htakes'⟩

/-- Members in two parts hold what each part adds to what was found before. -/
theorem takes_append {front back : List Member} :
    found.Takes (front ++ back) result ↔
      ∃ middle, found.Takes front middle ∧ Found.Takes middle back result := by
  constructor
  · rintro ⟨hkeys, hcasing, hnormalize⟩
    rw [valuesAt_append] at hcasing hnormalize
    obtain ⟨casing, hcasing, hcasing'⟩ := fills_append.mp hcasing
    obtain ⟨answer, hnormalize, hnormalize'⟩ := fills_append.mp hnormalize
    obtain ⟨hkeys, hkeys'⟩ := List.forall_mem_append.mp hkeys
    exact ⟨⟨casing, answer⟩, ⟨hkeys, hcasing, hnormalize⟩, ⟨hkeys', hcasing', hnormalize'⟩⟩
  · rintro ⟨middle, ⟨hkeys, hcasing, hnormalize⟩, ⟨hkeys', hcasing', hnormalize'⟩⟩
    refine ⟨List.forall_mem_append.mpr ⟨hkeys, hkeys'⟩, ?_, ?_⟩
    · rw [valuesAt_append]
      exact fills_append.mpr ⟨_, hcasing, hcasing'⟩
    · rw [valuesAt_append]
      exact fills_append.mpr ⟨_, hnormalize, hnormalize'⟩

/-- Members are taken one at a time. -/
theorem takes_cons_iff {member : Member} :
    found.Takes (member :: members) result ↔
      ∃ middle, found.Takes [member] middle ∧ Found.Takes middle members result := by
  rw [← takes_append, List.singleton_append]

/-- A member has its value at its own key. -/
theorem valuesAt_self (key : String) (value : Value) :
    valuesAt key [(some key, value)] = [value] := by
  simp [valuesAt]

/-- A member has no value at another key. -/
theorem valuesAt_of_ne {other : String} (h : other ≠ key) (value : Value) :
    valuesAt key [(some other, value)] = [] := by
  simp [valuesAt, h]

/-- Without a value a setting stays as it is. -/
theorem fills_nil_iff {α : Type} {denotes : Value → α → Prop} {before after : Option α} :
    Fills denotes before [] after ↔ after = before := by
  constructor
  · intro h
    cases h
    rfl
  · rintro rfl
    exact .none

/-- One value fills a setting that was not found before. -/
theorem fills_singleton_iff {α : Type} {denotes : Value → α → Prop} {before after : Option α} :
    Fills denotes before [value] after ↔
      before = none ∧ ∃ a, denotes value a ∧ after = some a := by
  constructor
  · intro h
    cases h with
    | some h => exact ⟨rfl, _, h, rfl⟩
  · rintro ⟨rfl, a, h, rfl⟩
    exact .some h

/-- No members add nothing to what was found. -/
theorem takes_nil_iff : found.Takes [] result ↔ result = found := by
  constructor
  · rintro ⟨-, hcasing, hnormalize⟩
    obtain ⟨casing, answer⟩ := result
    obtain rfl : casing = found.casing := fills_nil_iff.mp hcasing
    obtain rfl : answer = found.normalizeOnLoad := fills_nil_iff.mp hnormalize
    rfl
  · rintro rfl
    exact ⟨by simp, .none, .none⟩

/-- A setting that is filled has one value at most. -/
theorem Fills.length_le {α : Type} {denotes : Value → α → Prop} {before after : Option α}
    {values : List Value} (h : Fills denotes before values after) : values.length ≤ 1 := by
  cases h <;> simp

/-- The value of a setting that is filled denotes something. -/
theorem Fills.exists_denotes {α : Type} {denotes : Value → α → Prop} {before after : Option α}
    {values : List Value} (h : Fills denotes before values after) :
    ∀ value ∈ values, ∃ a, denotes value a := by
  intro value hvalue
  cases h with
  | none => cases hvalue
  | some h => exact ⟨_, List.mem_singleton.mp hvalue ▸ h⟩

/-- A setting is filled by what it is written as. -/
theorem fills_toList {α : Type} {denotes : Value → α → Prop} {written : α → Value}
    (h : ∀ a, denotes (written a) a) (setting : Option α) :
    Fills denotes none (setting.toList.map written) setting := by
  cases setting with
  | none => exact .none
  | some a => exact .some (h a)

/-- A member with the casing is taken if none was found before. -/
theorem takes_casing_iff :
    found.Takes [(some casingField, value)] result ↔
      found.casing = none ∧ ∃ casing, DenotesCasing value casing ∧
        result = { found with casing := some casing } := by
  have hne : casingField ≠ normalizeField := by decide
  constructor
  · rintro ⟨-, hcasing, hnormalize⟩
    rw [valuesAt_self] at hcasing
    rw [valuesAt_of_ne hne] at hnormalize
    obtain ⟨hnone, casing, hdenotes, hresult⟩ := fills_singleton_iff.mp hcasing
    refine ⟨hnone, casing, hdenotes, ?_⟩
    rw [← hresult, ← fills_nil_iff.mp hnormalize]
  · rintro ⟨hnone, casing, hdenotes, rfl⟩
    refine ⟨by simp, ?_, ?_⟩
    · rw [valuesAt_self]
      exact fills_singleton_iff.mpr ⟨hnone, casing, hdenotes, rfl⟩
    · rw [valuesAt_of_ne hne]
      exact .none

/-- A member with the answer is taken if none was found before. -/
theorem takes_normalize_iff :
    found.Takes [(some normalizeField, value)] result ↔
      found.normalizeOnLoad = none ∧ ∃ answer, DenotesAnswer value answer ∧
        result = { found with normalizeOnLoad := some answer } := by
  have hne : normalizeField ≠ casingField := by decide
  constructor
  · rintro ⟨-, hcasing, hnormalize⟩
    rw [valuesAt_of_ne hne] at hcasing
    rw [valuesAt_self] at hnormalize
    obtain ⟨hnone, answer, hdenotes, hresult⟩ := fills_singleton_iff.mp hnormalize
    refine ⟨hnone, answer, hdenotes, ?_⟩
    rw [← hresult, ← fills_nil_iff.mp hcasing]
  · rintro ⟨hnone, answer, hdenotes, rfl⟩
    refine ⟨by simp, ?_, ?_⟩
    · rw [valuesAt_of_ne hne]
      exact .none
    · rw [valuesAt_self]
      exact fills_singleton_iff.mpr ⟨hnone, answer, hdenotes, rfl⟩

/-- A member with another key adds nothing to what was found. -/
theorem takes_other_iff (hcasing : key ≠ casingField) (hnormalize : key ≠ normalizeField) :
    found.Takes [(some key, value)] result ↔ result = found := by
  rw [← takes_nil_iff]
  constructor
  · rintro ⟨-, hcasing', hnormalize'⟩
    rw [valuesAt_of_ne hcasing] at hcasing'
    rw [valuesAt_of_ne hnormalize] at hnormalize'
    exact ⟨by simp, hcasing', hnormalize'⟩
  · rintro ⟨-, hcasing', hnormalize'⟩
    refine ⟨by simp, ?_, ?_⟩
    · rwa [valuesAt_of_ne hcasing]
    · rwa [valuesAt_of_ne hnormalize]

end StudentRoster.Settings
