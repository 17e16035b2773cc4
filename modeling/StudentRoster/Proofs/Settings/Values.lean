import StudentRoster.Proofs.Roster.Actions
import StudentRoster.Proofs.Text.Lowercase
import StudentRoster.Proofs.Text.Words
import StudentRoster.Settings

/-!
# The values of settings

Which values a setting takes, and what it shows then, is a small grammar (`Settings.Takes`): a word
in any letter case of ASCII, with blanks around it. The comparison by lower case lets nothing else
in. Setting and showing are inverse to each other, and settings that were changed again and again,
with success or without, show for each key what was last taken for it (`set_and_get_agree`).
-/

set_option autoImplicit false

namespace StudentRoster

open Text

/-! ## Words with blanks around them -/

/-- A value reads as a word that stands between blanks in any letter case. -/
def ReadsAs (value word : String) : Prop :=
  ∃ front core back, value.toList = front ++ (core ++ back) ∧ (∀ c ∈ front, isBlank c = true) ∧
    (∀ c ∈ back, isBlank c = true) ∧ SameLetters core word.toList

/-- No character from the digits to the small letters is a blank. -/
theorem isBlank_eq_false_of_code {c : Char} (h : 48 ≤ c.toNat ∧ c.toNat ≤ 122) :
    isBlank c = false := by
  simp only [isBlank, Bool.or_eq_false_iff, Bool.and_eq_false_iff, decide_eq_false_iff_not,
    beq_eq_false_iff_ne]
  omega

/-- No blank is a form of a letter or a digit. -/
theorem isBlank_eq_false_of_sameLetters {text word : List Char} (hword : IsPlain word)
    (h : SameLetters text word) : ∀ c ∈ text, isBlank c = false := by
  obtain ⟨hlength, hsame⟩ := List.forall₂_iff_get.mp h
  intro c hc
  obtain ⟨place, hplace, rfl⟩ := List.mem_iff_getElem.mp hc
  have hletter := sameLetter_iff.mp (hsame place hplace (hlength ▸ hplace))
  have hcode := hword.code (List.get_mem word ⟨place, hlength ▸ hplace⟩)
  simp only [List.get_eq_getElem] at hletter hcode
  exact isBlank_eq_false_of_code (by omega)

/-- Values that are compared as the same plain word read as it. -/
theorem foldValue_eq_iff {value word : String} (hword : IsPlain word.toList) :
    foldValue value = word ↔ ReadsAs value word := by
  have htrim : foldValue value = word ↔ SameLetters (trim value.toList) word.toList := by
    rw [foldValue, ← String.toList_inj, String.toList_ofList]
    exact lowercase_eq_iff hword
  rw [htrim]
  constructor
  · intro h
    obtain ⟨front, back, hvalue, hfront, hback⟩ := exists_trim value.toList
    exact ⟨front, _, back, hvalue, hfront, hback, h⟩
  · rintro ⟨front, core, back, hvalue, hfront, hback, h⟩
    rwa [hvalue, trim_of_blanks hfront hback (isBlank_eq_false_of_sameLetters hword h)]

/-! ## What is taken -/

namespace Settings

/-- Under a key a value is taken, and the key then shows a text. -/
inductive Takes : String → String → String → Prop
  | legacy {value : String} (h : ReadsAs value "legacy") : Takes "casing" value "legacy"
  | title {value : String} (h : ReadsAs value "title") : Takes "casing" value "title"
  | yes {value word : String} (hword : word ∈ ["true", "yes", "on", "1"]) (h : ReadsAs value word) :
    Takes "normalize-on-load" value "true"
  | no {value word : String} (hword : word ∈ ["false", "no", "off", "0"]) (h : ReadsAs value word) :
    Takes "normalize-on-load" value "false"

end Settings

/-- A text names the casing as whose name it reads. -/
theorem Casing.ofText_eq_ok_iff {text : String} {casing : Casing} :
    Casing.ofText text = .ok casing ↔ ReadsAs text casing.name := by
  have hplain : IsPlain casing.name.toList := by
    cases casing <;> decide
  rw [← foldValue_eq_iff hplain, Casing.ofText]
  split
  next h =>
    rw [h]
    cases casing <;> decide
  split
  next h =>
    rw [h]
    cases casing <;> decide
  next hlegacy htitle => cases casing <;> simpa

/-- The texts of an answer. -/
def answerTexts (answer : Bool) : List String := if answer then yesTexts else noTexts

/-- A value reads as one of the texts of an answer when it is compared as one. -/
theorem exists_readsAs_iff {value : String} {answer : Bool} :
    (∃ word ∈ answerTexts answer, ReadsAs value word) ↔ foldValue value ∈ answerTexts answer := by
  have hplain : ∀ word ∈ answerTexts answer, IsPlain word.toList := by
    cases answer <;> decide
  constructor
  · rintro ⟨word, hword, h⟩
    rwa [(foldValue_eq_iff (hplain word hword)).mpr h]
  · intro h
    exact ⟨_, h, (foldValue_eq_iff (hplain _ h)).mp rfl⟩

/-- A text gives the answer as one of whose texts it reads. -/
theorem answerOfText_eq_ok_iff {text : String} {answer : Bool} :
    answerOfText text = .ok answer ↔ ∃ word ∈ answerTexts answer, ReadsAs text word := by
  have hapart : ∀ word ∈ yesTexts, word ∉ noTexts := by
    decide
  rw [exists_readsAs_iff, answerOfText]
  simp only [List.contains_iff_mem]
  split
  next hyes => cases answer <;> simp [answerTexts, hyes, hapart _ hyes]
  split
  next hyes hno => cases answer <;> simp [answerTexts, hyes, hno]
  next hyes hno => cases answer <;> simp [answerTexts, hyes, hno]

/-- A setting is found by its key alone. -/
theorem Setting.ofKey?_eq_some_iff {key : String} {setting : Setting} :
    ofKey? key = some setting ↔ setting.key = key := by
  constructor
  · intro h
    simpa using List.find?_some h
  · rintro rfl
    exact ofKey?_key setting

/-- Different settings have different keys. -/
theorem Setting.key_injective {setting other : Setting} (h : setting.key = other.key) :
    setting = other :=
  Option.some.inj ((ofKey?_key setting).symm.trans (ofKey?_eq_some_iff.mpr h.symm))

namespace Settings

variable {settings changed : Settings} {setting : Setting} {key value shown : String}

/-- The casing is set to the one as whose name the value reads. -/
theorem set_casing_eq_ok_iff : settings.set .casing value = (changed, .ok ()) ↔
    ∃ casing : Casing, ReadsAs value casing.name ∧
      changed = { settings with casing := casing } := by
  simp only [← Casing.ofText_eq_ok_iff, set]
  cases Casing.ofText value <;> simp [eq_comm]

/-- The second setting is set to the answer as one of whose texts the value reads. -/
theorem set_normalizeOnLoad_eq_ok_iff :
    settings.set .normalizeOnLoad value = (changed, .ok ()) ↔
    ∃ answer, (∃ word ∈ answerTexts answer, ReadsAs value word) ∧
      changed = { settings with normalizeOnLoad := answer } := by
  simp only [← answerOfText_eq_ok_iff, set]
  cases answerOfText value <;> simp [eq_comm]

/-- A fault leaves the settings as they were. -/
theorem eq_of_set_eq_error {fault : SettingFault}
    (h : settings.set setting value = (changed, .error fault)) : changed = settings := by
  cases setting with
  | casing =>
    simp only [set] at h
    split at h
    · cases (Prod.mk.inj h).2
    · exact (Prod.mk.inj h).1.symm
  | normalizeOnLoad =>
    simp only [set] at h
    split at h
    · cases (Prod.mk.inj h).2
    · exact (Prod.mk.inj h).1.symm

/-- A key is set when the setting of this key is. -/
theorem setKey_eq_ok_iff : settings.setKey key value = (changed, .ok ()) ↔
    ∃ setting : Setting, setting.key = key ∧ settings.set setting value = (changed, .ok ()) := by
  simp only [setKey, ← Setting.ofKey?_eq_some_iff]
  cases Setting.ofKey? key <;> simp

/-- A key shows what the setting of this key does. -/
theorem getKey?_eq_some_iff : settings.getKey? key = some shown ↔
    ∃ setting : Setting, setting.key = key ∧ settings.get setting = shown := by
  simp only [getKey?, ← Setting.ofKey?_eq_some_iff]
  cases Setting.ofKey? key <;> simp

/-! ## Setting and showing -/

/-- A setting takes exactly the values of the grammar, and shows what this says. -/
theorem exists_set_get_iff :
    (∃ changed, settings.set setting value = (changed, .ok ()) ∧ changed.get setting = shown) ↔
      Takes setting.key value shown := by
  cases setting with
  | casing =>
    simp only [set_casing_eq_ok_iff]
    constructor
    · rintro ⟨_, ⟨casing, hvalue, rfl⟩, rfl⟩
      cases casing with
      | legacy => exact .legacy hvalue
      | title => exact .title hvalue
    · generalize hkey : Setting.casing.key = key
      rintro (h | h | _ | _)
      · exact ⟨_, ⟨.legacy, h, rfl⟩, rfl⟩
      · exact ⟨_, ⟨.title, h, rfl⟩, rfl⟩
      · exact absurd hkey (by decide)
      · exact absurd hkey (by decide)
  | normalizeOnLoad =>
    simp only [set_normalizeOnLoad_eq_ok_iff]
    constructor
    · rintro ⟨_, ⟨answer, ⟨word, hword, hvalue⟩, rfl⟩, rfl⟩
      cases answer with
      | true => exact .yes hword hvalue
      | false => exact .no hword hvalue
    · generalize hkey : Setting.normalizeOnLoad.key = key
      rintro (_ | _ | ⟨hword, h⟩ | ⟨hword, h⟩)
      · exact absurd hkey (by decide)
      · exact absurd hkey (by decide)
      · exact ⟨_, ⟨true, ⟨_, hword, h⟩, rfl⟩, rfl⟩
      · exact ⟨_, ⟨false, ⟨_, hword, h⟩, rfl⟩, rfl⟩

/-- Setting one of the settings leaves the other as it is. -/
theorem get_of_set_of_ne {other : Setting} (h : settings.set setting value = (changed, .ok ()))
    (hother : other ≠ setting) : changed.get other = settings.get other := by
  cases setting with
  | casing =>
    obtain ⟨casing, -, rfl⟩ := set_casing_eq_ok_iff.mp h
    cases other with
    | casing => exact absurd rfl hother
    | normalizeOnLoad => rfl
  | normalizeOnLoad =>
    obtain ⟨answer, -, rfl⟩ := set_normalizeOnLoad_eq_ok_iff.mp h
    cases other with
    | casing => rfl
    | normalizeOnLoad => exact absurd rfl hother

/-- A word reads as itself. -/
theorem readsAs_self (word : String) : ReadsAs word word :=
  ⟨[], word.toList, [], by simp, by simp, by simp, List.forall₂_same.mpr fun _ _ => .inl rfl⟩

/-- The text that a setting shows is a value that it takes and that changes nothing. -/
theorem get_set_get (settings : Settings) (setting : Setting) :
    settings.set setting (settings.get setting) = (settings, .ok ()) := by
  cases setting with
  | casing => exact set_casing_eq_ok_iff.mpr ⟨settings.casing, readsAs_self _, rfl⟩
  | normalizeOnLoad =>
    refine set_normalizeOnLoad_eq_ok_iff.mpr
      ⟨settings.normalizeOnLoad, ⟨_, ?_, readsAs_self _⟩, rfl⟩
    rw [get]
    cases settings.normalizeOnLoad <;> decide

/-! ## Keys -/

/-- What takes a value is the key of a setting. -/
theorem Takes.exists_setting (h : Takes key value shown) :
    ∃ setting : Setting, setting.key = key := by
  cases h with
  | legacy => exact ⟨.casing, rfl⟩
  | title => exact ⟨.casing, rfl⟩
  | yes => exact ⟨.normalizeOnLoad, rfl⟩
  | no => exact ⟨.normalizeOnLoad, rfl⟩

/-- No other key can be set. -/
theorem setKey_of_unknown (hcasing : key ≠ "casing") (hnormalize : key ≠ "normalize-on-load") :
    settings.setKey key value = (settings, .error (.unknownKey key)) := by
  have hnone : Setting.ofKey? key = none := by
    rw [Option.eq_none_iff_forall_ne_some]
    intro setting hsetting
    have hkey := Setting.ofKey?_eq_some_iff.mp hsetting
    cases setting with
    | casing => exact hcasing hkey.symm
    | normalizeOnLoad => exact hnormalize hkey.symm
  rw [setKey, hnone]

/-- A key takes exactly the values of the grammar, and shows what this says. -/
theorem exists_setKey_getKey?_iff :
    (∃ changed, settings.setKey key value = (changed, .ok ()) ∧
      changed.getKey? key = some shown) ↔
      Takes key value shown := by
  simp only [setKey_eq_ok_iff, getKey?_eq_some_iff]
  constructor
  · rintro ⟨changed, ⟨setting, rfl, hset⟩, ⟨other, hother, hget⟩⟩
    obtain rfl : other = setting := Setting.key_injective hother
    exact exists_set_get_iff.mp ⟨changed, hset, hget⟩
  · intro h
    obtain ⟨setting, rfl⟩ := h.exists_setting
    obtain ⟨changed, hset, hget⟩ :
        ∃ changed, settings.set setting value = (changed, .ok ()) ∧
          changed.get setting = shown :=
      exists_set_get_iff.mpr h
    exact ⟨changed, ⟨setting, rfl, hset⟩, ⟨setting, rfl, hget⟩⟩

/-- A key can be set to exactly the values of the grammar. -/
theorem exists_setKey_iff :
    (∃ changed, settings.setKey key value = (changed, .ok ())) ↔
      ∃ shown, Takes key value shown := by
  constructor
  · rintro ⟨changed, hchanged⟩
    obtain ⟨setting, hkey, -⟩ := setKey_eq_ok_iff.mp hchanged
    have hget : changed.getKey? key = some (changed.get setting) :=
      getKey?_eq_some_iff.mpr ⟨setting, hkey, rfl⟩
    exact ⟨_, exists_setKey_getKey?_iff.mp ⟨changed, hchanged, hget⟩⟩
  · rintro ⟨shown, h⟩
    obtain ⟨changed, hchanged, -⟩ :
        ∃ changed, settings.setKey key value = (changed, .ok ()) ∧
          changed.getKey? key = some shown :=
      exists_setKey_getKey?_iff.mpr h
    exact ⟨changed, hchanged⟩

/-- Setting a key leaves what other keys show as it is. -/
theorem getKey?_of_setKey_of_ne {other : String}
    (h : settings.setKey key value = (changed, .ok ()))
    (hother : other ≠ key) : changed.getKey? other = settings.getKey? other := by
  obtain ⟨setting, rfl, hset⟩ := setKey_eq_ok_iff.mp h
  simp only [getKey?]
  cases hfound : Setting.ofKey? other with
  | none => rfl
  | some asked =>
    have hkey := Setting.ofKey?_eq_some_iff.mp hfound
    have hne : asked ≠ setting := by
      rintro rfl
      exact hother hkey.symm
    rw [Option.map_some, Option.map_some, get_of_set_of_ne hset hne]

/-- A key can be set to the text that it shows, and nothing changes. -/
theorem setKey_getKey? (h : settings.getKey? key = some shown) :
    settings.setKey key shown = (settings, .ok ()) := by
  obtain ⟨setting, rfl, rfl⟩ := getKey?_eq_some_iff.mp h
  exact setKey_eq_ok_iff.mpr ⟨setting, rfl, settings.get_set_get setting⟩

/-- A fault leaves the settings as they were, whatever the key. -/
theorem eq_of_setKey_eq_error {fault : SettingFault}
    (h : settings.setKey key value = (changed, .error fault)) : changed = settings := by
  unfold setKey at h
  split at h
  · exact eq_of_set_eq_error h
  · exact (Prod.mk.inj h).1.symm

/-! ## Runs -/

/-- The settings after each of these keys was set to the value beside it, with success or without.
-/
def setEach (settings : Settings) (changes : List (String × String)) : Settings :=
  (runActions (fun current change => current.setKey change.1 change.2) settings changes).1

/-- One more key may be set behind the others. -/
theorem setEach_concat (settings : Settings) (front : List (String × String))
    (key value : String) :
    settings.setEach (front ++ [(key, value)]) = ((settings.setEach front).setKey key value).1 := by
  simp only [setEach, runActions_append]
  rfl

/-- A key shows the text that stands for a value that it takes. -/
theorem getKey?_setKey_of_takes (h : Takes key value shown) :
    (settings.setKey key value).1.getKey? key = some shown := by
  obtain ⟨changed, hset, hget⟩ := exists_setKey_getKey?_iff.mpr h
  rwa [hset]

/-- What a key shows stays as it is unless it takes a value. -/
theorem getKey?_setKey_of_not_takes {asked : String}
    (h : asked = key → ∀ shown, ¬Takes key value shown) :
    (settings.setKey key value).1.getKey? asked = settings.getKey? asked := by
  obtain ⟨changed, result, hset⟩ :
      ∃ changed result, settings.setKey key value = (changed, result) := ⟨_, _, rfl⟩
  rw [hset]
  cases result with
  | error fault => rw [eq_of_setKey_eq_error hset]
  | ok done =>
    refine getKey?_of_setKey_of_ne hset fun heq => ?_
    obtain ⟨shown, htakes⟩ := exists_setKey_iff.mp ⟨changed, hset⟩
    exact h heq shown htakes

/-- What a key shows after a run is the value that was last taken for it, or what it showed at first
when none was. -/
theorem getKey?_setEach (settings : Settings) (changes : List (String × String)) (key : String) :
    (∃ front value back shown, changes = front ++ (key, value) :: back ∧ Takes key value shown ∧
      (∀ later, (key, later) ∈ back → ∀ other, ¬Takes key later other) ∧
      (settings.setEach changes).getKey? key = some shown) ∨
    (∀ value, (key, value) ∈ changes → ∀ shown, ¬Takes key value shown) ∧
      (settings.setEach changes).getKey? key = settings.getKey? key := by
  induction changes using List.reverseRecOn with
  | nil => exact .inr ⟨by simp, rfl⟩
  | append_singleton front change ih =>
    obtain ⟨changedKey, value⟩ := change
    rw [setEach_concat]
    by_cases htaken : changedKey = key ∧ ∃ shown, Takes key value shown
    · obtain ⟨rfl, shown, htakes⟩ := htaken
      exact .inl ⟨front, value, [], shown, rfl, htakes, by simp, getKey?_setKey_of_takes htakes⟩
    · -- this change does not touch what the key shows
      have hrefused : key = changedKey → ∀ shown, ¬Takes changedKey value shown := by
        rintro rfl shown htakes
        exact htaken ⟨rfl, shown, htakes⟩
      have hnone : ∀ later, (key, later) = (changedKey, value) → ∀ shown,
          ¬Takes key later shown := by
        rintro later heq shown htakes
        obtain ⟨rfl, rfl⟩ := Prod.mk.inj heq
        exact hrefused rfl shown htakes
      rw [getKey?_setKey_of_not_takes hrefused]
      rcases ih with ⟨before, taken, back, shown, rfl, htakes, hback, hget⟩ | ⟨hfront, hget⟩
      · refine .inl ⟨before, taken, back ++ [(changedKey, value)], shown, by simp, htakes, ?_, hget⟩
        intro later hlater
        rcases List.mem_append.mp hlater with hmem | hmem
        · exact hback later hmem
        · exact hnone later (List.mem_singleton.mp hmem)
      · refine .inr ⟨fun later hlater => ?_, hget⟩
        rcases List.mem_append.mp hlater with hmem | hmem
        · exact hfront later hmem
        · exact hnone later (List.mem_singleton.mp hmem)

/-- A key takes exactly the values of its grammar, and then shows the text that stands for the
value; a key that is none of the two takes no value. Setting a key leaves what other keys show as
it is, and setting it to the text that it shows succeeds and changes nothing. A failure changes
nothing, and after any run in which keys are set, with success or without, each key shows the value
that was last taken for it, or else what it showed at first. -/
theorem set_and_get_agree (settings : Settings) :
    (∀ key value shown,
      (∃ changed, settings.setKey key value = (changed, .ok ()) ∧
        changed.getKey? key = some shown) ↔ Takes key value shown) ∧
    (∀ key value,
      (∃ changed, settings.setKey key value = (changed, .ok ())) ↔
        ∃ shown, Takes key value shown) ∧
    (∀ key value, key ≠ "casing" → key ≠ "normalize-on-load" →
      settings.setKey key value = (settings, .error (.unknownKey key))) ∧
    (∀ key value changed, settings.setKey key value = (changed, .ok ()) →
      ∀ other, other ≠ key → changed.getKey? other = settings.getKey? other) ∧
    (∀ key shown, settings.getKey? key = some shown →
      settings.setKey key shown = (settings, .ok ())) ∧
    (∀ key value changed fault, settings.setKey key value = (changed, .error fault) →
      changed = settings) ∧
    ∀ changes key,
      (∃ front value back shown, changes = front ++ (key, value) :: back ∧
        Takes key value shown ∧ (∀ later, (key, later) ∈ back → ∀ other, ¬Takes key later other) ∧
        (settings.setEach changes).getKey? key = some shown) ∨
      (∀ value, (key, value) ∈ changes → ∀ shown, ¬Takes key value shown) ∧
        (settings.setEach changes).getKey? key = settings.getKey? key := by
  refine ⟨fun key value shown => exists_setKey_getKey?_iff, fun key value => exists_setKey_iff,
    fun key value => setKey_of_unknown, ?_, fun key shown => setKey_getKey?, ?_,
    settings.getKey?_setEach⟩
  · intro key value changed h other hother
    exact getKey?_of_setKey_of_ne h hother
  · intro key value changed fault h
    exact eq_of_setKey_eq_error h

/-- A title between a wide blank and a line feed is taken. With a dotted capital I, whose lower case
begins with a small i, it is not. -/
theorem set_and_get_agree_title :
    let wide := "\u3000TiTlE\n"
    (∃ changed, ({} : Settings).setKey "casing" wide = (changed, .ok ()) ∧
      changed.getKey? "casing" = some "title" ∧
      changed.getKey? "normalize-on-load" = some "false" ∧
      changed.setKey "casing" "title" = (changed, .ok ())) ∧
    (∀ shown, ¬Takes "casing" "TİTLE" shown) ∧
    ({} : Settings).setKey "casing" "TİTLE" = ({}, .error (.unknownCasing "ti\u0307tle")) ∧
    ({} : Settings).setKey "colour" "red" = ({}, .error (.unknownKey "colour")) := by
  intro wide
  obtain ⟨hshown, htaken, hunknown, hother, -, hfailed, -⟩ := set_and_get_agree {}
  have hfault : (({} : Settings).setKey "casing" "TİTLE").2 =
      .error (.unknownCasing "ti\u0307tle") := by
    decide +kernel
  have hrefused : ({} : Settings).setKey "casing" "TİTLE" =
      ({}, .error (.unknownCasing "ti\u0307tle")) :=
    Prod.ext (hfailed _ _ _ _ (Prod.ext rfl hfault)) hfault
  refine ⟨?_, fun shown h => ?_, hrefused, hunknown "colour" "red" (by decide) (by decide)⟩
  · have htitle : Takes "casing" wide "title" :=
      .title ⟨['\u3000'], "TiTlE".toList, ['\n'], by simp [wide], by simp [isBlank],
        by simp [isBlank], by decide⟩
    obtain ⟨changed, hset, hget⟩ := (hshown "casing" wide "title").mpr htitle
    have hkept := hother "casing" wide changed hset "normalize-on-load" (by decide)
    obtain ⟨-, -, -, -, hagain, -⟩ := set_and_get_agree changed
    exact ⟨changed, hset, hget, hkept, hagain "casing" "title" hget⟩
  · obtain ⟨changed, hset⟩ := (htaken "casing" "TİTLE").mpr ⟨shown, h⟩
    rw [hrefused] at hset
    cases hset

end Settings

end StudentRoster
