import StudentRoster.Proofs.Settings.Reading
import StudentRoster.Proofs.Settings.Saving

/-!
# What a settings file says

An array of settings says what an object with its values under the two keys says (`Presents`).
`readWhole_eq_ok_iff` puts objects and arrays together, and `load_depends_on_two_values` says for a
settings file that nothing in it matters but the values of the two settings: neither how the text is
laid out and its strings are spelled, nor what else it holds.
-/

set_option autoImplicit false

namespace StudentRoster.Settings

open Json

variable {text rest left gap : List Char} {c : Char} {value : Value} {members : List Member}
  {values : List Value} {settings : Settings} {casing : Casing}

/-! ## Arrays -/

/-- The members that the values of an array stand for: the first one is the casing. -/
def positional (values : List Value) : List Member :=
  [some casingField, some normalizeField].zip values

/-- A gap in front of the second value is passed over. -/
theorem readSecondElement_gap (hgap : IsGap gap) (text : List Char) :
    readSecondElement casing (gap ++ text) = readSecondElement casing text := by
  rw [readSecondElement, skipBlanks_gap hgap, readSecondElement]

/-- A gap in front of the end of an array is passed over. -/
theorem readArrayEnd_gap (hgap : IsGap gap) (text : List Char) :
    readArrayEnd (gap ++ text) = readArrayEnd text := by
  rw [readArrayEnd, skipBlanks_gap hgap, readArrayEnd]

/-- The first value of an array is read as the casing that it denotes. -/
theorem readElements_first_iff (h : Spells (.element value) text) :
    readElements (text ++ rest) = .ok (settings, left) ↔
      ∃ casing, DenotesCasing value casing ∧
        readSecondElement casing rest = .ok (settings, left) := by
  obtain ⟨d, tail, hstart, -, hd, -⟩ := h.exists_skipBlanks rest
  rw [readElements, hstart]
  dsimp only
  rw [if_neg hd, readCasing_congr (skipBlanks_start hstart)]
  cases h with | @element _ front text back hfront h hback =>
  rw [List.append_assoc, List.append_assoc, readCasing_congr (skipBlanks_gap hfront _)]
  constructor
  · intro hread
    split at hread
    next => cases hread
    next casing other hcasing =>
      obtain ⟨hdenotes, rfl⟩ := (readCasing_eq_ok_iff h).mp hcasing
      rw [readSecondElement_gap hback] at hread
      exact ⟨casing, hdenotes, hread⟩
  · rintro ⟨casing, hdenotes, hread⟩
    rw [(readCasing_eq_ok_iff h).mpr ⟨hdenotes, rfl⟩]
    dsimp only
    rwa [readSecondElement_gap hback]

/-- Behind a comma stands the answer, and behind this the end of the array. -/
theorem readSecondElement_comma_iff (h : Spells (.element value) text) :
    readSecondElement casing (',' :: (text ++ rest)) = .ok (settings, left) ↔
      ∃ answer, DenotesAnswer value answer ∧ settings = ⟨casing, answer⟩ ∧
        readArrayEnd rest = .ok left := by
  obtain ⟨d, tail, hstart, -, hd, -⟩ := h.exists_skipBlanks rest
  rw [readSecondElement, skipBlanks_cons (by decide)]
  dsimp only
  rw [if_neg (by decide), if_pos rfl, hstart]
  split
  next hnil => cases hnil
  next hclose => exact absurd (List.cons.inj hclose).1 hd
  rw [readAnswer_congr (skipBlanks_start hstart)]
  cases h with | @element _ front text back hfront h hback =>
  rw [List.append_assoc, List.append_assoc, readAnswer_congr (skipBlanks_gap hfront _)]
  constructor
  · intro hread
    split at hread
    next => cases hread
    next answer other hanswer =>
      obtain ⟨hdenotes, rfl⟩ := (readAnswer_eq_ok_iff h).mp hanswer
      rw [readArrayEnd_gap hback, map_eq_ok_iff] at hread
      obtain ⟨after, hend, heq⟩ := hread
      cases heq
      exact ⟨answer, hdenotes, rfl, hend⟩
  · rintro ⟨answer, hdenotes, rfl, hend⟩
    rw [(readAnswer_eq_ok_iff h).mpr ⟨hdenotes, rfl⟩]
    dsimp only
    rw [readArrayEnd_gap hback, hend]
    rfl

/-- An array may end behind the casing. -/
theorem readSecondElement_close (casing : Casing) (rest : List Char) :
    readSecondElement casing (']' :: rest) = .ok ({ casing := casing }, rest) := by
  rw [readSecondElement, skipBlanks_cons (by decide)]
  rfl

/-- The closing bracket ends an array. -/
theorem readArrayEnd_close (rest : List Char) : readArrayEnd (']' :: rest) = .ok rest := by
  rw [readArrayEnd, skipBlanks_cons (by decide)]
  rfl

/-- An array does not go on behind the second value. -/
theorem readArrayEnd_comma_ne_ok (rest : List Char) : readArrayEnd (',' :: rest) ≠ .ok left := by
  rw [readArrayEnd, skipBlanks_cons (by decide)]
  dsimp only
  rw [if_neg (by decide), if_pos rfl]
  split <;> nofun

/-- One value by its place is a casing. -/
theorem takes_positional_singleton_iff {found : Found} :
    Found.Takes {} (positional [value]) found ↔
      ∃ casing, DenotesCasing value casing ∧ found = { casing := some casing } := by
  exact takes_casing_iff.trans (and_iff_right rfl)

/-- Two values by their places are a casing and an answer. -/
theorem takes_positional_pair_iff {found : Found} {second : Value} :
    Found.Takes {} (positional [value, second]) found ↔
      ∃ casing answer, DenotesCasing value casing ∧ DenotesAnswer second answer ∧
        found = ⟨some casing, some answer⟩ := by
  refine takes_cons_iff.trans ?_
  constructor
  · rintro ⟨middle, hfirst, hsecond⟩
    obtain ⟨casing, hcasing, rfl⟩ := takes_positional_singleton_iff.mp hfirst
    obtain ⟨-, answer, hanswer, rfl⟩ := takes_normalize_iff.mp hsecond
    exact ⟨casing, answer, hcasing, hanswer, rfl⟩
  · rintro ⟨casing, answer, hcasing, hanswer, rfl⟩
    exact ⟨_, takes_positional_singleton_iff.mpr ⟨casing, hcasing, rfl⟩,
      takes_normalize_iff.mpr ⟨rfl, answer, hanswer, rfl⟩⟩

/-- The values of an array are read as the members for which they stand, if they are two at most. -/
theorem readElements_eq_ok_iff (h : Spells (.elements values) text) :
    readElements (text ++ ']' :: rest) = .ok (settings, left) ↔
      (values.length ≤ 2 ∧ ∃ found, Found.Takes {} (positional values) found ∧
        settings = found.settings) ∧ left = rest := by
  cases h with
  | lastElement h =>
    simp only [readElements_first_iff h, readSecondElement_close, Except.ok.injEq, Prod.mk.injEq]
    constructor
    · rintro ⟨casing, hcasing, rfl, rfl⟩
      exact ⟨⟨by simp, _, takes_positional_singleton_iff.mpr ⟨casing, hcasing, rfl⟩, rfl⟩, rfl⟩
    · rintro ⟨⟨-, found, htakes, rfl⟩, rfl⟩
      obtain ⟨casing, hcasing, rfl⟩ := takes_positional_singleton_iff.mp htakes
      exact ⟨casing, hcasing, rfl, rfl⟩
  | moreElements h hrest =>
    rw [List.append_assoc, List.cons_append, readElements_first_iff h]
    cases hrest with
    | lastElement h' =>
      simp only [readSecondElement_comma_iff h', readArrayEnd_close, Except.ok.injEq]
      constructor
      · rintro ⟨casing, hcasing, answer, hanswer, rfl, rfl⟩
        refine ⟨⟨by simp, ⟨some casing, some answer⟩, ?_, rfl⟩, rfl⟩
        exact takes_positional_pair_iff.mpr ⟨casing, answer, hcasing, hanswer, rfl⟩
      · rintro ⟨⟨-, found, htakes, rfl⟩, rfl⟩
        obtain ⟨casing, answer, hcasing, hanswer, rfl⟩ := takes_positional_pair_iff.mp htakes
        exact ⟨casing, hcasing, answer, hanswer, rfl, rfl⟩
    | moreElements h' hrest =>
      simp only [List.append_assoc, List.cons_append, readSecondElement_comma_iff h']
      constructor
      · rintro ⟨-, -, -, -, -, hend⟩
        exact absurd hend (readArrayEnd_comma_ne_ok _)
      · rintro ⟨⟨hlength, -⟩, -⟩
        have hpos := List.length_pos_iff.mpr hrest.elements_ne_nil
        simp only [List.length_cons] at hlength
        omega

/-! ## Whole texts -/

/-- The members that a document holds for the settings, those of an object or those for which the
values of an array stand. -/
inductive Presents : Value → List Member → Prop
  | object (members : List Member) : Presents (.object members) members
  | array {values : List Value} (h : values.length ≤ 2) :
      Presents (.array values) (positional values)

/-- What is made of the members that are found at the end of an object. -/
theorem map_settings_eq_ok_iff {x : Except Fault (Found × List Char)}
    (h : ∀ {found}, x = .ok (found, left) ↔ Found.Takes {} members found ∧ left = rest) :
    (x.map fun read => (read.1.settings, read.2)) = .ok (settings, left) ↔
      (∃ found, Found.Takes {} members found ∧ settings = found.settings) ∧ left = rest :=
  map_read_eq_ok_iff (f := Found.settings) h

/-- An object presents its own members. -/
theorem presents_object_iff {members' : List Member} :
    Presents (.object members) members' ↔ members' = members := by
  constructor
  · intro h
    cases h
    rfl
  · rintro rfl
    exact .object _

/-- An array of at most two values presents them under the two keys. -/
theorem presents_array_iff :
    Presents (.array values) members ↔ values.length ≤ 2 ∧ members = positional values := by
  constructor
  · intro h
    cases h with
    | array h => exact ⟨h, rfl⟩
  · rintro ⟨h, rfl⟩
    exact .array h

/-- A value presents its members in one way only. -/
theorem Presents.unique {other : List Member} (h : Presents value members)
    (hother : Presents value other) : members = other := by
  cases h with
  | object => exact (presents_object_iff.mp hother).symm
  | array => exact (presents_array_iff.mp hother).2.symm

/-- Settings are read from what presents members that hold them, and from nothing else. -/
theorem readSettings_eq_ok_iff (h : Spells (.value value) text) :
    readSettings (text ++ rest) = .ok (settings, left) ↔
      (∃ members, Presents value members ∧ ∃ found, Found.Takes {} members found ∧
        settings = found.settings) ∧ left = rest := by
  have hhead := h.exists_head
  cases h with
  | emptyObject h =>
    simp only [presents_object_iff, exists_eq_left, takes_nil_iff]
    rw [List.cons_append, List.append_assoc, readSettings, skipBlanks_cons (by decide)]
    dsimp only
    rw [if_pos rfl, List.singleton_append, readMembers_gap h (by decide), readMembers_close]
    simp [Except.map, eq_comm]
  | object h =>
    simp only [presents_object_iff, exists_eq_left]
    rw [List.cons_append, List.append_assoc, readSettings, skipBlanks_cons (by decide)]
    exact map_settings_eq_ok_iff fun {_} => readMembers_eq_ok_iff h
  | emptyArray h =>
    simp only [presents_array_iff, and_assoc, exists_and_left, exists_eq_left, positional,
      List.zip_nil_right, takes_nil_iff]
    rw [List.cons_append, List.append_assoc, readSettings, skipBlanks_cons (by decide)]
    dsimp only
    rw [if_neg (by decide), if_pos rfl, readElements, skipBlanks_gap h, List.singleton_append,
      skipBlanks_cons (by decide)]
    simp [eq_comm, Found.settings]
  | array h =>
    simp only [presents_array_iff, and_assoc, exists_and_left, exists_eq_left]
    rw [← and_assoc, ← readElements_eq_ok_iff h, List.cons_append, List.append_assoc, readSettings,
      skipBlanks_cons (by decide)]
    rfl
  | null | yes | no | number | string =>
    -- what begins with neither a bracket nor a brace is not read and presents no members
    obtain ⟨c, tail, htext, hblank, -, -, -, harray, hobject⟩ := hhead
    have hbracket : c ≠ '[' := by
      intro hc
      obtain ⟨_, hvalue⟩ := harray hc
      cases hvalue
    have hbrace : c ≠ '{' := by
      intro hc
      obtain ⟨_, hvalue⟩ := hobject hc
      cases hvalue
    rw [htext, List.cons_append, readSettings, skipBlanks_cons hblank]
    dsimp only
    rw [if_neg hbrace, if_neg hbracket]
    refine iff_of_false nofun ?_
    rintro ⟨⟨_, hpresents, -⟩, -⟩
    cases hpresents

/-- A whole text is read as settings when its value presents members that hold them. -/
theorem readWhole_eq_ok_iff (h : Spells (.element value) text) :
    readWhole text = .ok settings ↔
      ∃ members, Presents value members ∧ ∃ found, Found.Takes {} members found ∧
        settings = found.settings := by
  cases h with | @element _ front text back hfront h hback =>
  have hfrontless : readSettings (front ++ (text ++ back)) = readSettings (text ++ back) := by
    rw [readSettings, skipBlanks_gap hfront, readSettings]
  have hend : skipBlanks back = [] := by
    have hgap := skipBlanks_gap hback []
    rwa [List.append_nil] at hgap
  rw [readWhole, hfrontless]
  constructor
  · intro hread
    split at hread
    next => cases hread
    next other rest hsettings =>
      obtain ⟨hpresents, rfl⟩ := (readSettings_eq_ok_iff h).mp hsettings
      rw [hend] at hread
      cases hread
      exact hpresents
  · intro hpresents
    rw [(readSettings_eq_ok_iff h).mpr ⟨hpresents, rfl⟩]
    dsimp only
    rw [hend]

/-! ## The settings file -/

variable {tree : FileTree} {directory : String}

/-- A settings file that holds a JSON text is read exactly as the members of the text take the
settings. -/
theorem load_eq_ok_iff {text : String}
    (hfile : tree.readBytes (filePath directory) = .ok text.toUTF8)
    (h : Spells (.element value) text.toList) (hpresents : Presents value members) :
    load tree directory = .ok settings ↔
      ∃ found, Found.Takes {} members found ∧ settings = found.settings := by
  have hread : readWhole text.toList = .ok settings ↔
      ∃ found, Found.Takes {} members found ∧ settings = found.settings := by
    rw [readWhole_eq_ok_iff h]
    constructor
    · rintro ⟨other, hother, hfound⟩
      rwa [hpresents.unique hother]
    · intro hfound
      exact ⟨members, hpresents, hfound⟩
  rw [load_of_text hfile, ← hread, ofJson]
  cases readWhole text.toList with
  | error fault => exact iff_of_false nofun nofun
  | ok other => simp [Except.mapError]

/-- A text that gives no settings makes the loading fail over the text. -/
theorem load_fault {text : String} (hfile : tree.readBytes (filePath directory) = .ok text.toUTF8)
    (h : ∀ settings, load tree directory ≠ .ok settings) :
    ∃ fault, load tree directory = .error (.badSettings fault) := by
  rw [load_of_text hfile] at h ⊢
  cases hread : ofJson text with
  | error fault => exact ⟨fault, rfl⟩
  | ok settings => exact absurd (congrArg (Except.mapError Failure.badSettings) hread) (h settings)

/-- Reading the settings file depends on nothing but the two settings. Where each of them has one
value at most among the members of an object, or in an array of two values at most, and these are
the name of a casing and a truth value, they are what is read, and the defaults stand for those
that are missing. Where a setting occurs twice or has a value of another kind, reading fails. Any
two documents that hold the same values for the settings, with whatever else, give the same. -/
theorem load_depends_on_two_values {text : String}
    (hfile : tree.readBytes (filePath directory) = .ok text.toUTF8)
    (hspells : Spells (.element value) text.toList) (hpresents : Presents value members) :
    ((∀ member ∈ members, member.1.isSome = true) →
      ∀ (casing : Option Casing) (answer : Option Bool),
        valuesAt "casing" members = casing.toList.map (fun casing => .string (some casing.name)) →
        valuesAt "normalize_on_load" members = answer.toList.map .boolean →
        load tree directory = .ok ⟨casing.getD .legacy, answer.getD false⟩) ∧
    (1 < (valuesAt "casing" members).length ∨ 1 < (valuesAt "normalize_on_load" members).length ∨
      (∃ value ∈ valuesAt "casing" members, value = .null ∨ (∃ answer, value = .boolean answer) ∨
        (∃ spelling, value = .number spelling) ∨ ∃ elements, value = .array elements) ∨
      (∃ value ∈ valuesAt "normalize_on_load" members, ∀ answer, value ≠ .boolean answer) →
      ∃ fault, load tree directory = .error (.badSettings fault)) ∧
    ∀ {tree' : FileTree} {directory' text' : String} {value' : Value} {members' : List Member},
      tree'.readBytes (filePath directory') = .ok text'.toUTF8 →
      Spells (.element value') text'.toList → Presents value' members' →
      (∀ member ∈ members, member.1.isSome = true) →
      (∀ member ∈ members', member.1.isSome = true) →
      valuesAt "casing" members = valuesAt "casing" members' →
      valuesAt "normalize_on_load" members = valuesAt "normalize_on_load" members' →
      ∀ settings, load tree directory = .ok settings ↔ load tree' directory' = .ok settings := by
  refine ⟨fun hkeys casing answer hcasing hanswer => ?_, fun hwrong => ?_, ?_⟩
  · have htakes : Found.Takes {} members ⟨casing, answer⟩ := by
      refine ⟨hkeys, ?_, ?_⟩
      · rw [casingField, hcasing]
        exact fills_toList DenotesCasing.name casing
      · rw [normalizeField, hanswer]
        exact fills_toList denotesAnswer_boolean answer
    exact (load_eq_ok_iff hfile hspells hpresents).mpr ⟨_, htakes, rfl⟩
  · -- what is wrong keeps the members from being taken, so that nothing at all can be loaded
    refine load_fault hfile fun settings hload => ?_
    obtain ⟨found, htakes, -⟩ := (load_eq_ok_iff hfile hspells hpresents).mp hload
    rcases hwrong with htwice | htwice | ⟨wrong, hmem, hwrong⟩ | ⟨wrong, hmem, hwrong⟩
    · exact absurd htakes.casing.length_le (Nat.not_le.mpr htwice)
    · exact absurd htakes.normalizeOnLoad.length_le (Nat.not_le.mpr htwice)
    · obtain ⟨casing, hdenotes⟩ := htakes.casing.exists_denotes wrong hmem
      rcases hwrong with rfl | ⟨_, rfl⟩ | ⟨_, rfl⟩ | ⟨_, rfl⟩ <;> cases hdenotes
    · obtain ⟨answer, hdenotes⟩ := htakes.normalizeOnLoad.exists_denotes wrong hmem
      exact hwrong answer hdenotes
  · intro tree' directory' text' value' members' hfile' hspells' hpresents' hkeys hkeys' hcasing
      hanswer settings
    have hsame : ∀ found, Found.Takes {} members found ↔ Found.Takes {} members' found := by
      intro found
      exact takes_congr hkeys hkeys' hcasing hanswer
    simp only [load_eq_ok_iff hfile hspells hpresents, load_eq_ok_iff hfile' hspells' hpresents',
      hsame]

/-- A tree that holds nothing but a settings file. -/
def holding (text : String) : FileTree :=
  (FileTree.empty []).place [fileName] (.file text.toUTF8)

/-- The file of the settings holds the text. -/
theorem readBytes_holding (text : String) :
    (holding text).readBytes (filePath "") = .ok text.toUTF8 :=
  rfl

/-- A key with an escape, and another member, against the array of the one value. A null in the
place of the casing is refused. -/
theorem load_depends_on_two_values_title :
    let wordy := "\x7b \"x\":[-0.5],\"\\u0063asing\":\"title\"\x7d"
    load (holding wordy) "" = .ok ⟨.title, false⟩ ∧
    (∀ settings, load (holding wordy) "" = .ok settings ↔
      load (holding "[\"title\"]") "" = .ok settings) ∧
    ∃ fault, load (holding "[null]") "" = .error (.badSettings fault) := by
  intro wordy
  have htitle : Spells (.value (.string (some "title"))) "\"title\"".toList :=
    .string (@spellsPieces_plain "title".toList rfl)
  have hnumber : IsNumber "-0.5".toList :=
    .parts (.inr rfl) ⟨⟨by simp, List.all_eq_true.mp rfl⟩, fun _ => rfl⟩
      (@IsFraction.digits ['5'] ⟨by simp, List.all_eq_true.mp rfl⟩) .none
  have harray : Spells (.value (.array [.number "-0.5".toList])) "[-0.5]".toList :=
    .array (.lastElement (.element isGap_nil (.number hnumber) isGap_nil))
  have hkey : SpellsPieces "\\u0063asing".toList (.code 0x63 :: "asing".toList.map .character) :=
    .cons (.code (@SpellsCode.digits '0' '0' '6' '3' 0 0 6 3 rfl rfl rfl rfl))
      (@spellsPieces_plain "asing".toList rfl)
  have hfirst : Spells (.member (some "x", .array [.number "-0.5".toList]))
      " \"x\":[-0.5]".toList :=
    .member (show IsGap [' '] by simp [IsGap, isBlank]) (@spellsPieces_plain ['x'] rfl)
      isGap_nil (.element isGap_nil harray isGap_nil)
  have hsecond : Spells (.member (some "casing", .string (some "title")))
      "\"\\u0063asing\":\"title\"".toList :=
    .member isGap_nil hkey isGap_nil (.element isGap_nil htitle isGap_nil)
  have hwordy : Spells (.element (.object [(some "x", .array [.number "-0.5".toList]),
      (some "casing", .string (some "title"))])) wordy.toList := by
    simpa [wordy] using
      Spells.element isGap_nil (.object (.moreMembers hfirst (.lastMember hsecond))) isGap_nil
  have hshort : Spells (.element (.array [.string (some "title")])) "[\"title\"]".toList :=
    .element isGap_nil (.array (.lastElement (.element isGap_nil htitle isGap_nil))) isGap_nil
  have hnull : Spells (.element (.array [.null])) "[null]".toList :=
    .element isGap_nil (.array (.lastElement (.element isGap_nil .null isGap_nil))) isGap_nil
  obtain ⟨hread, -, hsame⟩ :=
    load_depends_on_two_values (readBytes_holding wordy) hwordy (.object _)
  obtain ⟨-, hwrong, -⟩ :=
    load_depends_on_two_values (readBytes_holding "[null]") hnull (.array (by decide))
  refine ⟨hread (by simp) (some .title) none rfl rfl, ?_, hwrong ?_⟩
  · exact hsame (readBytes_holding "[\"title\"]") hshort (.array (by decide)) (by simp)
      (by simp [positional]) rfl rfl
  · exact .inr (.inr (.inl ⟨.null, List.mem_singleton.mpr rfl, .inl rfl⟩))

end StudentRoster.Settings
