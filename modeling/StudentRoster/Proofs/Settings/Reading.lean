import StudentRoster.Proofs.Json.Skipping
import StudentRoster.Proofs.Settings.Members

/-!
# Settings are read as their text spells them

Each reader takes exactly the values that denote what it reads, and leaves what stands behind them.
`readMembers_eq_ok_iff` and `readElements_eq_ok_iff` put this together for an object and for an
array, `readWhole_eq_ok_iff` for a whole text.
-/

set_option autoImplicit false

namespace StudentRoster.Settings

open Json

variable {text rest left gap : List Char} {c : Char} {value : Value} {member : Member}
  {members : List Member} {values : List Value} {found result : Found} {key : String}
  {casing : Casing} {answer : Bool}

/-! ## One value -/

/-- A string is read as the casing whose name it spells, and as no other. -/
theorem readCasingName_eq_ok_iff {pieces : List Piece}
    (h : SpellsPieces text pieces) :
    readCasingName (text ++ '"' :: rest) = .ok (casing, left) ↔
      decodeText? pieces = some casing.name ∧ left = rest := by
  rw [readCasingName, decodeText?, Option.map_eq_some_iff]
  constructor
  · intro hread
    split at hread
    next => cases hread
    next name other hname =>
      obtain ⟨hdecode, hother⟩ := (readString_eq_ok_iff h).mp hname
      split at hread
      next hlegacy =>
        cases hread
        exact ⟨⟨name, hdecode, by rw [hlegacy, String.ofList_toList]⟩, hother⟩
      split at hread
      next htitle =>
        cases hread
        exact ⟨⟨name, hdecode, by rw [htitle, String.ofList_toList]⟩, hother⟩
      next => cases hread
  · rintro ⟨⟨name, hdecode, hname⟩, rfl⟩
    rw [(readString_eq_ok_iff h).mpr ⟨hdecode, rfl⟩]
    have hchars : name = casing.name.toList := by rw [← hname, String.toList_ofList]
    rw [hchars]
    cases casing <;> rfl

/-- The value behind the name of a casing is null, and nothing follows it in the object. -/
theorem readUnitMember_null {back : List Char} (hgap : IsGap gap) (hback : IsGap back)
    (hc : IsMark c) (given : Casing) :
    readUnitMember given (gap ++ 'n' :: 'u' :: 'l' :: 'l' :: (back ++ c :: rest)) =
      if c = '}' then .ok (given, rest) else .error (.before .noValue (c :: rest)) := by
  have hword : keyword "ull".toList ('u' :: 'l' :: 'l' :: (back ++ c :: rest)) =
      .ok (back ++ c :: rest) := keyword_append _ _
  rw [readUnitMember, skipBlanks_gap hgap, skipBlanks_cons (by decide)]
  dsimp only
  rw [if_pos rfl, hword]
  dsimp only
  rw [skipBlanks_gap hback, skipBlanks_cons hc.isBlank_eq_false]

/-- Behind the name of a casing no value but null is taken. -/
theorem readUnitMember_eq_ok_iff {given : Casing} (h : Spells (.element value) text)
    (hc : IsMark c) :
    readUnitMember given (text ++ c :: rest) = .ok (casing, left) ↔
      value = .null ∧ c = '}' ∧ casing = given ∧ left = rest := by
  cases h with | @element _ front text back hfront h hback =>
  rw [List.append_assoc, List.append_assoc]
  by_cases hnull : value = .null
  · subst hnull
    cases h
    refine (iff_of_eq (congrArg (· = _) (readUnitMember_null hfront hback hc given))).trans ?_
    by_cases hbrace : c = '}'
    · rw [if_pos hbrace, Except.ok.injEq, Prod.mk.injEq]
      simp [hbrace, eq_comm]
    · simp [hbrace]
  · obtain ⟨d, tail, rfl, hblank, hd, -⟩ := h.exists_head
    rw [readUnitMember, skipBlanks_gap hfront, List.cons_append, skipBlanks_cons hblank]
    dsimp only
    rw [if_neg (mt hd hnull)]
    simp [hnull]

/-- An object of one member is read as the casing that is its key, where its value is null. -/
theorem readCasingKey_eq_ok_iff (h : Spells (.member member) text)
    (hc : IsMark c) :
    readCasingKey (text ++ c :: rest) = .ok (casing, left) ↔
      member = (some casing.name, .null) ∧ c = '}' ∧ left = rest := by
  cases h with | @member pieces value front key back text hfront hkey hback h =>
  simp only [List.append_assoc, List.cons_append]
  rw [readCasingKey, skipBlanks_gap hfront, skipBlanks_cons (by decide)]
  dsimp only
  rw [if_pos rfl]
  constructor
  · intro hread
    split at hread
    next => cases hread
    next given other hname =>
      obtain ⟨hdecode, rfl⟩ := (readCasingName_eq_ok_iff hkey).mp hname
      rw [readColon_gap hback] at hread
      obtain ⟨rfl, hbrace, rfl, hrest⟩ := (readUnitMember_eq_ok_iff h hc).mp hread
      exact ⟨by rw [hdecode], hbrace, hrest⟩
  · rintro ⟨hmember, hbrace, hrest⟩
    obtain ⟨hdecode, rfl⟩ := Prod.mk.inj hmember
    rw [(readCasingName_eq_ok_iff hkey).mpr ⟨hdecode, rfl⟩]
    dsimp only
    rw [readColon_gap hback]
    exact (readUnitMember_eq_ok_iff h hc).mpr ⟨rfl, hbrace, rfl, hrest⟩

/-- An object is read as a casing exactly when that one member is all of it. -/
theorem readCasing_object_iff (h : Spells (.members members) text) :
    readCasingKey (text ++ '}' :: rest) = .ok (casing, left) ↔
      members = [(some casing.name, .null)] ∧ left = rest := by
  cases h with
  | lastMember h =>
    rw [readCasingKey_eq_ok_iff h (.inr (.inr rfl)), List.singleton_inj, and_iff_right rfl]
  | moreMembers h hrest =>
    rw [List.append_assoc, List.cons_append, readCasingKey_eq_ok_iff h (.inl rfl)]
    have hne := hrest.members_ne_nil
    simp [hne]

/-- A value is read as exactly the casing that it denotes. -/
theorem readCasing_eq_ok_iff (h : Spells (.value value) text) :
    readCasing (text ++ rest) = .ok (casing, left) ↔ DenotesCasing value casing ∧ left = rest := by
  have hhead := h.exists_head
  cases h with
  | string h =>
    rw [denotesCasing_string_iff, ← readCasingName_eq_ok_iff h, List.cons_append, List.append_assoc,
      readCasing, skipBlanks_cons (by decide)]
    rfl
  | emptyObject h =>
    rw [denotesCasing_object_iff, List.cons_append, List.append_assoc, readCasing,
      skipBlanks_cons (by decide)]
    dsimp only
    rw [if_neg (by decide), if_pos rfl, readCasingKey, skipBlanks_gap h]
    simp [skipBlanks, isBlank]
  | object h =>
    rw [denotesCasing_object_iff, ← readCasing_object_iff h, List.cons_append, List.append_assoc,
      readCasing, skipBlanks_cons (by decide)]
    rfl
  | null | yes | no | number | emptyArray | array =>
    obtain ⟨c, tail, htext, hblank, -, -, hstring, -, hobject⟩ := hhead
    have hquote : c ≠ '"' := by
      intro hc
      obtain ⟨_, hvalue⟩ := hstring hc
      cases hvalue
    have hbrace : c ≠ '{' := by
      intro hc
      obtain ⟨_, hvalue⟩ := hobject hc
      cases hvalue
    rw [htext, List.cons_append, readCasing, skipBlanks_cons hblank]
    dsimp only
    rw [if_neg hquote, if_neg hbrace]
    refine iff_of_false (by simp) ?_
    rintro ⟨hdenotes, -⟩
    cases hdenotes

/-- A value is read as exactly the answer that it denotes. -/
theorem readAnswer_eq_ok_iff (h : Spells (.value value) text) :
    readAnswer (text ++ rest) = .ok (answer, left) ↔ DenotesAnswer value answer ∧ left = rest := by
  by_cases hbool : ∃ other, value = .boolean other
  · obtain ⟨other, rfl⟩ := hbool
    cases h with
    | yes =>
      have hread : readAnswer ('t' :: ['r', 'u', 'e'] ++ rest) = .ok (true, rest) := by
        rw [List.cons_append, readAnswer, skipBlanks_cons (by decide)]
        exact congrArg (Except.map fun rest => (true, rest)) (keyword_append ['r', 'u', 'e'] rest)
      rw [hread, DenotesAnswer]
      simp [eq_comm]
    | no =>
      have hread : readAnswer ('f' :: ['a', 'l', 's', 'e'] ++ rest) = .ok (false, rest) := by
        rw [List.cons_append, readAnswer, skipBlanks_cons (by decide)]
        exact congrArg (Except.map fun rest => (false, rest))
          (keyword_append ['a', 'l', 's', 'e'] rest)
      rw [hread, DenotesAnswer]
      simp [eq_comm]
  · obtain ⟨c, tail, rfl, hblank, -, hc, -⟩ := h.exists_head
    rw [List.cons_append, readAnswer, skipBlanks_cons hblank]
    have hne := not_or.mp (mt hc hbool)
    dsimp only
    rw [if_neg hne.1, if_neg hne.2]
    refine iff_of_false nofun ?_
    rintro ⟨hanswer, -⟩
    exact hbool ⟨answer, hanswer⟩

/-! ## Members -/

/-- Blanks in front make no difference to a casing. -/
theorem readCasing_congr {other : List Char} (h : skipBlanks text = skipBlanks other) :
    readCasing text = readCasing other := by
  rw [readCasing, h, readCasing]

/-- Blanks in front make no difference to an answer. -/
theorem readAnswer_congr {other : List Char} (h : skipBlanks text = skipBlanks other) :
    readAnswer text = readAnswer other := by
  rw [readAnswer, h, readAnswer]

/-- The value of a member that is neither setting is passed over. -/
theorem skipValue_spelled (hgap : IsGap gap) (h : Spells (.value value) text)
    (hrest : EndsValue rest) : skipValue [] (gap ++ (text ++ rest)) = .ok rest := by
  obtain ⟨c, tail, hstart, -⟩ := h.exists_skipBlanks rest
  rw [skipValue_gap hgap hstart, h.skips [] rest hrest, skipRest]

/-- Behind a key the value is read that stands there, and what stands behind it is left. -/
theorem readMember_eq_ok_iff {gap' : List Char} (hgap : IsGap gap) (hgap' : IsGap gap')
    (h : Spells (.value value) text) (hrest : EndsValue rest) :
    readMember found key (gap ++ ':' :: (gap' ++ (text ++ rest))) = .ok (result, left) ↔
      found.Takes [(some key, value)] result ∧ left = rest := by
  rw [readMember, readColon_gap hgap]
  dsimp only
  by_cases hcasing : key = casingField
  · rw [if_pos hcasing, hcasing, takes_casing_iff, readCasing_congr (skipBlanks_gap hgap' _)]
    cases hfound : found.casing with
    | some casing => simp
    | none =>
      rw [and_iff_right rfl, if_neg (by simp)]
      exact map_read_eq_ok_iff (f := fun casing => { found with casing := some casing })
        (readCasing_eq_ok_iff h)
  rw [if_neg hcasing]
  by_cases hnormalize : key = normalizeField
  · rw [if_pos hnormalize, hnormalize, takes_normalize_iff,
      readAnswer_congr (skipBlanks_gap hgap' _)]
    cases hfound : found.normalizeOnLoad with
    | some answer => simp
    | none =>
      rw [and_iff_right rfl, if_neg (by simp)]
      exact map_read_eq_ok_iff (f := fun answer => { found with normalizeOnLoad := some answer })
        (readAnswer_eq_ok_iff h)
  · rw [if_neg hnormalize, takes_other_iff hcasing hnormalize, skipValue_spelled hgap' h hrest]
    simp [Except.map, eq_comm]

/-- Reads a member from its key on, and the members behind it. -/
def readNext (found : Found) : List Char → Except Fault (Found × List Char)
  | [] => .error (.behind .endInValue [])
  | c :: rest =>
    if c = '"' then
      match readString rest with
      | .error e => .error e
      | .ok (key, rest) =>
        match readMember found (String.ofList key) rest with
        | .error e => .error e
        | .ok (found, rest) => readMembers found false rest
    else .error (.behind .keyNotString (c :: rest))

/-- One step of reading an object of settings, by the character behind the blanks. -/
theorem readMembers_eq (found : Found) (first : Bool) (h : skipBlanks text = c :: rest) :
    readMembers found first text =
      if c = '}' then .ok (found, rest)
      else
        match skipComma first (c :: rest) with
        | .error e => .error e
        | .ok rest => readNext found rest := by
  rw [readMembers]
  split
  next hnil =>
    rw [h] at hnil
    cases hnil
  next hcons =>
    rw [h] at hcons
    cases hcons
    congr 1
    split
    next hcomma => simp only [hcomma]
    next hcomma => simp only [hcomma, readNext]
    next hcomma =>
      simp only [hcomma, readNext]
      congr 1
      split
      next hkey => simp only [hkey]
      next hkey =>
        simp only [hkey]
        split <;> simp only [*]

/-- A gap in front of a member is passed over. -/
theorem readMembers_gap (hgap : IsGap gap) (hc : isBlank c = false) (first : Bool) :
    readMembers found first (gap ++ c :: rest) = readMembers found first (c :: rest) := by
  have hstart := skipBlanks_cons hc rest
  rw [readMembers_eq found first hstart,
    readMembers_eq found first ((skipBlanks_gap hgap _).trans hstart)]

/-- The closing brace ends the members. -/
theorem readMembers_close (found : Found) (first : Bool) (rest : List Char) :
    readMembers found first ('}' :: rest) = .ok (found, rest) := by
  rw [readMembers_eq found first (skipBlanks_cons (by decide) rest), if_pos rfl]

/-- Behind a comma members are read as at the front. -/
theorem readMembers_comma (h : Spells (.members members) text) (rest : List Char) :
    readMembers found false (',' :: (text ++ rest)) = readMembers found true (text ++ rest) := by
  obtain ⟨c, left, hstart, -, -, hbrace⟩ := h.exists_skipBlanks rest
  have hcomma : skipComma false (',' :: (text ++ rest)) = .ok (c :: left) := by
    rw [skipComma, if_neg (by decide), hstart]
    split
    next hnil => cases hnil
    next hclose => exact absurd (List.cons.inj hclose).1 hbrace
    next => rfl
  rw [readMembers_eq found false (skipBlanks_cons (by decide) _), if_neg (by decide), hcomma,
    readMembers_eq found true hstart, if_neg hbrace]
  rfl

/-- A member in front of a comma or a closing brace is read as it takes the settings. -/
theorem readMembers_member_iff (h : Spells (.member member) text) (hc : IsMark c) :
    readMembers found true (text ++ c :: rest) = .ok (result, left) ↔
      ∃ middle, found.Takes [member] middle ∧
        readMembers middle false (c :: rest) = .ok (result, left) := by
  cases h with | @member pieces value front key back text hfront hkey hback h =>
  cases h with | @element _ front' text back' hfront' h hback' =>
  have hrest := endsValue_gap hback' (endsValue_mark hc rest)
  simp only [List.append_assoc, List.cons_append]
  rw [readMembers_eq found true ((skipBlanks_gap hfront _).trans (skipBlanks_cons (by decide) _)),
    if_neg (by decide)]
  simp only [skipComma, readNext, ↓reduceIte]
  constructor
  · intro hread
    split at hread
    next => cases hread
    next name tail hname =>
      obtain ⟨hdecode, rfl⟩ := (readString_eq_ok_iff hkey).mp hname
      split at hread
      next => cases hread
      next middle tail hmember =>
        obtain ⟨htakes, rfl⟩ := (readMember_eq_ok_iff hback hfront' h hrest).mp hmember
        rw [readMembers_gap hback' hc.isBlank_eq_false] at hread
        refine ⟨middle, ?_, hread⟩
        rwa [decodeText?, hdecode]
  · rintro ⟨middle, htakes, hread⟩
    obtain ⟨key', hkey'⟩ := Option.isSome_iff_exists.mp (htakes.isSome_key _ List.mem_cons_self)
    obtain ⟨name, hdecode, rfl⟩ := Option.map_eq_some_iff.mp hkey'
    rw [decodeText?, hdecode] at htakes
    rw [(readString_eq_ok_iff hkey).mpr ⟨hdecode, rfl⟩]
    dsimp only
    rw [(readMember_eq_ok_iff hback hfront' h hrest).mpr ⟨htakes, rfl⟩]
    dsimp only
    rwa [readMembers_gap hback' hc.isBlank_eq_false]

/-- The members of an object are read as they take the settings, by induction on them. -/
theorem readMembers_eq_ok_iff (h : Spells (.members members) text) :
    readMembers found true (text ++ '}' :: rest) = .ok (result, left) ↔
      found.Takes members result ∧ left = rest := by
  induction members generalizing text found with
  | nil => exact absurd rfl h.members_ne_nil
  | cons member members ih =>
    cases h with
    | lastMember h =>
      rw [readMembers_member_iff h (.inr (.inr rfl))]
      simp only [readMembers_close, Except.ok.injEq, Prod.mk.injEq]
      constructor
      · rintro ⟨middle, htakes, rfl, rfl⟩
        exact ⟨htakes, rfl⟩
      · rintro ⟨htakes, rfl⟩
        exact ⟨result, htakes, rfl, rfl⟩
    | moreMembers h hrest =>
      rw [List.append_assoc, List.cons_append, readMembers_member_iff h (.inl rfl)]
      simp only [readMembers_comma hrest, ih hrest]
      rw [takes_cons_iff]
      constructor
      · rintro ⟨middle, htakes, htakes', rfl⟩
        exact ⟨⟨middle, htakes, htakes'⟩, rfl⟩
      · rintro ⟨⟨middle, htakes, htakes'⟩, rfl⟩
        exact ⟨middle, htakes, htakes', rfl⟩

end StudentRoster.Settings
