import StudentRoster.Json.Skip
import StudentRoster.Proofs.Json.Leaves

/-!
# Any value is passed over

A value is passed over as a whole, whatever it is and however deep, in front of all that can stand
behind it (`Spells.skips`). The induction is on the grammar. The enclosures that are still open when
the value begins are open when it ends, so each production says where the reader goes on.
-/

set_option autoImplicit false

namespace StudentRoster.Json

variable {text rest gap : List Char} {c : Char} {inner : Enclosure} {outer around : List Enclosure}
  {fresh : Bool}

/-! ## One step -/

/-- Passes over one more value of an array, or over one more key and value of an object. -/
def skipItem (inner : Enclosure) (outer : List Enclosure) (text : List Char) :
    Except Fault (List Char) :=
  match inner with
  | .list => skipValue (.list :: outer) text
  | .object =>
    match skipKey text with
    | .error e => .error e
    | .ok rest => skipValue (.object :: outer) rest

/-- One step of passing over a value, by the character behind the blanks. -/
theorem skipValue_eq (around : List Enclosure) (h : skipBlanks text = c :: rest) :
    skipValue around text =
      if c = '[' then skipRest (.list :: around) true rest
      else if c = '{' then skipRest (.object :: around) true rest
      else
        match skipScalar c rest with
        | .error e => .error e
        | .ok rest => skipRest around false rest := by
  rw [skipValue]
  split
  next hnil =>
    rw [h] at hnil
    cases hnil
  next hcons =>
    rw [h] at hcons
    cases hcons
    congr 2
    split <;> simp only [*]

/-- One step inside an array or an object, by the character behind the blanks. -/
theorem skipRest_eq (h : skipBlanks text = c :: rest) :
    skipRest (inner :: outer) fresh text =
      if c = ',' ∧ !fresh then skipItem inner outer rest
      else if c = inner.close then skipRest outer false rest
      else if !fresh then .error (.behind inner.noComma (c :: rest))
      else skipItem inner outer (c :: rest) := by
  rw [skipRest]
  split
  next hnil =>
    rw [h] at hnil
    cases hnil
  next hcons =>
    rw [h] at hcons
    cases hcons
    cases inner with
    | list => rfl
    | object =>
      simp only [skipItem]
      congr 1
      · split <;> simp only [*]
      · congr 2
        split <;> simp only [*]

/-- A value that is no array and no object is passed over in one step. -/
theorem skipValue_scalar (hblank : isBlank c = false) (hlist : c ≠ '[') (hobject : c ≠ '{')
    (h : skipScalar c text = .ok rest) :
    skipValue around (c :: text) = skipRest around false rest := by
  rw [skipValue_eq around (skipBlanks_cons hblank text), if_neg hlist, if_neg hobject, h]

/-- A gap in front of a value is passed over. -/
theorem skipValue_gap (hgap : IsGap gap) (h : skipBlanks text = c :: rest) :
    skipValue around (gap ++ text) = skipValue around text := by
  rw [skipValue_eq around h, skipValue_eq around ((skipBlanks_gap hgap text).trans h)]

/-- A gap in front of a colon is passed over. -/
theorem readColon_gap (h : IsGap gap) (rest : List Char) :
    readColon (gap ++ ':' :: rest) = .ok rest := by
  rw [readColon, skipBlanks_gap h, skipBlanks_cons (by decide)]
  rfl

/-- A spelled key is passed over together with its colon and the gaps around it. -/
theorem skipKey_spelled {front key back : List Char} {pieces : List Piece} (hfront : IsGap front)
    (hkey : SpellsPieces key pieces) (hback : IsGap back) (rest : List Char) :
    skipKey (front ++ '"' :: (key ++ '"' :: (back ++ ':' :: rest))) = .ok rest := by
  rw [skipKey, skipBlanks_gap hfront, skipBlanks_cons (by decide)]
  dsimp only
  rw [if_pos rfl, skipString_spelled hkey]
  exact readColon_gap hback rest

/-! ## What stands behind a value -/

/-- What closes an array or an object is a mark. -/
theorem isMark_close (inner : Enclosure) : IsMark inner.close := by
  cases inner
  · exact .inr (.inl rfl)
  · exact .inr (.inr rfl)

/-- A gap behind a value is passed over with what stands behind the gap. -/
theorem skipRest_gap (hgap : IsGap gap) (hc : IsMark c) (rest : List Char) :
    skipRest (inner :: outer) false (gap ++ c :: rest) =
      skipRest (inner :: outer) false (c :: rest) := by
  have hmark := skipBlanks_cons hc.isBlank_eq_false rest
  rw [skipRest_eq hmark, skipRest_eq ((skipBlanks_gap hgap _).trans hmark)]

/-- Behind a comma comes the next item. -/
theorem skipRest_comma (inner : Enclosure) (outer : List Enclosure) (rest : List Char) :
    skipRest (inner :: outer) false (',' :: rest) = skipItem inner outer rest := by
  rw [skipRest_eq (skipBlanks_cons (by decide) rest), if_pos (by decide)]

/-- The closing mark, behind a gap, leads back out. -/
theorem skipRest_close (hgap : IsGap gap) (fresh : Bool) (rest : List Char) :
    skipRest (inner :: outer) fresh (gap ++ inner.close :: rest) = skipRest outer false rest := by
  have hclose := skipBlanks_cons (isMark_close inner).isBlank_eq_false rest
  have hcomma : inner.close ≠ ',' := by cases inner <;> decide
  rw [skipRest_eq ((skipBlanks_gap hgap _).trans hclose), if_neg fun h => hcomma h.1, if_pos rfl]

/-! ## Any value -/

/-- How the reader goes on behind a part. -/
def Skips : Part → List Char → Prop
  | .value _, text => ∀ around rest, EndsValue rest →
    skipValue around (text ++ rest) = skipRest around false rest
  | .element _, text => ∀ inner outer c rest, IsMark c →
    skipValue (inner :: outer) (text ++ c :: rest) = skipRest (inner :: outer) false (c :: rest)
  | .member _, text => ∀ outer c rest, IsMark c →
    skipItem .object outer (text ++ c :: rest) = skipRest (.object :: outer) false (c :: rest)
  | .elements _, text => ∀ outer rest,
    skipItem .list outer (text ++ Enclosure.list.close :: rest) = skipRest outer false rest
  | .members _, text => ∀ outer rest,
    skipItem .object outer (text ++ Enclosure.object.close :: rest) = skipRest outer false rest

/-- The first item of an enclosure is passed over as the others are. -/
theorem skipRest_fresh (h : skipBlanks text = c :: rest) (hblank : isBlank c = false)
    (hclose : c ≠ inner.close) :
    skipRest (inner :: outer) true text = skipItem inner outer text := by
  have hself := skipBlanks_cons hblank rest
  rw [skipRest_eq h, if_neg (by simp), if_neg hclose, if_neg (by simp)]
  cases inner with
  | list =>
    simp only [skipItem]
    rw [skipValue_eq _ hself, skipValue_eq _ h]
  | object =>
    simp only [skipItem, skipKey]
    rw [hself, h]

/-- What stands between the brackets of an enclosure is passed over from its first item on. -/
theorem skipRest_items {part : Part} (h : Spells part text)
    (hitems : skipItem inner outer (text ++ inner.close :: rest) = skipRest outer false rest) :
    skipRest (inner :: outer) true (text ++ inner.close :: rest) = skipRest outer false rest := by
  obtain ⟨c, left, hstart, hblank, hlist, hobject⟩ := h.exists_skipBlanks (inner.close :: rest)
  have hclose : c ≠ inner.close := by
    cases inner with
    | list => exact hlist
    | object => exact hobject
  exact (skipRest_fresh hstart hblank hclose).trans hitems

/-- A minus begins a number. -/
theorem skipScalar_minus (rest : List Char) :
    skipScalar '-' rest = (readNumber .badNumber true rest).map Prod.snd :=
  rfl

/-- A digit begins a number. -/
theorem skipScalar_digit (h : c.isDigit = true) (rest : List Char) :
    skipScalar c rest = (readNumber .badNumber false (c :: rest)).map Prod.snd := by
  have hne : c ≠ 'n' ∧ c ≠ 't' ∧ c ≠ 'f' ∧ c ≠ '"' ∧ c ≠ '-' :=
    ⟨ne_of_isDigit h (by decide), ne_of_isDigit h (by decide), ne_of_isDigit h (by decide),
      ne_of_isDigit h (by decide), ne_of_isDigit h (by decide)⟩
  rw [skipScalar, if_neg hne.1, if_neg hne.2.1, if_neg hne.2.2.1, if_neg hne.2.2.2.1,
    if_neg hne.2.2.2.2, if_pos h]

/-- A number is passed over as far as it goes. -/
theorem skipScalar_number (h : IsNumber (c :: text)) (hrest : EndsValue rest) :
    skipScalar c (text ++ rest) = .ok rest := by
  generalize hall : c :: text = all at h
  cases h with | @parts _ whole fraction power _ hminus hwhole hfraction hpower =>
  rcases hminus with rfl | rfl
  · obtain ⟨number, hread⟩ := readNumber_append .badNumber false hwhole hfraction hpower hrest
    obtain ⟨d, digits, rfl⟩ := List.exists_cons_of_ne_nil hwhole.ne_nil
    have hc : c = d := (List.cons.inj hall).1
    have htext : text = digits ++ (fraction ++ power) := (List.cons.inj hall).2
    rw [skipScalar_digit (hc ▸ hwhole.isDigit d List.mem_cons_self), hc, htext,
      List.append_assoc, List.append_assoc, ← List.cons_append, hread]
    rfl
  · obtain ⟨number, hread⟩ := readNumber_append .badNumber true hwhole hfraction hpower hrest
    have hc : c = '-' := (List.cons.inj hall).1
    have htext : text = whole ++ (fraction ++ power) := (List.cons.inj hall).2
    rw [hc, skipScalar_minus, htext, List.append_assoc, List.append_assoc, hread]
    rfl

/-- By induction on the grammar: what is still open around a part stays as it is. -/
theorem Spells.skips {part : Part} (h : Spells part text) : Skips part text := by
  -- what an enclosure skips follows from what its items skip, and so on to the leaves
  induction h with
  | null =>
    intro around rest _
    exact skipValue_scalar (by decide) (by decide) (by decide) (keyword_append _ rest)
  | yes =>
    intro around rest _
    exact skipValue_scalar (by decide) (by decide) (by decide) (keyword_append _ rest)
  | no =>
    intro around rest _
    exact skipValue_scalar (by decide) (by decide) (by decide) (keyword_append _ rest)
  | number h =>
    intro around rest hrest
    obtain ⟨c, tail, rfl, hc⟩ := h.exists_head
    have hscalar := skipScalar_number h hrest
    rcases hc with rfl | hdigit
    · exact skipValue_scalar (by decide) (by decide) (by decide) hscalar
    · exact skipValue_scalar (isBlank_eq_false_of_isDigit hdigit) (ne_of_isDigit hdigit (by decide))
        (ne_of_isDigit hdigit (by decide)) hscalar
  | string h =>
    intro around rest _
    rw [List.cons_append, List.append_assoc]
    exact skipValue_scalar (by decide) (by decide) (by decide) (skipString_spelled h rest)
  | emptyArray h =>
    intro around rest _
    rw [List.cons_append, List.append_assoc, skipValue_eq around (skipBlanks_cons (by decide) _),
      if_pos rfl]
    exact skipRest_close h true rest
  | array h ih =>
    intro around rest _
    rw [List.cons_append, List.append_assoc, skipValue_eq around (skipBlanks_cons (by decide) _),
      if_pos rfl]
    exact skipRest_items h (ih around rest)
  | emptyObject h =>
    intro around rest _
    rw [List.cons_append, List.append_assoc, skipValue_eq around (skipBlanks_cons (by decide) _),
      if_neg (by decide), if_pos rfl]
    exact skipRest_close h true rest
  | object h ih =>
    intro around rest _
    rw [List.cons_append, List.append_assoc, skipValue_eq around (skipBlanks_cons (by decide) _),
      if_neg (by decide), if_pos rfl]
    exact skipRest_items h (ih around rest)
  | element hfront h hback ih =>
    intro inner outer c rest hc
    obtain ⟨start, left, hstart, -⟩ := h.exists_skipBlanks (_ ++ c :: rest)
    rw [List.append_assoc, List.append_assoc, skipValue_gap hfront hstart,
      ih _ _ (endsValue_gap hback (endsValue_mark hc rest)), skipRest_gap hback hc]
  | lastElement _ ih =>
    intro outer rest
    rw [skipItem, ih _ _ _ _ (isMark_close .list)]
    exact skipRest_close isGap_nil false rest
  | moreElements _ _ ih hrest =>
    intro outer rest
    rw [List.append_assoc, skipItem, List.cons_append, ih _ _ _ _ (.inl rfl), skipRest_comma]
    exact hrest outer rest
  | member hfront hkey hback _ ih =>
    intro outer c rest hc
    simp only [List.append_assoc, List.cons_append, skipItem]
    rw [skipKey_spelled hfront hkey hback]
    exact ih .object outer c rest hc
  | lastMember _ ih =>
    intro outer rest
    rw [ih _ _ _ (isMark_close .object)]
    exact skipRest_close isGap_nil false rest
  | moreMembers _ _ ih hrest =>
    intro outer rest
    rw [List.append_assoc, List.cons_append, ih _ _ _ (.inl rfl), skipRest_comma]
    exact hrest outer rest

end StudentRoster.Json
