import Mathlib.Data.List.TakeWhile
import StudentRoster.Text.Blank

/-!
# Words and lines of composed texts

A blank between two texts keeps their words apart (`words_append_blank`), a text without blanks is
one word, and so fields with single spaces between them are read back as they were
(`words_intercalate`). The words of any text are its maximal runs of characters that are not blank
(`hasWords_iff`). Lines that end in line feeds are read back in the same way, with an empty piece
behind them (`lines_flatMap_line`).
-/

set_option autoImplicit false

namespace StudentRoster.Text

/-! ## Words -/

/-- A field is what a line can give back as one word. -/
def IsField (field : List Char) : Prop :=
  field ≠ [] ∧ ∀ c ∈ field, isBlank c = false

instance (field : List Char) : Decidable (IsField field) :=
  @instDecidableAnd _ _ inferInstance (List.decidableBAll _ field)

/-- No text has no words. -/
theorem words_nil : words [] = [] := rfl

/-- A blank between two texts keeps their words apart. -/
theorem words_append_blank {c : Char} (hc : isBlank c = true) (front back : List Char) :
    words (front ++ c :: back) = words front ++ words back := by
  rw [words, List.splitOnP_append_cons front back hc, List.filter_append, ← words, ← words]

/-- A blank in front belongs to no word. -/
theorem words_cons_blank {c : Char} (hc : isBlank c = true) (text : List Char) :
    words (c :: text) = words text := by
  exact words_append_blank hc [] text

/-- A field is one word. -/
theorem words_of_isField {field : List Char} (h : IsField field) : words field = [field] := by
  rw [words, List.splitOnP_eq_singleton h.2]
  simp [h.1]

/-- Fields with single spaces between them are read back. -/
theorem words_intercalate (fields : List (List Char)) (h : ∀ field ∈ fields, IsField field) :
    words ([' '].intercalate fields) = fields := by
  induction fields with
  | nil => rfl
  | cons field rest ih =>
    have hfield := words_of_isField (h field (by simp))
    have hrest := ih fun other hother => h other (by simp [hother])
    cases rest with
    | nil => simpa using hfield
    | cons next rest =>
      rw [List.intercalate_cons_cons, List.append_assoc, List.singleton_append,
        words_append_blank (by decide), hfield, hrest, List.singleton_append]

/-- What stands from one character up to the next blank is a field. -/
theorem isField_takeWhile {c : Char} (hc : isBlank c = false) (rest : List Char) :
    IsField (c :: rest.takeWhile (!isBlank ·)) := by
  refine ⟨by simp, fun d hd => ?_⟩
  rcases List.mem_cons.mp hd with rfl | hd
  · exact hc
  · simpa using List.mem_takeWhile_imp hd

/-- The first word of a text that begins with no blank is what stands before its first blank. -/
theorem words_cons_of_not_blank {c : Char} (hc : isBlank c = false) (rest : List Char) :
    words (c :: rest) =
      (c :: rest.takeWhile (!isBlank ·)) :: words (rest.dropWhile (!isBlank ·)) := by
  have hfield := isField_takeWhile hc rest
  have hcut : c :: rest = (c :: rest.takeWhile (!isBlank ·)) ++ rest.dropWhile (!isBlank ·) := by
    simp
  rw [hcut]
  cases hback : rest.dropWhile (!isBlank ·) with
  | nil => rw [List.append_nil, words_of_isField hfield, words_nil]
  | cons d back =>
    have hd : isBlank d = true := by
      have := List.head?_dropWhile_not (!isBlank ·) rest
      simpa [hback] using this
    rw [words_append_blank hd, words_of_isField hfield, words_cons_blank hd, List.singleton_append]

/-- Each word is a field. -/
theorem isField_of_mem_words {text word : List Char} (h : word ∈ words text) : IsField word := by
  induction hlength : text.length using Nat.strongRecOn generalizing text with
  | ind length ih =>
    cases text with
    | nil => simp [words_nil] at h
    | cons c rest =>
      by_cases hc : isBlank c = true
      · rw [words_cons_blank hc] at h
        exact ih rest.length (by simp [← hlength]) h rfl
      · rw [Bool.not_eq_true] at hc
        rw [words_cons_of_not_blank hc] at h
        rcases List.mem_cons.mp h with rfl | h
        · exact isField_takeWhile hc rest
        · have hshort := (List.dropWhile_suffix (l := rest) (!isBlank ·)).length_le
          exact ih _ (by simp only [List.length_cons] at hlength; omega) h rfl

/-! ## Trimming -/

/-- Blanks alone have no words. -/
theorem words_eq_nil_of_blank {text : List Char} (h : ∀ c ∈ text, isBlank c = true) :
    words text = [] := by
  induction text with
  | nil => exact words_nil
  | cons c rest ih =>
    rw [words_cons_blank (h c (by simp))]
    exact ih fun d hd => h d (by simp [hd])

/-- Blanks behind a text belong to no word. -/
theorem words_append_blanks (front : List Char) {blanks : List Char}
    (h : ∀ c ∈ blanks, isBlank c = true) : words (front ++ blanks) = words front := by
  cases blanks with
  | nil => rw [List.append_nil]
  | cons c rest =>
    have hrest := words_eq_nil_of_blank fun d hd => h d (List.mem_cons_of_mem c hd)
    rw [words_append_blank (h c (by simp)), hrest, List.append_nil]

/-- Blanks in front of a text belong to no word. -/
theorem words_blanks_append {blanks : List Char} (h : ∀ c ∈ blanks, isBlank c = true)
    (back : List Char) : words (blanks ++ back) = words back := by
  induction blanks with
  | nil => rfl
  | cons c rest ih =>
    rw [List.cons_append, words_cons_blank (h c List.mem_cons_self)]
    exact ih fun d hd => h d (List.mem_cons_of_mem c hd)

/-- Without the blanks in front a text has the same words. -/
theorem words_dropWhile (text : List Char) : words (text.dropWhile isBlank) = words text := by
  induction text with
  | nil => rfl
  | cons c rest ih =>
    by_cases hc : isBlank c = true
    · rw [List.dropWhile_cons_of_pos hc, ih, words_cons_blank hc]
    · rw [List.dropWhile_cons_of_neg hc]

/-- What trimming takes off are blanks at the two ends. -/
theorem exists_trim (text : List Char) :
    ∃ front back, text = front ++ (trim text ++ back) ∧ (∀ c ∈ front, isBlank c = true) ∧
      ∀ c ∈ back, isBlank c = true := by
  have hcut : trim text ++ ((text.dropWhile isBlank).reverse.takeWhile isBlank).reverse =
      text.dropWhile isBlank := by
    rw [trim, ← List.reverse_append, List.takeWhile_append_dropWhile, List.reverse_reverse]
  refine ⟨text.takeWhile isBlank, ((text.dropWhile isBlank).reverse.takeWhile isBlank).reverse, ?_,
    fun c hc => List.mem_takeWhile_imp hc,
    fun c hc => List.mem_takeWhile_imp (List.mem_reverse.mp hc)⟩
  rw [hcut, List.takeWhile_append_dropWhile]

/-- Trimming takes the blanks off on both sides. -/
theorem trim_of_blanks {front core back : List Char} (hfront : ∀ c ∈ front, isBlank c = true)
    (hback : ∀ c ∈ back, isBlank c = true) (hcore : ∀ c ∈ core, isBlank c = false) :
    trim (front ++ (core ++ back)) = core := by
  have hkeep {text : List Char} (h : ∀ c ∈ text, isBlank c = false) :
      text.dropWhile isBlank = text := by
    cases text with
    | nil => rfl
    | cons c rest => exact List.dropWhile_cons_of_neg (by simp [h c List.mem_cons_self])
  have hnothing : back.dropWhile isBlank = [] := List.dropWhile_eq_nil_iff.mpr hback
  rw [trim, List.dropWhile_append_of_pos hfront, List.dropWhile_append, hkeep hcore, hnothing]
  cases core with
  | nil => rfl
  | cons c rest =>
    rw [List.isEmpty_cons, if_neg Bool.false_ne_true, List.reverse_append,
      List.dropWhile_append_of_pos fun d hd => hback d (List.mem_reverse.mp hd),
      hkeep fun d hd => hcore d (List.mem_reverse.mp hd), List.reverse_reverse]

/-- Trimming takes no word off. -/
theorem words_trim (text : List Char) : words (trim text) = words text := by
  obtain ⟨front, back, htext, hfront, hback⟩ := exists_trim text
  calc words (trim text) = words (front ++ (trim text ++ back)) := by
        rw [words_blanks_append hfront, words_append_blanks _ hback]
    _ = words text := by rw [← htext]

/-- A trimmed text begins as its first word does. -/
theorem head?_trim (text : List Char) : (trim text).head? = (words text).head?.bind List.head? := by
  rw [← words_dropWhile text, trim]
  cases hrest : text.dropWhile isBlank with
  | nil => rfl
  | cons c rest =>
    have hc : isBlank c = false := by
      have := List.head?_dropWhile_not isBlank text
      simpa [hrest] using this
    rw [words_cons_of_not_blank hc, List.reverse_cons, List.dropWhile_append]
    by_cases hall : (rest.reverse.dropWhile isBlank).isEmpty = true
    · simp [hall, hc]
    · simp [hall]

/-! ## Runs -/

/-- The maximal runs of characters that are not blank, in their order: each begins behind blanks and
ends where the text ends or a blank follows. -/
inductive HasWords : List Char → List (List Char) → Prop
  | blank {text : List Char} (h : ∀ c ∈ text, isBlank c = true) : HasWords text []
  | cons {blanks word rest : List Char} {ws : List (List Char)}
      (hblanks : ∀ c ∈ blanks, isBlank c = true) (hword : IsField word)
      (hend : ∀ c ∈ rest.head?, isBlank c = true) (hrest : HasWords rest ws) :
      HasWords (blanks ++ (word ++ rest)) (word :: ws)

/-- A text has no other words than those that are found. -/
theorem words_of_hasWords {text : List Char} {ws : List (List Char)} (h : HasWords text ws) :
    words text = ws := by
  induction h with
  | blank h => exact words_eq_nil_of_blank h
  | @cons blanks word rest ws hblanks hword hend _ ih =>
    rw [words_blanks_append hblanks]
    cases rest with
    | nil => rw [List.append_nil, words_of_isField hword, ← ih, words_nil]
    | cons c rest =>
      have hc : isBlank c = true := hend c rfl
      rw [words_append_blank hc, words_of_isField hword, ← words_cons_blank hc, ih,
        List.singleton_append]

/-- The words that are found are words of the text. -/
theorem hasWords_words (text : List Char) : HasWords text (words text) := by
  induction hlength : text.length using Nat.strongRecOn generalizing text with
  | ind length ih =>
    have hblanks : ∀ c ∈ text.takeWhile isBlank, isBlank c = true := by
      intro c hc
      exact List.mem_takeWhile_imp hc
    have hcut : text = text.takeWhile isBlank ++ text.dropWhile isBlank :=
      List.takeWhile_append_dropWhile.symm
    have hshort := (List.dropWhile_suffix (l := text) isBlank).length_le
    have hhead := List.head?_dropWhile_not isBlank text
    rw [← words_dropWhile text]
    generalize text.takeWhile isBlank = blanks at hblanks hcut
    generalize text.dropWhile isBlank = tail at hcut hshort hhead
    subst hcut
    cases tail with
    | nil =>
      rw [List.append_nil, words_nil]
      exact .blank hblanks
    | cons c rest =>
      have hc : isBlank c = false := by simpa using hhead
      have hback := (List.dropWhile_suffix (l := rest) (!isBlank ·)).length_le
      have hrest := ih _ (by simp only [List.length_cons] at hshort; omega)
        (rest.dropWhile (!isBlank ·)) rfl
      have hend : ∀ d ∈ (rest.dropWhile (!isBlank ·)).head?, isBlank d = true := by
        intro d hd
        have := List.head?_dropWhile_not (!isBlank ·) rest
        simpa [Option.mem_def.mp hd] using this
      have hwords := HasWords.cons hblanks (isField_takeWhile hc rest) hend hrest
      rwa [List.cons_append, List.takeWhile_append_dropWhile, ← words_cons_of_not_blank hc]
        at hwords

/-- A text has exactly one list of runs, its words. -/
theorem hasWords_iff {text : List Char} {ws : List (List Char)} :
    HasWords text ws ↔ words text = ws := by
  refine ⟨words_of_hasWords, ?_⟩
  rintro rfl
  exact hasWords_words text

/-! ## Lines -/

/-- A line feed between two texts keeps their lines apart. -/
theorem lines_append_linefeed (front back : List Char) :
    lines (front ++ '\n' :: back) = lines front ++ lines back :=
  List.splitOn_append_cons_self front back

/-- A line feed in front ends an empty line. -/
theorem lines_cons_linefeed (rest : List Char) : lines ('\n' :: rest) = [] :: lines rest :=
  lines_append_linefeed [] rest

/-- Every text has a line, if an empty one. -/
theorem lines_ne_nil (text : List Char) : lines text ≠ [] :=
  List.splitOn_ne_nil '\n' text

/-- A character that is no line feed stands at the beginning of the first line. -/
theorem exists_lines_cons {c : Char} (hc : c ≠ '\n') (rest : List Char) :
    ∃ line others, lines rest = line :: others ∧ lines (c :: rest) = (c :: line) :: others := by
  obtain ⟨line, others, hrest⟩ := List.exists_cons_of_ne_nil (lines_ne_nil rest)
  refine ⟨line, others, hrest, ?_⟩
  rw [lines, List.splitOn_cons_eq_if_modifyHead, if_neg (by simpa using hc), ← lines, hrest,
    List.modifyHead_cons]

/-- There is one line more than there are line feeds. -/
theorem length_lines (text : List Char) : (lines text).length = text.count '\n' + 1 := by
  induction text with
  | nil => rfl
  | cons c rest ih =>
    by_cases hc : c = '\n'
    · subst hc
      rw [lines_cons_linefeed, List.length_cons, ih, List.count_cons_self]
    · obtain ⟨line, others, hrest, hcons⟩ := exists_lines_cons hc rest
      rw [hrest] at ih
      rw [hcons, List.count_cons_of_ne hc, ← ih, List.length_cons, List.length_cons]

/-- No line has a line feed in it. -/
theorem linefeed_not_mem_of_mem_lines {text line : List Char} (h : line ∈ lines text) :
    '\n' ∉ line := by
  induction text generalizing line with
  | nil =>
    have hline : line = [] := List.mem_singleton.mp h
    simp [hline]
  | cons c rest ih =>
    by_cases hc : c = '\n'
    · subst hc
      rw [lines_cons_linefeed] at h
      rcases List.mem_cons.mp h with rfl | hmem
      · simp
      · exact ih hmem
    · obtain ⟨first, others, hrest, hcons⟩ := exists_lines_cons hc rest
      rw [hcons] at h
      rw [hrest] at ih
      rcases List.mem_cons.mp h with rfl | hmem
      · simp [Ne.symm hc, ih List.mem_cons_self]
      · exact ih (List.mem_cons_of_mem first hmem)

/-- A line in front of a text, with the line feed that ends it, is the first line. -/
theorem lines_line_append {line : List Char} (h : '\n' ∉ line) (rest : List Char) :
    lines (line ++ '\n' :: rest) = line :: lines rest :=
  List.splitOn_append_cons_self_of_not_mem h rest

/-- Lines that end in line feeds are read back, with an empty piece behind them. -/
theorem lines_flatMap_line {pieces : List (List Char)} (h : ∀ line ∈ pieces, '\n' ∉ line) :
    lines (pieces.flatMap fun line => line ++ ['\n']) = pieces ++ [[]] := by
  induction pieces with
  | nil => rfl
  | cons line rest ih =>
    have hrest := ih fun other hother => h other (List.mem_cons_of_mem line hother)
    rw [List.flatMap_cons, List.append_assoc, List.singleton_append,
      lines_line_append (h line (by simp)), hrest, List.cons_append]

end StudentRoster.Text
