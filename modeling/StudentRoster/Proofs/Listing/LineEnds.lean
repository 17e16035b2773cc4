import Mathlib.Data.List.Forall2
import StudentRoster.Proofs.Listing.Appended

/-!
# Line ends and outer blanks

What a line says is a matter of its words, so that lines may be exchanged for others with the same
words (`ofLines_congr`). Hence a carriage return may be taken for a part of the line end or of the
line, and an empty piece behind the last line feed for a line or for none
(`ofText_eq_ofLines_endedLines`). On top is `ofText_reformatted`: line ends of two characters, one
more line feed at the end and blanks around the lines make no difference to a listing.
-/

set_option autoImplicit false

namespace StudentRoster.Listing

open Text

/-- The line with a carriage return at its end taken off. -/
def dropReturn (line : List Char) : List Char :=
  if line.getLast? = some '\r' then line.dropLast else line

/-- The lines of a text by their line ends: a line feed, or a carriage return and a line feed. What
follows the last line feed is a line, as it stands, unless it is empty. -/
def endedLines (text : List Char) : List (List Char) :=
  (lines text).dropLast.map dropReturn ++ (lines text).getLast?.toList.filter (!·.isEmpty)

/-- The text with a carriage return in front of every line feed. -/
def addReturns (text : String) : String :=
  String.ofList (text.toList.flatMap fun c => if c = '\n' then ['\r', '\n'] else [c])

/-- A run of blanks within a line. -/
def IsPadding (text : List Char) : Prop :=
  ∀ c ∈ text, isBlank c = true ∧ c ≠ '\n'

/-- What may become of a line when blanks are put at its beginning and at its end. A carriage return
at the end of the line may be counted to the line end, and the blanks stand in front of it then. -/
inductive Padded : List Char → List Char → Prop
  | around {front back : List Char} (line : List Char) (hfront : IsPadding front)
      (hback : IsPadding back) : Padded line (front ++ line ++ back)
  | beforeReturn {front back : List Char} (line : List Char) (hfront : IsPadding front)
      (hback : IsPadding back) : Padded (line ++ ['\r']) (front ++ line ++ back ++ ['\r'])

/-! ## Lines with the same words -/

/-- What a line gives depends on its words only. -/
theorem readLine_congr {line other : List Char} (h : words line = words other) :
    readLine line = readLine other := by
  rw [readLine, readLine, h]

/-- Lines may be exchanged one by one for lines with the same words. -/
theorem ofLines_congr (number : Nat) {pieces others : List (List Char)}
    (h : List.Forall₂ (fun line other => words line = words other) pieces others) :
    ofLines number pieces = ofLines number others := by
  induction h generalizing number with
  | nil => rfl
  | cons hline _ ih => rw [ofLines, ofLines, ih, readLine_congr hline]

/-- A carriage return behind a line belongs to no word. -/
theorem words_append_return (line : List Char) : words (line ++ ['\r']) = words line := by
  refine words_append_blanks line fun c hc => ?_
  rw [List.mem_singleton.mp hc]
  decide

/-- Taking a carriage return off takes nothing from a word. -/
theorem words_dropReturn (line : List Char) : words (dropReturn line) = words line := by
  rw [dropReturn]
  split
  · next hlast =>
    obtain ⟨body, rfl⟩ := List.getLast?_eq_some_iff.mp hlast
    rw [List.dropLast_concat, words_append_return]
  · rfl

/-- Blanks around a line leave its words as they are. -/
theorem Padded.words_eq {line other : List Char} (h : Padded line other) :
    words line = words other := by
  have hpadding {front back : List Char} (line : List Char) (hfront : IsPadding front)
      (hback : IsPadding back) : words (front ++ line ++ back) = words line := by
    rw [words_append_blanks _ fun c hc => (hback c hc).1,
      words_blanks_append fun c hc => (hfront c hc).1]
  cases h with
  | around line hfront hback => rw [hpadding line hfront hback]
  | beforeReturn line hfront hback =>
    rw [words_append_return, words_append_return, hpadding line hfront hback]

/-! ## Line ends -/

/-- A text is read by the lines that its line ends cut off, whichever way these are written. -/
theorem ofText_eq_ofLines_endedLines (text : String) :
    ofText text = ofLines 1 (endedLines text.toList) := by
  obtain ⟨front, last, hpieces⟩ : ∃ front last, lines text.toList = front ++ [last] :=
    ⟨_, _, (List.dropLast_concat_getLast (lines_ne_nil text.toList)).symm⟩
  have hreturns : ofLines 1 (front.map dropReturn) = ofLines 1 front := by
    refine ofLines_congr 1 ?_
    rw [List.forall₂_map_left_iff, List.forall₂_same]
    exact fun line _ => words_dropReturn line
  rw [ofText, endedLines, hpieces, List.dropLast_concat, List.getLast?_concat]
  cases last with
  | nil =>
    show ofLines 1 (front ++ [[]]) = ofLines 1 (front.map dropReturn ++ [])
    rw [ofLines_concat_nil, List.append_nil, hreturns]
  | cons c rest =>
    show ofLines 1 (front ++ [c :: rest]) = ofLines 1 (front.map dropReturn ++ [c :: rest])
    rw [ofLines_append, ofLines_append, hreturns, List.length_map]

/-- With returns put in, each line is as it was or has a return at its end. -/
theorem forall₂_lines_addReturns (text : List Char) :
    List.Forall₂ (fun line other => other = line ∨ other = line ++ ['\r']) (lines text)
      (lines (text.flatMap fun c => if c = '\n' then ['\r', '\n'] else [c])) := by
  induction text with
  | nil => exact .cons (.inl rfl) .nil
  | cons c rest ih =>
    rw [List.flatMap_cons]
    by_cases hc : c = '\n'
    · subst hc
      have hreturn : '\n' ∉ ['\r'] := by decide
      have hcut : ∀ back, lines (['\r', '\n'] ++ back) = ['\r'] :: lines back :=
        lines_line_append hreturn
      rw [if_pos rfl, hcut, lines_cons_linefeed]
      exact .cons (.inr rfl) ih
    · obtain ⟨line, others, hrest, hcons⟩ := exists_lines_cons hc rest
      rw [if_neg hc, List.singleton_append, hcons]
      rw [hrest] at ih
      generalize (rest.flatMap fun c => if c = '\n' then ['\r', '\n'] else [c]) = back at ih ⊢
      obtain ⟨line', others', hback, hcons'⟩ := exists_lines_cons hc back
      rw [hback, List.forall₂_cons] at ih
      rw [hcons']
      -- what stands in front of the first line makes no difference to its end
      refine .cons (ih.1.imp ?_ ?_) ih.2
      · rintro rfl
        rfl
      · rintro rfl
        rfl

/-! ## Blanks around lines -/

/-- Blanks around a line do not break it in two. -/
theorem Padded.linefeed_not_mem {line other : List Char} (h : Padded line other)
    (hline : '\n' ∉ line) : '\n' ∉ other := by
  have hpadding {text : List Char} (h : IsPadding text) : '\n' ∉ text :=
    fun hmem => (h '\n' hmem).2 rfl
  cases h with
  | around line hfront hback => simp [hpadding hfront, hpadding hback, hline]
  | beforeReturn line hfront hback =>
    simp only [List.mem_append, not_or] at hline
    simp [hpadding hfront, hpadding hback, hline.1]

/-- Lines with blanks around them, joined by line feeds, fall apart at the same places. -/
theorem lines_intercalate_of_padded {text : List Char} {pieces : List (List Char)}
    (h : List.Forall₂ Padded (lines text) pieces) :
    lines (['\n'].intercalate pieces) = pieces := by
  have hlinefeed : ∀ piece ∈ pieces, '\n' ∉ piece := by
    have hlines : ∀ line ∈ lines text, '\n' ∉ line := fun _ => linefeed_not_mem_of_mem_lines
    generalize lines text = whole at h hlines
    induction h with
    | nil => simp
    | cons hline _ ih =>
      rw [List.forall_mem_cons] at hlines ⊢
      exact ⟨hline.linefeed_not_mem hlines.1, ih hlines.2⟩
  have hne : pieces ≠ [] := by
    rintro rfl
    exact lines_ne_nil text (List.forall₂_nil_right_iff.mp h)
  exact List.splitOn_intercalate '\n' hlinefeed hne

/-- A listing says the same when every line feed gets a carriage return in front of it, when one
more line feed ends it, and when blanks other than line feeds are put around its lines. -/
theorem ofText_reformatted (text : String) :
    ofText (addReturns text) = ofText text ∧
      ofText (text ++ "\n") = ofText text ∧
      ∀ pieces, List.Forall₂ Padded (lines text.toList) pieces →
        ofText (String.ofList (['\n'].intercalate pieces)) = ofText text := by
  refine ⟨?_, ?_, ?_⟩
  · rw [ofText, addReturns, String.toList_ofList, ofText]
    refine (ofLines_congr 1 ((forall₂_lines_addReturns text.toList).imp ?_)).symm
    rintro line other (rfl | rfl)
    · rfl
    · exact (words_append_return line).symm
  · have hlines : lines (text ++ "\n").toList = lines text.toList ++ [[]] := by
      rw [String.toList_append]
      exact lines_append_linefeed text.toList []
    rw [ofText, hlines, ofLines_concat_nil, ofText]
  · intro pieces hpieces
    rw [ofText, String.toList_ofList, lines_intercalate_of_padded hpieces, ofText]
    exact (ofLines_congr 1 (hpieces.imp fun _ _ => Padded.words_eq)).symm

/-- Two lines, the first with blanks in front of its carriage return, the second with a next-line
control behind it. -/
theorem ofText_reformatted_two_lines :
    ofText "\t# ann\u3000\r\n1 ann\u0085" = ofText "# ann\r\n1 ann" ∧
      (ofText "# ann\r\n1 ann").badLines = [⟨2, .fieldCount 2⟩] := by
  have hfirst : Padded "# ann\r".toList "\t# ann\u3000\r".toList :=
    .beforeReturn "# ann".toList (show IsPadding ['\t'] by simp [IsPadding, isBlank])
      (show IsPadding ['\u3000'] by simp [IsPadding, isBlank])
  have hsecond : Padded "1 ann".toList "1 ann\u0085".toList :=
    .around "1 ann".toList (show IsPadding [] by simp [IsPadding])
      (show IsPadding ['\u0085'] by simp [IsPadding, isBlank])
  have hlines : lines "# ann\r\n1 ann".toList = ["# ann\r".toList, "1 ann".toList] := by decide
  have htext : String.ofList
      (['\n'].intercalate ["\t# ann\u3000\r".toList, "1 ann\u0085".toList]) =
      "\t# ann\u3000\r\n1 ann\u0085" := by decide
  obtain ⟨-, -, hblanks⟩ := ofText_reformatted "# ann\r\n1 ann"
  rw [← htext]
  refine ⟨hblanks _ ?_, by decide⟩
  rw [hlines]
  exact .cons hfirst (.cons hsecond .nil)

end StudentRoster.Listing
