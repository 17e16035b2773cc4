import StudentRoster.Proofs.Listing.Lines

/-!
# Listings one behind the other

The lines of a text stay together when another text stands in front of it, so long as what stands
in front ends its last line: they are only counted on from there. On top is `ofText_composes`: a
text is read as its parts are, one behind the other, and lines that say nothing may be put between
the parts, which moves the numbers behind them and nothing else.
-/

set_option autoImplicit false

namespace StudentRoster

/-- The same line with `k` more lines in front of it. -/
def BadLine.shift (k : Nat) (line : BadLine) : BadLine :=
  { line with number := line.number + k }

namespace Listing

open Text

instance : Append Listing where
  append first second := ⟨first.students ++ second.students, first.badLines ++ second.badLines⟩

/-- What a listing says with `k` more lines in front of it. -/
def shift (k : Nat) (listing : Listing) : Listing :=
  { listing with badLines := listing.badLines.map (BadLine.shift k) }

/-- The number of line feeds in a text. -/
def lineFeeds (text : String) : Nat :=
  text.toList.count '\n'

/-- A text behind which a new line begins: it is empty, or its last character is a line feed. -/
def EndsLine (text : String) : Prop :=
  ∀ c ∈ text.toList.getLast?, c = '\n'

/-- A text all of whose lines are blank or comments. -/
def SaysNothing (text : String) : Prop :=
  ∀ line ∈ lines text.toList, isContent line = false

/-- Listings are put together student by student and note by note. -/
theorem append_def (first second : Listing) :
    first ++ second =
      ⟨first.students ++ second.students, first.badLines ++ second.badLines⟩ := rfl

/-- An empty listing in front adds nothing. -/
theorem nil_append (listing : Listing) : (⟨[], []⟩ : Listing) ++ listing = listing := rfl

/-- An empty listing behind adds nothing. -/
theorem append_nil (listing : Listing) : listing ++ (⟨[], []⟩ : Listing) = listing := by
  rw [append_def, List.append_nil, List.append_nil]

/-- The order in which line numbers are moved makes no difference. -/
theorem shift_shift (k m : Nat) (listing : Listing) :
    (listing.shift m).shift k = (listing.shift k).shift m := by
  simp only [shift, List.map_map, Listing.mk.injEq, true_and]
  refine List.map_congr_left fun line _ => ?_
  simp only [Function.comp_apply, BadLine.shift]
  rw [Nat.add_right_comm]

/-! ## Lines -/

/-- Lines in two parts are read part by part, the second from where the first ends. -/
theorem ofLines_append (number : Nat) (front back : List (List Char)) :
    ofLines number (front ++ back) =
      ofLines number front ++ ofLines (number + front.length) back := by
  simp only [ofLines_eq, append_def, List.zipIdx_append, List.filter_append, List.filterMap_append]

/-- An empty piece behind the last line feed counts as a line or as none, which is all the same. -/
theorem ofLines_concat_nil (number : Nat) (pieces : List (List Char)) :
    ofLines number (pieces ++ [[]]) = ofLines number pieces := by
  rw [ofLines_append]
  exact append_nil _

/-- Lines counted from further on make the same listing with greater line numbers. -/
theorem ofLines_add (number k : Nat) (pieces : List (List Char)) :
    ofLines (number + k) pieces = (ofLines number pieces).shift k := by
  induction pieces generalizing number with
  | nil => rfl
  | cons line rest ih =>
    have hrest := ih (number + 1)
    rw [Nat.add_right_comm] at hrest
    rw [ofLines, ofLines, hrest]
    cases readLine line with
    | none => rfl
    | some what => cases what <;> rfl

/-- Lines without content make an empty listing. -/
theorem ofLines_of_isContent_eq_false (number : Nat) {pieces : List (List Char)}
    (h : ∀ line ∈ pieces, isContent line = false) : ofLines number pieces = ⟨[], []⟩ := by
  have hnone : (pieces.zipIdx number).filter (fun entry => isContent entry.1) = [] := by
    rw [List.filter_eq_nil_iff]
    intro entry hentry
    simp [h entry.1 (List.fst_mem_of_mem_zipIdx hentry)]
  rw [ofLines_eq, hnone]
  rfl

/-! ## Texts -/

/-- A text that ends its last line is whole lines, one for each of its line feeds, and leaves the
lines of what stands behind it as they are. -/
theorem exists_lines_of_endsLine {text : String} (h : EndsLine text) :
    ∃ pieces : List (List Char), pieces.length = lineFeeds text ∧
      ∀ back, lines (text.toList ++ back) = pieces ++ lines back := by
  rw [EndsLine] at h
  rw [lineFeeds]
  cases hlast : text.toList.getLast? with
  | none =>
    have hempty : text.toList = [] := List.getLast?_eq_none_iff.mp hlast
    refine ⟨[], by simp [hempty], ?_⟩
    intro back
    simp [hempty]
  | some c =>
    obtain ⟨front, htext⟩ := List.getLast?_eq_some_iff.mp hlast
    have hc : c = '\n' := h c hlast
    subst hc
    refine ⟨lines front, ?_, ?_⟩
    · rw [length_lines, htext, List.count_append, List.count_singleton_self]
    · intro back
      rw [htext, List.append_assoc, List.singleton_append, lines_append_linefeed]

/-- A text behind one that ends with its line is read on its own, with greater line numbers. -/
theorem ofText_append {a : String} (ha : EndsLine a) (b : String) :
    ofText (a ++ b) = ofText a ++ (ofText b).shift (lineFeeds a) := by
  obtain ⟨pieces, hlength, hlines⟩ := exists_lines_of_endsLine ha
  have hwhole : ofText a = ofLines 1 pieces := by
    have halone := hlines []
    rw [List.append_nil] at halone
    rw [ofText, halone]
    exact ofLines_concat_nil 1 pieces
  rw [hwhole, ofText, String.toList_append, hlines, ofLines_append, hlength, ofLines_add, ofText]

/-- A text of blank lines and comments makes an empty listing. -/
theorem ofText_of_saysNothing {c : String} (h : SaysNothing c) : ofText c = ⟨[], []⟩ :=
  ofLines_of_isContent_eq_false 1 h

/-- Behind a text that ends its last line, another text says what it says alone, its bad lines
numbered on by the line feeds in front of them and their faults unchanged. Blank lines and comments
between the two add nothing, take no student away and only move the numbers behind them. -/
theorem ofText_composes {a : String} (ha : EndsLine a) (b : String) :
    ofText (a ++ b) = ofText a ++ (ofText b).shift (lineFeeds a) ∧
      ∀ c, EndsLine c → SaysNothing c →
        (ofText (a ++ c ++ b)).students = (ofText (a ++ b)).students ∧
        ofText (a ++ c ++ b) =
          ofText a ++ ((ofText b).shift (lineFeeds a)).shift (lineFeeds c) := by
  refine ⟨ofText_append ha b, ?_⟩
  intro c hc hnothing
  have hbetween : ofText (a ++ c ++ b) =
      ofText a ++ ((ofText b).shift (lineFeeds a)).shift (lineFeeds c) := by
    rw [String.append_assoc, ofText_append ha, ofText_append hc, ofText_of_saysNothing hnothing,
      nil_append, shift_shift]
  refine ⟨?_, hbetween⟩
  rw [hbetween, ofText_append ha]
  rfl

/-- Two lines between the second and the third: the fault of the third is that of line 5 then. -/
theorem ofText_composes_comment_between :
    (ofText ("# roster\n1 ann\n" ++ "2 bob lee x csc\n3 cy wu 3 art")).badLines =
        [⟨2, .fieldCount 2⟩, ⟨3, .badGpa "x"⟩] ∧
      (ofText ("# roster\n1 ann\n" ++ "\n # more\n" ++ "2 bob lee x csc\n3 cy wu 3 art")).badLines =
        [⟨2, .fieldCount 2⟩, ⟨5, .badGpa "x"⟩] := by
  have hfront : EndsLine "# roster\n1 ann\n" := by simp [EndsLine]
  have hbetween : EndsLine "\n # more\n" := by simp [EndsLine]
  have hnothing : SaysNothing "\n # more\n" := by
    rw [SaysNothing]
    decide
  have hone : (ofText "# roster\n1 ann\n").badLines = [⟨2, .fieldCount 2⟩] := by decide
  have htwo : (ofText "2 bob lee x csc\n3 cy wu 3 art").badLines = [⟨1, .badGpa "x"⟩] := by
    decide
  obtain ⟨hcomposes, hinsert⟩ := ofText_composes hfront "2 bob lee x csc\n3 cy wu 3 art"
  obtain ⟨-, hmoved⟩ := hinsert _ hbetween hnothing
  rw [hcomposes, hmoved]
  simp only [append_def, shift, hone, htwo]
  exact ⟨rfl, rfl⟩

end Listing

end StudentRoster
