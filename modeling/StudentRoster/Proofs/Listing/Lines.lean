import StudentRoster.Listing
import StudentRoster.Proofs.Text.Words

/-!
# Every line of a listing is accounted for

A content line is one that is neither blank nor a comment. `ofText_eq` says that a text is read by
its content lines alone, each trimmed and taken by itself: the good ones are the students and the
faulty ones, with their numbers, the bad lines.
-/

set_option autoImplicit false

namespace StudentRoster.Listing

open Text

/-- Whether a line has something to say: it is not blank, and what it begins with is no number
sign. -/
def isContent (line : List Char) : Bool :=
  match trim line with
  | [] => false
  | c :: _ => c != '#'

/-- The content lines of a text with their numbers, counted from 1 over all lines. -/
def contentLines (text : String) : List (List Char × Nat) :=
  ((lines text.toList).zipIdx 1).filter fun entry => isContent entry.1

/-- What a content line says. -/
def parseLine (line : List Char) : Except LineFault Student :=
  Student.ofLine (String.ofList (trim line))

/-- The student of a content line, if it is one. -/
def goodLine? (entry : List Char × Nat) : Option Student :=
  match parseLine entry.1 with
  | .ok student => some student
  | .error _ => none

/-- The fault of a content line, if it has one. -/
def faultyLine? (entry : List Char × Nat) : Option BadLine :=
  match parseLine entry.1 with
  | .ok _ => none
  | .error fault => some ⟨entry.2, fault⟩

/-- The students of the content lines that parse. -/
def goodLines (text : String) : List Student := (contentLines text).filterMap goodLine?

/-- The content lines that do not parse. -/
def faultyLines (text : String) : List BadLine := (contentLines text).filterMap faultyLine?

/-- A line is read when it has something to say, and then as its trimmed text. -/
theorem readLine_eq (line : List Char) :
    readLine line = if isContent line then some (parseLine line) else none := by
  have hhead := head?_trim line
  rw [readLine, isContent, parseLine, Student.ofLine, String.toList_ofList, words_trim]
  cases hwords : words line with
  | nil =>
    have htrim : trim line = [] := by
      rw [hwords] at hhead
      exact List.head?_eq_none_iff.mp hhead
    simp [htrim]
  | cons word rest =>
    have hmem : word ∈ words line := by simp [hwords]
    obtain ⟨c, back, hword⟩ := List.exists_cons_of_ne_nil (ne_nil_of_mem_words hmem)
    rw [hwords, hword] at hhead
    obtain ⟨tail, htrim⟩ := List.head?_eq_some_iff.mp hhead
    by_cases hc : c = '#' <;> simp [htrim, hword, hc]

/-- Lines are read by their content lines, from whatever number on. -/
theorem ofLines_eq (number : Nat) (pieces : List (List Char)) :
    ofLines number pieces =
      ⟨((pieces.zipIdx number).filter fun entry => isContent entry.1).filterMap goodLine?,
        ((pieces.zipIdx number).filter fun entry => isContent entry.1).filterMap faultyLine?⟩ := by
  induction pieces generalizing number with
  | nil => rfl
  | cons line rest ih =>
    rw [ofLines, ih, readLine_eq, List.zipIdx_cons, List.filter_cons]
    by_cases h : isContent line = true
    · cases hparse : parseLine line with
      | ok student => simp [h, hparse, goodLine?, faultyLine?]
      | error fault => simp [h, hparse, goodLine?, faultyLine?]
    · simp [h]

/-- A listing is told line by line: the lines that give a student and those that are at fault. -/
theorem ofText_eq (text : String) : ofText text = ⟨goodLines text, faultyLines text⟩ :=
  ofLines_eq 1 _

/-- Every content line is good or faulty, and none is both. -/
theorem length_contentLines (text : String) :
    (contentLines text).length = (faultyLines text).length + (goodLines text).length := by
  rw [faultyLines, goodLines]
  induction contentLines text with
  | nil => rfl
  | cons entry rest ih =>
    rw [List.filterMap_cons, List.filterMap_cons, List.length_cons, ih, faultyLine?, goodLine?]
    cases parseLine entry.1 with
    | ok student =>
      simp only [List.length_cons]
      omega
    | error fault =>
      simp only [List.length_cons]
      omega

/-- Faulty lines come in the order of their numbers. -/
theorem pairwise_number_faultyLines (text : String) :
    ((faultyLines text).map (·.number)).Pairwise (· < ·) := by
  have hzip : ((lines text.toList).zipIdx 1).Pairwise fun a b => a.2 < b.2 := by
    rw [List.pairwise_iff_getElem]
    intro i j hi hj hij
    simp only [List.getElem_zipIdx]
    omega
  have hcontent : (contentLines text).Pairwise fun a b => a.2 < b.2 := hzip.filter _
  have hnumber {entry : List Char × Nat} {line : BadLine} (h : faultyLine? entry = some line) :
      line.number = entry.2 := by
    unfold faultyLine? at h
    split at h
    · cases h
    · cases h
      rfl
  rw [List.pairwise_map, faultyLines, List.pairwise_filterMap]
  refine hcontent.imp ?_
  intro a b hab first hfirst second hsecond
  rw [hnumber hfirst, hnumber hsecond]
  exact hab

end StudentRoster.Listing
