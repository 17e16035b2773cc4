import StudentRoster.Listing
import StudentRoster.Proofs.Text.Quoted
import StudentRoster.Roster

/-!
# Failures name what they are about

A line that is no student and a search by a major that is too short are told by messages that repeat
a text from outside, which may hold anything. The message is a plain line nevertheless, and the text
can be read back from it, so that messages of one kind about different texts differ
(`messages_identify_input`).
-/

set_option autoImplicit false

namespace StudentRoster

open Text

/-- The text that the message of a fault repeats, if it repeats one. -/
def LineFault.field? : LineFault → Option String
  | fieldCount _ => none
  | badId field | badGpa field => some field

namespace Failure

variable {fault : LineFault} {field : String}

/-! ## Lines -/

/-- What is said about a faulty line is one plain line. -/
theorem isPlainLine_message (fault : LineFault) : IsPlainLine fault.message := by
  cases fault with
  | fieldCount found =>
    exact (isPlainLine_of_isVisibleAscii (by decide)).append (isPlainLine_toString found)
  | badId field =>
    exact (isPlainLine_of_isVisibleAscii (by decide)).append (isPlainLine_quote field)
  | badGpa field =>
    exact (isPlainLine_of_isVisibleAscii (by decide)).append (isPlainLine_quote field)

/-- What a faulty line repeats is one of its words. -/
theorem mem_words_of_field? {line : String} (h : Student.ofLine line = .error fault)
    (hfield : fault.field? = some field) : field.toList ∈ words line.toList := by
  rw [Student.ofLine] at h
  generalize words line.toList = fields at h ⊢
  unfold Student.ofWords at h
  split at h
  next id first last gpa major =>
    split at h
    · obtain rfl := Except.error.inj h
      obtain rfl := Option.some.inj hfield
      simp
    · obtain rfl := Except.error.inj h
      obtain rfl := Option.some.inj hfield
      simp
    · cases h
  next =>
    obtain rfl := Except.error.inj h
    cases hfield

/-- From what is said about a faulty field the field can be read back. -/
theorem quotedText?_message (h : fault.field? = some field) :
    quotedText? fault.message = some field := by
  have hquoted (front : String) (hfront : '"' ∉ front.toList) :
      quotedText? (front ++ quote field) = some field := by
    have hquote := quotedText?_quote field ""
    rwa [String.append_empty, ← quotedText?_append hfront] at hquote
  cases fault with
  | fieldCount found => cases h
  | badId other =>
    obtain rfl := Option.some.inj h
    exact hquoted "invalid id " (by decide)
  | badGpa other =>
    obtain rfl := Option.some.inj h
    exact hquoted "invalid gpa " (by decide)

/-- The message about a line gives its number and the reason. -/
theorem message_badLine (number : Nat) (reason : String) :
    (badLine number reason).message =
      "Parse error on line " ++ toString number ++ ": " ++ reason :=
  rfl

/-- The message about a line is one plain line if the reason is. -/
theorem isPlainLine_badLine (number : Nat) {reason : String} (h : IsPlainLine reason) :
    IsPlainLine (badLine number reason).message := by
  have hfront : IsPlainLine "Parse error on line " := isPlainLine_of_isVisibleAscii (by decide)
  have hcolon : IsPlainLine ": " := isPlainLine_of_isVisibleAscii (by decide)
  rw [message_badLine]
  exact ((hfront.append (isPlainLine_toString number)).append hcolon).append h

/-- What stands in front of the reason of a line is a numeral and words, and quotes nothing. -/
theorem quotedText?_badLine (number : Nat) (reason : String) :
    quotedText? (badLine number reason).message = quotedText? reason := by
  have hnumeral : '"' ∉ (toString number).toList := by
    rw [Nat.toString_eq_ofList_toDigits, String.toList_ofList]
    intro hquote
    have hdigit := Nat.isDigit_of_mem_toDigits (by decide) (by decide) hquote
    exact absurd hdigit (by decide)
  rw [message_badLine]
  refine quotedText?_append ?_ reason
  simp only [String.toList_append, List.mem_append, not_or]
  exact ⟨⟨by decide, hnumeral⟩, by decide⟩

/-! ## Searches by major -/

/-- The message about a major that is too short quotes it. -/
theorem message_shortMajor (query : String) :
    (shortMajor query).message =
      "Invalid major code " ++ quote query ++ ": at least 3 characters are required" :=
  rfl

/-- The message about a major that is too short is one plain line. -/
theorem isPlainLine_shortMajor (query : String) : IsPlainLine (shortMajor query).message := by
  have hfront : IsPlainLine "Invalid major code " := isPlainLine_of_isVisibleAscii (by decide)
  have hback : IsPlainLine ": at least 3 characters are required" :=
    isPlainLine_of_isVisibleAscii (by decide)
  rw [message_shortMajor]
  exact (hfront.append (isPlainLine_quote query)).append hback

/-- From the message about a major that is too short the major can be read back. -/
theorem quotedText?_shortMajor (query : String) :
    quotedText? (shortMajor query).message = some query := by
  rw [message_shortMajor, String.append_assoc, quotedText?_append (by decide), quotedText?_quote]

/-- A search by major fails only because the major is too short. -/
theorem eq_shortMajor_of_withMajor {roster : Roster} {query : String} {failure : Failure}
    (h : roster.withMajor query = .error failure) : failure = .shortMajor query := by
  unfold Roster.withMajor at h
  split at h
  · exact (Except.error.inj h).symm
  · cases h

/-! ## Both -/

/-- Every line that is refused, under whatever number, and every search by major that is refused is
told by a plain line: one line of printable characters, without controls and with no blank but the
space. A word of the line that the message repeats can be read back from it, and so can the query.
So the reasons for refusing two ids that differ are different texts, and so are those for two
averages and for two queries. -/
theorem messages_identify_input :
    (∀ line fault, Student.ofLine line = .error fault →
      IsPlainLine fault.message ∧
      (∀ number, IsPlainLine (BadLine.failure ⟨number, fault⟩).message) ∧
      ∀ field, fault.field? = some field →
        field.toList ∈ words line.toList ∧
        quotedText? fault.message = some field ∧
        ∀ number, quotedText? (BadLine.failure ⟨number, fault⟩).message = some field) ∧
    (∀ (roster : Roster) query failure, roster.withMajor query = .error failure →
      IsPlainLine failure.message ∧ quotedText? failure.message = some query) ∧
    (∀ field other, (LineFault.badId field).message = (LineFault.badId other).message →
      field = other) ∧
    (∀ field other, (LineFault.badGpa field).message = (LineFault.badGpa other).message →
      field = other) ∧
    ∀ query other, (shortMajor query).message = (shortMajor other).message → query = other := by
  refine ⟨fun line fault hline => ⟨isPlainLine_message fault, fun number => ?_, fun field hfield =>
    ⟨mem_words_of_field? hline hfield, quotedText?_message hfield, fun number => ?_⟩⟩,
    fun roster query failure hrefused => ?_, fun field other h => ?_, fun field other h => ?_,
    fun query other h => ?_⟩
  · exact isPlainLine_badLine number (isPlainLine_message fault)
  · rw [BadLine.failure, quotedText?_badLine, quotedText?_message hfield]
  · rw [eq_shortMajor_of_withMajor hrefused]
    exact ⟨isPlainLine_shortMajor query, quotedText?_shortMajor query⟩
  · have hfield : quotedText? (LineFault.badId field).message = some field :=
      quotedText?_message rfl
    rw [h, quotedText?_message rfl] at hfield
    exact (Option.some.inj hfield).symm
  · have hfield : quotedText? (LineFault.badGpa field).message = some field :=
      quotedText?_message rfl
    rw [h, quotedText?_message rfl] at hfield
    exact (Option.some.inj hfield).symm
  · have hquery := quotedText?_shortMajor query
    rw [h, quotedText?_shortMajor] at hquery
    exact (Option.some.inj hquery).symm

/-- An id with an escape sequence, a quote, and the text of an escape in the place of an escape. -/
theorem messages_identify_input_escape :
    let id := "\x1b[2J\"\\u{7f}\x7f"
    let line := id ++ " a b 3.0 c"
    Student.ofLine line = .error (.badId id) ∧
      (LineFault.badId id).message =
        "invalid id \"\\u{1b}[2J\\\"\\\\u{7f}\\u{7f}\"" ∧
      IsPlainLine (BadLine.failure ⟨3, .badId id⟩).message ∧
      quotedText? (BadLine.failure ⟨3, .badId id⟩).message = some id := by
  intro id line
  have hline : Student.ofLine line = .error (.badId id) := by decide +kernel
  obtain ⟨-, hplain, hread⟩ := messages_identify_input.1 line _ hline
  exact ⟨hline, by decide +kernel, hplain 3, (hread id rfl).2.2 3⟩

end Failure

end StudentRoster
