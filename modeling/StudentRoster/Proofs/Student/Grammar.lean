import StudentRoster.Proofs.Gpa.Spelling
import StudentRoster.Proofs.Text.Words
import StudentRoster.Student.Line

/-!
# The grammar of a line

A line describes a student when it has five words, of which the first is an id and the fourth spells
an average; names and major are taken as they stand. On any other line there is a first fault, in
the order of the number of words, the id, the average. `ofLine_grammar` says that a line is read
exactly as this grammar has it, for its words as runs between blanks.
-/

set_option autoImplicit false

namespace StudentRoster.Student

open Text

/-- A whole number of 32 bits. -/
def IsId (text : List Char) : Prop :=
  ∃ n, SpellsInteger text n ∧ -2 ^ 31 ≤ n ∧ n ≤ 2 ^ 31 - 1

/-- What five words describe: names and major are those words as they stand. -/
inductive Describes : List (List Char) → Student → Prop
  | fields {id first last gpa major : List Char} {n : Int32} {g : Gpa}
      (hid : SpellsInteger id n.toInt) (hgpa : Gpa.IsSpelled gpa g) :
      Describes [id, first, last, gpa, major]
        ⟨n, String.ofList first, String.ofList last, g, String.ofList major⟩

/-- What is wrong first with the words of a line, as it is reported. -/
inductive FirstFault : List (List Char) → String → Prop
  | fieldCount {fields : List (List Char)} (h : fields.length ≠ 5) :
      FirstFault fields ("expected 5 fields, found " ++ toString fields.length)
  | badId {id first last gpa major : List Char} (h : ¬ IsId id) :
      FirstFault [id, first, last, gpa, major] ("invalid id " ++ quote (String.ofList id))
  | badGpa {id first last gpa major : List Char} (hid : IsId id)
      (h : ¬ ∃ g, Gpa.IsSpelled gpa g) :
      FirstFault [id, first, last, gpa, major] ("invalid gpa " ++ quote (String.ofList gpa))

/-- A text is read as an id exactly when it spells the number. -/
theorem int32?_eq_some_iff {text : List Char} {id : Int32} :
    int32? text = some id ↔ SpellsInteger text id.toInt := by
  rw [← integer?_eq_some_iff, int32?]
  constructor
  · intro h
    split at h
    next n hn =>
      split at h
      next hrange =>
        cases h
        rw [hn, Int32.toInt_ofInt_of_le hrange.1 hrange.2]
      next => cases h
    next => cases h
  · intro h
    have hrange : -0x80000000 ≤ id.toInt ∧ id.toInt < 0x80000000 := ⟨id.le_toInt, id.toInt_lt⟩
    simp only [h, if_pos hrange, Int32.ofInt_toInt]

/-- The texts of ids are those that are read as one. -/
theorem isId_iff {text : List Char} : IsId text ↔ ∃ id, int32? text = some id := by
  constructor
  · rintro ⟨n, hn, hlow, hhigh⟩
    refine ⟨Int32.ofInt n, int32?_eq_some_iff.mpr ?_⟩
    rwa [Int32.toInt_ofInt_of_le hlow (by omega)]
  · rintro ⟨id, hid⟩
    have hhigh := id.toInt_lt
    exact ⟨id.toInt, int32?_eq_some_iff.mp hid, id.le_toInt, by omega⟩

/-- Fields are read as a student exactly when they describe it. -/
theorem ofWords_eq_ok_iff {fields : List (List Char)} {s : Student} :
    ofWords fields = .ok s ↔ Describes fields s := by
  constructor
  · intro h
    unfold ofWords at h
    split at h
    next id first last gpa major =>
      split at h
      next => cases h
      next => cases h
      next n g hid hgpa =>
        cases h
        exact .fields (int32?_eq_some_iff.mp hid) (Gpa.ofLiteral?_eq_some_iff.mp hgpa)
    next => cases h
  · rintro ⟨hid, hgpa⟩
    simp only [ofWords, int32?_eq_some_iff.mpr hid, Gpa.ofLiteral?_eq_some_iff.mpr hgpa]

/-- Any other number of fields than five is a fault. -/
theorem ofWords_of_length_ne {fields : List (List Char)} (h : fields.length ≠ 5) :
    ofWords fields = .error (.fieldCount fields.length) := by
  unfold ofWords
  split
  · exact absurd rfl h
  · rfl

/-- A wrong number of fields is told. -/
theorem message_fieldCount (found : Nat) :
    (LineFault.fieldCount found).message = "expected 5 fields, found " ++ toString found :=
  rfl

/-- Fields are refused exactly for the first fault that they have. -/
theorem ofWords_error_iff {fields : List (List Char)} {reason : String} :
    (ofWords fields).mapError LineFault.message = .error reason ↔ FirstFault fields reason := by
  constructor
  · intro h
    by_cases hcount : fields.length = 5
    · match fields, hcount with
      | [id, first, last, gpa, major], _ =>
        rw [ofWords] at h
        -- the id is looked at before the average, and the first fault is told
        cases hid : int32? id with
        | none =>
          simp only [hid] at h
          cases h
          exact .badId fun hgood => by simp [isId_iff, hid] at hgood
        | some n =>
          cases hgpa : Gpa.ofLiteral? gpa with
          | none =>
            simp only [hid, hgpa] at h
            cases h
            refine .badGpa (isId_iff.mpr ⟨n, hid⟩) ?_
            rintro ⟨g, hg⟩
            simp [Gpa.ofLiteral?_eq_some_iff.mpr hg] at hgpa
          | some g =>
            simp only [hid, hgpa] at h
            cases h
    · rw [ofWords_of_length_ne hcount] at h
      obtain rfl := Except.error.inj h
      rw [message_fieldCount]
      exact .fieldCount hcount
  · intro h
    cases h with
    | fieldCount h =>
      rw [ofWords_of_length_ne h, ← message_fieldCount]
      rfl
    | @badId id first last gpa major h =>
      have hid : int32? id = none := Option.eq_none_iff_forall_ne_some.mpr fun n hn =>
        h (isId_iff.mpr ⟨n, hn⟩)
      simp only [ofWords, hid]
      rfl
    | @badGpa id first last gpa major hid h =>
      obtain ⟨n, hn⟩ := isId_iff.mp hid
      have hgpa : Gpa.ofLiteral? gpa = none := Option.eq_none_iff_forall_ne_some.mpr fun g hg =>
        h ⟨g, Gpa.ofLiteral?_eq_some_iff.mp hg⟩
      simp only [ofWords, hn, hgpa]
      rfl

/-- A line has one list of words. It is read as the student that these describe and as no other, and
it is refused for their first fault and for no other. -/
theorem ofLine_grammar (line : String) :
    ∃ fields, (∀ other, HasWords line.toList other ↔ other = fields) ∧
      (∀ s, ofLine line = .ok s ↔ Describes fields s) ∧
      ∀ reason, (ofLine line).mapError LineFault.message = .error reason ↔
        FirstFault fields reason := by
  refine ⟨words line.toList, fun other => ?_, fun s => ?_, fun reason => ?_⟩
  · rw [hasWords_iff]
    exact eq_comm
  · exact ofWords_eq_ok_iff
  · exact ofWords_error_iff

end StudentRoster.Student
