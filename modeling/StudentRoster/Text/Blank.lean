/-!
# Blanks, words and lines

A blank is a character with the Unicode property `White_Space`. A roster line is read as its
words, the maximal runs of characters that are not blank, and a listing is read as its lines,
the pieces between line feeds. `ne_nil_of_mem_words` says that a word is never empty.
-/

set_option autoImplicit false

namespace StudentRoster.Text

/-- Holds of the characters with the property `White_Space`: the tab to the carriage return, the
space, the next-line control and the seventeen wider spaces and separators beyond ASCII. -/
def isBlank (c : Char) : Bool :=
  let n := c.toNat
  (0x09 ≤ n && n ≤ 0x0D) || n == 0x20 || n == 0x85 || n == 0xA0 || n == 0x1680
    || (0x2000 ≤ n && n ≤ 0x200A) || n == 0x2028 || n == 0x2029 || n == 0x202F
    || n == 0x205F || n == 0x3000

/-- The words of a text: its maximal runs of characters that are not blank. -/
def words (text : List Char) : List (List Char) :=
  (text.splitOnP isBlank).filter (fun piece => !piece.isEmpty)

/-- The lines of a text: the pieces between its line feeds. A text that ends with a line feed has
an empty last piece. -/
def lines (text : List Char) : List (List Char) :=
  text.splitOn '\n'

/-- The text without the blanks at its two ends. -/
def trim (text : List Char) : List Char :=
  ((text.dropWhile isBlank).reverse.dropWhile isBlank).reverse

/-- The blanks of core's ASCII class are blanks here. -/
theorem isBlank_of_isWhitespace {c : Char} (h : c.isWhitespace = true) : isBlank c = true := by
  simp only [Char.isWhitespace, Bool.or_eq_true, decide_eq_true_eq] at h
  rcases h with ((rfl | rfl) | rfl) | rfl <;> decide

/-- No word is empty. -/
theorem ne_nil_of_mem_words {text word : List Char} (h : word ∈ words text) :
    word ≠ [] := by
  have := (List.mem_filter.1 h).2
  simpa using this

end StudentRoster.Text
