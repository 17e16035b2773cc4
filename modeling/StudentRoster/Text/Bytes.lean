/-!
# Bytes of a text

A place in a text may be given by the number of bytes in front of it, where each character takes
from one to four bytes. `takeBytes` and `dropBytes` cut a text at such a place; a place inside a
character is moved, in front of it for what is taken and behind it for what is dropped.
-/

set_option autoImplicit false

namespace StudentRoster.Text

/-- The number of bytes that a text takes. -/
def byteCount (text : List Char) : Nat :=
  text.foldr (fun c count => c.utf8Size + count) 0

/-- The characters at the front of a text that together take at most the given number of bytes. -/
def takeBytes (count : Nat) : List Char → List Char
  | [] => []
  | c :: rest =>
    if c.utf8Size ≤ count then c :: takeBytes (count - c.utf8Size) rest else []

/-- A text without the characters that begin in its first bytes, as many as given. -/
def dropBytes (count : Nat) : List Char → List Char
  | [] => []
  | c :: rest => if count = 0 then c :: rest else dropBytes (count - c.utf8Size) rest

/-- The bytes from one place of a text to another. -/
def cutBytes (start stop : Nat) (text : List Char) : List Char :=
  takeBytes (stop - start) (dropBytes start text)

/-- The bytes of a text are counted character by character. -/
theorem byteCount_cons (c : Char) (rest : List Char) :
    byteCount (c :: rest) = c.utf8Size + byteCount rest :=
  rfl

end StudentRoster.Text
