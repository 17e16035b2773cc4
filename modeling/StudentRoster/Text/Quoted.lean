import StudentRoster.Text.Unprintable

/-!
# Quoted texts

A text that a message repeats stands between double quotes on one line of printable characters.
A quote, a backslash and four controls have an escape of two characters, and what has no shape of
its own is written by its code point.
-/

set_option autoImplicit false

namespace StudentRoster.Text

/-- How one character is written inside the quotes. -/
def escapeChar (c : Char) : List Char :=
  match c with
  | '"' => ['\\', '"']
  | '\\' => ['\\', '\\']
  | '\t' => ['\\', 't']
  | '\r' => ['\\', 'r']
  | '\n' => ['\\', 'n']
  | '\x00' => ['\\', '0']
  | _ =>
    if isUnprintable c then ['\\', 'u', '{'] ++ Nat.toDigits 16 c.toNat ++ ['}'] else [c]

/-- The text between double quotes, each character written by its escape. -/
def quote (text : String) : String :=
  String.ofList ('"' :: text.toList.flatMap escapeChar ++ ['"'])

/-- A quoted text has its escaped characters between two quotes. -/
theorem toList_quote (text : String) :
    (quote text).toList = '"' :: text.toList.flatMap escapeChar ++ ['"'] := by
  simp [quote]

end StudentRoster.Text
