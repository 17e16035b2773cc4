import StudentRoster.Gpa
import StudentRoster.Text.RealNumeral

/-!
# Literals of averages

An average is spelled by the numeral of a real number. The literal denotes the single precision
number nearest to the exact value of the numeral.
-/

set_option autoImplicit false

namespace StudentRoster.Gpa

open Text

/-- The average nearest to the number of a numeral. -/
def ofNumeral : RealNumeral → Gpa
  | .infinity negative => infinity negative
  | .nan negative => { nan with negative := negative }
  | .decimal negative digits exponent => ofDecimal negative digits exponent

/-- The average that a literal denotes. -/
def ofLiteral? (text : List Char) : Option Gpa :=
  (RealNumeral.ofText? text).map ofNumeral

end StudentRoster.Gpa
