import CommentTasks.Text.Basic
import CommentTasks.Text.DigitTable

/-!
# Decimal digits of all scripts
-/

namespace CommentTasks.Text

/-- The value of a decimal digit of any script. -/
def decimalDigit? (c : Char) : Option Nat :=
  (zeroDigits.find? fun z => z ≤ c.toNat && c.toNat < z + 10).map (c.toNat - ·)

end CommentTasks.Text
