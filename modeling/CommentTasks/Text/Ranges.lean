/-!
# Sets of code points as ranges

A set of code points is given by its ranges in increasing order. A look-up stops at the first range
that lies beyond the code point, so small code points are decided by the front of the list.
-/

namespace CommentTasks.Text

/-- The code point lies in one of the ranges, which are in increasing order. -/
def inRanges (n : Nat) : List (Nat × Nat) → Bool
  | [] => false
  | (first, last) :: rest => if n < first then false else n ≤ last || inRanges n rest

end CommentTasks.Text
