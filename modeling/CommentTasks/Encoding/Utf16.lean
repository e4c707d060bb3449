import CommentTasks.Encoding.Bytes
import CommentTasks.Text.Basic

/-!
# UTF-16

A byte order mark tells the order of the two bytes of a unit; without one the low byte stands first.
-/

namespace CommentTasks.Utf16

/-- Which of the two bytes of a unit stands first. -/
inductive ByteOrder
  | littleEndian
  | bigEndian
  deriving DecidableEq, Repr

/-- The unit of two bytes. -/
def ByteOrder.unit (order : ByteOrder) (a b : UInt8) : Nat :=
  match order with
  | .littleEndian => a.toNat + 0x100 * b.toNat
  | .bigEndian => 0x100 * a.toNat + b.toNat

/-- The units of bytes; half a unit at the end is refused. -/
def units? (order : ByteOrder) : Bytes → Option (List Nat)
  | [] => some []
  | [_] => none
  | a :: b :: rest => (units? order rest).map (order.unit a b :: ·)

/-- The text of units; half a surrogate pair is refused. -/
def ofUnits? : List Nat → Option Text
  | [] => some []
  | [u] => if 0xD800 ≤ u ∧ u ≤ 0xDFFF then none else some [Char.ofNat u]
  | u :: v :: rest =>
    if 0xD800 ≤ u ∧ u ≤ 0xDBFF then
      if 0xDC00 ≤ v ∧ v ≤ 0xDFFF then
        (ofUnits? rest).map (Char.ofNat (0x10000 + (u - 0xD800) * 0x400 + (v - 0xDC00)) :: ·)
      else none
    else if 0xDC00 ≤ u ∧ u ≤ 0xDFFF then none
    else (ofUnits? (v :: rest)).map (Char.ofNat u :: ·)

/-- The byte order that a mark at the front tells, and the bytes behind the mark. -/
def splitMark : Bytes → ByteOrder × Bytes
  | 0xFF :: 0xFE :: rest => (.littleEndian, rest)
  | 0xFE :: 0xFF :: rest => (.bigEndian, rest)
  | bytes => (.littleEndian, bytes)

/-- The text that the bytes encode. -/
def decode? (bytes : Bytes) : Option Text :=
  let (order, rest) := splitMark bytes
  (units? order rest).bind ofUnits?

end CommentTasks.Utf16
