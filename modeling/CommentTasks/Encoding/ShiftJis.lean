import CommentTasks.Encoding.Bytes
import CommentTasks.Encoding.ShiftJisTable
import CommentTasks.Text.Basic

/-!
# Shift-JIS

The encoding of Japanese text in one or two bytes for a character, with the extensions of the
Windows code page.
-/

namespace CommentTasks.ShiftJis

/-- The character of a byte that stands alone. -/
def single? (b : Nat) : Option Char :=
  if b ≤ 0x80 then some (Char.ofNat b)
  else if b = 0xA0 then some '\uf8f0'
  else if 0xA1 ≤ b ∧ b ≤ 0xDF then some (Char.ofNat (0xFF61 + (b - 0xA1)))
  else if 0xFD ≤ b then some (Char.ofNat (0xF8F1 + (b - 0xFD)))
  else none

/-- The place of a trail byte in the row of its lead byte. -/
def trailIndex? (b : Nat) : Option Nat :=
  if 0x40 ≤ b ∧ b ≤ 0x7E then some (b - 0x40)
  else if 0x80 ≤ b ∧ b ≤ 0xFC then some (b - 0x41)
  else none

/-- The character of two bytes. The lead bytes `0xF0` to `0xF9` are left to private use. -/
def double? (lead trail : Nat) : Option Char := do
  let i ← trailIndex? trail
  if 0xF0 ≤ lead ∧ lead ≤ 0xF9 then some (Char.ofNat (0xE000 + 188 * (lead - 0xF0) + i))
  else
    let row ← Encoding.shiftJisRows.lookup lead
    let c ← (row.flatMap String.toList)[i]?
    if c = '\ufffd' then none else some c

/-- The text that the bytes encode. -/
def decode? : Bytes → Option Text
  | [] => some []
  | [b] => (single? b.toNat).map ([·])
  | a :: b :: rest =>
    match single? a.toNat with
    | some c => (decode? (b :: rest)).map (c :: ·)
    | none =>
      match double? a.toNat b.toNat with
      | some c => (decode? rest).map (c :: ·)
      | none => none

end CommentTasks.ShiftJis
