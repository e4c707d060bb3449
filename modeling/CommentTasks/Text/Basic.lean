/-!
# Texts

A text is the list of its code points. This module holds the few operations on plain lists that
the rest of the library shares: looking for the first occurrence of a delimiter, and text forms of
numbers.
-/

namespace CommentTasks

/-- A text is the list of its code points. -/
abbrev Text := List Char

namespace Text

theorem eq_append_of_isPrefixOf? {pat t rest : Text} (h : pat.isPrefixOf? t = some rest) :
    t = pat ++ rest := by
  induction pat generalizing t with
  | nil => exact Option.some.inj h
  | cons a p ih =>
    cases t with
    | nil => cases h
    | cons c r =>
      have h : (if a == c then p.isPrefixOf? r else none) = some rest := h
      split at h
      · next e => rw [← beq_iff_eq.1 e, List.cons_append, ih h]
      · cases h

/-- The text before and the text after the first occurrence of `pat`. -/
def breakOn? (pat : Text) : Text → Option (Text × Text)
  | [] => if pat = [] then some ([], []) else none
  | c :: r =>
    match pat.isPrefixOf? (c :: r) with
    | some rest => some ([], rest)
    | none => (breakOn? pat r).map fun (before, rest) => (c :: before, rest)

/-- Nothing of the text is lost. -/
theorem eq_of_breakOn? {pat t before rest : Text} (h : breakOn? pat t = some (before, rest)) :
    t = before ++ pat ++ rest := by
  induction t generalizing before with
  | nil =>
    unfold breakOn? at h
    split at h <;> simp_all
  | cons c r ih =>
    unfold breakOn? at h
    split at h
    · next x hx =>
      obtain ⟨rfl, rfl⟩ := Prod.mk.inj (Option.some.inj h)
      simpa using eq_append_of_isPrefixOf? hx
    · obtain ⟨⟨b, x⟩, hx, e⟩ := Option.map_eq_some_iff.1 h
      obtain ⟨rfl, rfl⟩ := Prod.mk.inj e
      simpa using ih hx

/-- `pat` occurs somewhere in the text. -/
def occursIn (pat t : Text) : Bool := (breakOn? pat t).isSome

/-- The texts one after the other, with `sep` between neighbours. -/
abbrev join (sep : String) (ts : List Text) : Text := sep.toList.intercalate ts

/-- The decimal digits of a natural number. -/
def ofNat (n : Nat) : Text := Nat.toDigits 10 n

/-- The decimal digits of an integer, behind a minus if it is negative. -/
def ofInt : Int → Text
  | .ofNat n => ofNat n
  | .negSucc n => '-' :: ofNat (n + 1)

/-- The decimal digits of `n`, with zeros in front up to the given width. -/
def ofNatPadded (width n : Nat) : Text :=
  let digits := ofNat n
  List.replicate (width - digits.length) '0' ++ digits

/-- The hexadecimal digits of `n`, with zeros in front up to the given width. -/
def hexPadded (width n : Nat) : Text :=
  let digits := Nat.toDigits 16 n
  List.replicate (width - digits.length) '0' ++ digits

/-- The value of a digit below 36, with letters in either case. -/
def digitValue? (c : Char) : Option Nat :=
  if '0' ≤ c ∧ c ≤ '9' then some (c.toNat - 48)
  else if 'a' ≤ c ∧ c ≤ 'z' then some (c.toNat - 87)
  else if 'A' ≤ c ∧ c ≤ 'Z' then some (c.toNat - 55)
  else none

/-- The character is one of the ten digits `0` to `9`. -/
def isAsciiDigit (c : Char) : Bool := '0' ≤ c && c ≤ '9'

/-- The character is a hexadecimal digit. -/
def isHexDigit (c : Char) : Bool :=
  isAsciiDigit c || ('a' ≤ c && c ≤ 'f') || ('A' ≤ c && c ≤ 'F')

/-- The value of a row of digits in a base; characters that are no digits count as zero. -/
def valueOf (base : Nat) (digits : Text) : Nat :=
  digits.foldl (fun n c => n * base + (digitValue? c).getD 0) 0

end Text

end CommentTasks
