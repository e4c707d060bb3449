import CommentTasks.Proofs.Text.Decimal
import CommentTasks.Text.Numeral
import Mathlib.Data.List.TakeDrop
import Mathlib.Data.List.TakeWhile

/-!
# Integers are read from their texts

The digits of an integer, behind its sign, are read as the integer, unless they are more than may be
read: `readInteger_ofInt`.
-/

namespace CommentTasks.Numeral

/-! ### The steps of reading -/

theorem toAscii_of_lt {t : Text} (h : ∀ c ∈ t, c.toNat < 128) : toAscii t = t :=
  if_pos (by simpa using h)

theorem dropBaseName_ten (t : Text) : dropBaseName 10 t = t := by
  unfold dropBaseName
  split
  · exact if_neg (by simp [baseLetter?])
  · rfl

theorem isDigit_iff {c : Char} : c.isDigit ↔ 48 ≤ c.toNat ∧ c.toNat ≤ 57 := by
  simp only [Char.isDigit, Bool.and_eq_true, decide_eq_true_eq]
  exact Iff.rfl

theorem isDigitOf_ten {c : Char} (h : c.isDigit) : isDigitOf 10 c = true := by
  have hc := isDigit_iff.1 h
  have hzero : '0'.toNat = 48 := rfl
  rw [isDigitOf, Text.digitValue?_of_isDigit h]
  simp only [decide_eq_true_eq]
  omega

theorem ne_low_line {c : Char} (h : c.isDigit) : c ≠ '_' := by
  rintro rfl
  exact absurd h (by decide)

theorem isPadding_eq_false {c : Char} (h : c.isDigit) : isPadding c = false := by
  have hc := isDigit_iff.1 h
  refine Bool.eq_false_iff.2 fun hp => ?_
  rw [isPadding, Bool.or_eq_true, Bool.and_eq_true, decide_eq_true_eq, decide_eq_true_eq] at hp
  rcases hp with hp | ⟨-, hp⟩
  · rw [beq_iff_eq] at hp
    subst hp
    exact absurd h (by decide)
  · have hp : c.toNat ≤ 13 := hp
    omega

theorem splitSign_of_isDigit {c : Char} (h : c.isDigit) (rest : Text) :
    splitSign (c :: rest) = (false, c :: rest) := by
  unfold splitSign
  split
  · next e =>
    obtain ⟨rfl, -⟩ := List.cons.inj e
    exact absurd h (by decide)
  · next e =>
    obtain ⟨rfl, -⟩ := List.cons.inj e
    exact absurd h (by decide)
  · rfl

/-- A text is read as the digits behind its sign. -/
theorem readInteger_of_splitSign {t digits : Text} {negative : Bool} (ht : toAscii t = t)
    (hp : t.dropWhile isPadding = t) (hs : splitSign t = (negative, digits)) (hne : digits ≠ [])
    (hd : ∀ c ∈ digits, c.isDigit) (hl : digits.length ≤ maxDigits) :
    readInteger 10 t = .ok (if negative then -(Text.valueOf 10 digits : Int)
      else Text.valueOf 10 digits) := by
  have hspan : digits.span (fun c => isDigitOf 10 c || c == '_') = (digits, []) := by
    have hall : ∀ c ∈ digits, (isDigitOf 10 c || c == '_') = true := fun c hc => by
      rw [isDigitOf_ten (hd c hc), Bool.true_or]
    rw [List.span_eq_takeWhile_dropWhile, List.takeWhile_eq_self_iff.2 hall,
      List.dropWhile_eq_nil_iff.2 hall]
  have hspaced : wellSpaced digits = true := by
    have hone : digits.splitOn '_' = [digits] :=
      List.splitOnP_eq_singleton fun c hc => by simpa using ne_low_line (hd c hc)
    rw [wellSpaced, hone]
    simpa using hne
  have hfilter : digits.filter (· ≠ '_') = digits :=
    List.filter_eq_self.2 fun c hc => by simpa using ne_low_line (hd c hc)
  have hcount : digits.countP (· ≠ '_') = digits.length := by
    rw [List.countP_eq_length_filter, hfilter]
  simp only [readInteger, ht, hp, hs, dropBaseName_ten, hspan, hspaced, hcount, hfilter]
  rw [if_neg (by simp), if_neg (by omega), if_neg (by simp [dropPaddingRight])]

/-- **An integer is read from its text**, unless it has too many digits. -/
theorem readInteger_ofInt {i : Int} (h : (Text.ofNat i.natAbs).length ≤ maxDigits) :
    readInteger 10 (Text.ofInt i) = .ok i := by
  have hdigit (n : Nat) : ∀ c ∈ Text.ofNat n, c.isDigit := fun _ => Text.isDigit_of_mem_ofNat
  have hascii (n : Nat) : ∀ c ∈ Text.ofNat n, c.toNat < 128 := fun c hc => by
    have := isDigit_iff.1 (hdigit n c hc)
    omega
  cases i with
  | ofNat n =>
    obtain ⟨c, rest, hc⟩ := List.exists_cons_of_ne_nil (Text.ofNat_ne_nil n)
    have hfirst : c.isDigit := hdigit n c (hc ▸ List.mem_cons_self)
    have hpad : (Text.ofNat n).dropWhile isPadding = Text.ofNat n := by
      rw [hc, List.dropWhile_cons_of_neg (by simp [isPadding_eq_false hfirst])]
    have hsign : splitSign (Text.ofNat n) = (false, Text.ofNat n) := by
      rw [hc, splitSign_of_isDigit hfirst]
    have hread := readInteger_of_splitSign (toAscii_of_lt (hascii n)) hpad hsign
      (Text.ofNat_ne_nil n) (hdigit n) h
    rw [Text.valueOf_ofNat] at hread
    exact hread
  | negSucc n =>
    have ht : ∀ c ∈ '-' :: Text.ofNat (n + 1), c.toNat < 128 :=
      List.forall_mem_cons.2 ⟨by decide, hascii (n + 1)⟩
    have hread := readInteger_of_splitSign (toAscii_of_lt ht)
      (List.dropWhile_cons_of_neg (by decide)) rfl (Text.ofNat_ne_nil (n + 1)) (hdigit (n + 1)) h
    rw [Text.valueOf_ofNat] at hread
    exact hread

end CommentTasks.Numeral
