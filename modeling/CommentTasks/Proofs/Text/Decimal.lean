import CommentTasks.Text.Basic
import Mathlib.Data.List.Basic
import Mathlib.Data.Nat.Init

/-!
# Decimal numbers in texts

The digits of a number determine it: reading them gives the number back (`valueOf_ofNat`), and
different integers have different texts (`ofInt_injective`).
-/

namespace CommentTasks.Text

theorem isAsciiDigit_eq_isDigit (c : Char) : isAsciiDigit c = c.isDigit := by
  unfold isAsciiDigit Char.isDigit
  rfl

theorem digitValue?_of_isDigit {c : Char} (h : c.isDigit) :
    digitValue? c = some (c.toNat - '0'.toNat) := by
  have h : '0' ≤ c ∧ c ≤ '9' := by
    simpa [← isAsciiDigit_eq_isDigit, isAsciiDigit] using h
  rw [digitValue?, if_pos h]
  rfl

theorem isDigit_of_mem_ofNat {n : Nat} {c : Char} (h : c ∈ ofNat n) : c.isDigit :=
  Nat.isDigit_of_mem_toDigits (by decide) (by decide) h

theorem ofNat_ne_nil (n : Nat) : ofNat n ≠ [] := Nat.toDigits_ne_nil

/-- The value of digits, as the core library computes it. -/
theorem valueOf_eq_ofDigitChars {digits : Text} (h : ∀ c ∈ digits, c.isDigit) :
    valueOf 10 digits = Nat.ofDigitChars 10 digits 0 := by
  unfold valueOf Nat.ofDigitChars
  refine List.foldl_ext _ _ 0 fun n c hc => ?_
  rw [digitValue?_of_isDigit (h c hc), Option.getD_some, Nat.mul_comm n]

@[simp] theorem valueOf_ofNat (n : Nat) : valueOf 10 (ofNat n) = n := by
  rw [valueOf_eq_ofDigitChars fun _ => isDigit_of_mem_ofNat]
  exact Nat.ofDigitChars_ten_toDigits

theorem ofNat_injective : Function.Injective ofNat := by
  intro m n h
  rw [← valueOf_ofNat m, h, valueOf_ofNat]

theorem head_ofNat_eq_zero_iff {n : Nat} : (ofNat n).head? = some '0' ↔ n = 0 := by
  induction n using Nat.strong_induction_on with
  | _ n ih =>
    unfold ofNat at ih ⊢
    by_cases h : n < 10
    · rw [Nat.toDigits_of_lt_base h]
      simp
    · rw [Nat.toDigits_of_base_le (by decide) (by omega), List.head?_append,
        Option.or_of_isSome (by simp), ih (n / 10) (by omega)]
      omega

theorem minus_not_mem_ofNat (n : Nat) : '-' ∉ ofNat n := by
  intro h
  exact absurd (isDigit_of_mem_ofNat h) (by decide)

theorem ofInt_injective : Function.Injective ofInt := by
  have sign (m n : Nat) : ofNat m ≠ '-' :: ofNat n := by
    intro h
    exact minus_not_mem_ofNat m (h ▸ List.mem_cons_self)
  intro i j h
  cases i <;> cases j <;> simp only [ofInt] at h
  · rw [ofNat_injective h]
  · exact absurd h (sign _ _)
  · exact absurd h.symm (sign _ _)
  · rw [Nat.succ.inj (ofNat_injective (List.cons.inj h).2)]

/-- The text of an integer is of digits, but for its sign. -/
theorem not_mem_ofInt {c : Char} (hdigit : c.isDigit = false) (hminus : c ≠ '-') (i : Int) :
    c ∉ ofInt i := by
  have digits (n : Nat) : c ∉ ofNat n := by
    intro h
    rw [isDigit_of_mem_ofNat h] at hdigit
    cases hdigit
  cases i with
  | ofNat n => exact digits n
  | negSucc n =>
    rw [ofInt, List.mem_cons, not_or]
    exact ⟨hminus, digits _⟩

theorem colon_not_mem_ofInt (i : Int) : ':' ∉ ofInt i := not_mem_ofInt (by decide) (by decide) i

end CommentTasks.Text
