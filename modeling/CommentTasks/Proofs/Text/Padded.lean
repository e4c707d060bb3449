import CommentTasks.Proofs.Text.Decimal
import Mathlib.Algebra.Ring.Nat
import Mathlib.Data.Char
import Mathlib.Data.List.Lex
import Mathlib.Tactic.Tauto

/-!
# Numbers of a fixed width

With zeros in front up to one width, numbers have texts of one length, and these are in the order of
the numbers: `ofNatPadded_lt_iff`. So texts that begin with such numbers are compared by the numbers
first (`ofNatPadded_append_lt_iff`).
-/

namespace CommentTasks.Text

/-- Behind fronts of one length, texts are compared only if the fronts are the same. -/
theorem append_lt_append_iff {a b s s' : Text} (h : a.length = b.length) :
    a ++ s < b ++ s' ↔ a < b ∨ a = b ∧ s < s' := by
  induction a generalizing b with
  | nil =>
    obtain rfl : b = [] := List.length_eq_zero_iff.1 h.symm
    simp
  | cons c a ih =>
    cases b with
    | nil => cases h
    | cons d b =>
      rw [List.cons_append, List.cons_append, List.cons_lt_cons_iff, List.cons_lt_cons_iff,
        ih (Nat.succ.inj h), List.cons.injEq]
      tauto

theorem ofNatPadded_succ {w : Nat} (hw : 0 < w) (n : Nat) :
    ofNatPadded (w + 1) n = ofNatPadded w (n / 10) ++ [(n % 10).digitChar] := by
  unfold ofNatPadded ofNat
  by_cases hn : n < 10
  · have hzero : n / 10 = 0 := Nat.div_eq_of_lt hn
    obtain ⟨v, rfl⟩ := Nat.exists_eq_add_of_lt hw
    rw [hzero, Nat.toDigits_of_lt_base hn, Nat.toDigits_zero, Nat.mod_eq_of_lt hn]
    simp [List.replicate_succ']
  · rw [Nat.toDigits_of_base_le (by decide) (Nat.not_lt.1 hn)]
    simp

theorem valueOf_ofNatPadded (w n : Nat) : valueOf 10 (ofNatPadded w n) = n := by
  have hzeros (k : Nat) : valueOf 10 (List.replicate k '0') = 0 := by
    induction k with
    | zero => rfl
    | succ k ih => exact ih
  calc
    valueOf 10 (ofNatPadded w n) = valueOf 10 (ofNat n) := by
      rw [ofNatPadded, valueOf, List.foldl_append, ← valueOf, hzeros]
      rfl
    _ = n := valueOf_ofNat n

theorem ofNatPadded_injective (w : Nat) : Function.Injective (ofNatPadded w) := by
  intro m n h
  rw [← valueOf_ofNatPadded w m, h, valueOf_ofNatPadded]

variable {w m n : Nat}

/-- With zeros in front the digits in any base have the width, if it is enough for them. -/
theorem length_padded {base : Nat} (hbase : 1 < base) (hw : 0 < w) (hn : n < base ^ w) :
    (List.replicate (w - (Nat.toDigits base n).length) '0' ++ Nat.toDigits base n).length = w := by
  have hlength : (Nat.toDigits base n).length ≤ w := (Nat.length_toDigits_le_iff hbase hw).2 hn
  rw [List.length_append, List.length_replicate]
  omega

theorem length_ofNatPadded (hw : 0 < w) (hn : n < 10 ^ w) : (ofNatPadded w n).length = w :=
  length_padded (by decide) hw hn

theorem length_hexPadded (hw : 0 < w) (hn : n < 16 ^ w) : (hexPadded w n).length = w :=
  length_padded (by decide) hw hn

theorem digitChar_lt_iff (hm : m < 10) (hn : n < 10) : [m.digitChar] < [n.digitChar] ↔ m < n := by
  rw [List.cons_lt_cons_iff, Char.lt_def, UInt32.lt_iff_toNat_lt]
  show m.digitChar.toNat < n.digitChar.toNat ∨ _ ↔ m < n
  rw [Nat.toNat_digitChar_of_lt_ten hm, Nat.toNat_digitChar_of_lt_ten hn]
  simp

/-- **Numbers of one width are in the order of their texts.** -/
theorem ofNatPadded_lt_iff (hw : 0 < w) (hm : m < 10 ^ w) (hn : n < 10 ^ w) :
    ofNatPadded w m < ofNatPadded w n ↔ m < n := by
  obtain ⟨v, rfl⟩ : ∃ v, w = v + 1 := ⟨w - 1, by omega⟩
  clear hw
  induction v generalizing m n with
  | zero =>
    have hm : m < 10 := by simpa using hm
    have hn : n < 10 := by simpa using hn
    rw [ofNatPadded, ofNatPadded, ofNat, ofNat, Nat.toDigits_of_lt_base hm, Nat.toDigits_of_lt_base hn]
    simpa using digitChar_lt_iff hm hn
  | succ v ih =>
    have hm' : m / 10 < 10 ^ (v + 1) := by omega
    have hn' : n / 10 < 10 ^ (v + 1) := by omega
    have hlength : (ofNatPadded (v + 1) (m / 10)).length = (ofNatPadded (v + 1) (n / 10)).length := by
      rw [length_ofNatPadded v.succ_pos hm', length_ofNatPadded v.succ_pos hn']
    rw [ofNatPadded_succ v.succ_pos, ofNatPadded_succ v.succ_pos, append_lt_append_iff hlength,
      ih hm' hn', (ofNatPadded_injective (v + 1)).eq_iff,
      digitChar_lt_iff (Nat.mod_lt m (by decide)) (Nat.mod_lt n (by decide))]
    omega

/-- Texts that begin with numbers of one width are compared by the numbers first. -/
theorem ofNatPadded_append_lt_iff (hw : 0 < w) (hm : m < 10 ^ w) (hn : n < 10 ^ w) (s s' : Text) :
    ofNatPadded w m ++ s < ofNatPadded w n ++ s' ↔ m < n ∨ m = n ∧ s < s' := by
  rw [append_lt_append_iff (by rw [length_ofNatPadded hw hm, length_ofNatPadded hw hn]),
    ofNatPadded_lt_iff hw hm hn, (ofNatPadded_injective w).eq_iff]

end CommentTasks.Text
