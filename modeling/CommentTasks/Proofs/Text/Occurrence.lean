import CommentTasks.Text.Basic
import Mathlib.Data.List.Infix

/-!
# Where a pattern occurs

`OccursAt pat t i` says that the pattern stands at the index `i` of the text, and
`FirstAt pat t start i` that it stands at no index between `start` and `i`. The empty pattern occurs
at every index, the end of the text included. What `breakOn?` finds behind the front of a text is
the first occurrence there, and it misses none: `firstAt_of_breakOn?`, `not_occursAt_of_breakOn?`.
-/

namespace CommentTasks.Text

/-- The pattern occurs at an index of the text. -/
def OccursAt (pat t : Text) (i : Nat) : Prop := i ≤ t.length ∧ pat <+: t.drop i

/-- `i` is the first index from `start` on at which the pattern occurs in the text. -/
structure FirstAt (pat t : Text) (start i : Nat) : Prop where
  le : start ≤ i
  occurs : OccursAt pat t i
  first : ∀ j, start ≤ j → OccursAt pat t j → i ≤ j

variable {pat t x y : Text} {start i j : Nat}

theorem FirstAt.unique (h : FirstAt pat t start i) (h' : FirstAt pat t start j) : i = j :=
  Nat.le_antisymm (h.first j h'.le h'.occurs) (h'.first i h.le h.occurs)

theorem occursAt_zero : OccursAt pat t 0 ↔ pat <+: t := by
  simp [OccursAt]

theorem occursAt_succ (c : Char) : OccursAt pat (c :: t) (i + 1) ↔ OccursAt pat t i := by
  simp [OccursAt]

theorem occursAt_append (a t : Text) (i : Nat) :
    OccursAt pat (a ++ t) (a.length + i) ↔ OccursAt pat t i := by
  unfold OccursAt
  rw [List.length_append, List.drop_length_add_append, Nat.add_le_add_iff_left]

theorem occursAt_of_eq (h : t = x ++ pat ++ y) : OccursAt pat t x.length := by
  rw [h, List.append_assoc, ← Nat.add_zero x.length, occursAt_append, occursAt_zero]
  exact List.prefix_append pat y

theorem not_prefix_of_isPrefixOf? (h : pat.isPrefixOf? t = none) : ¬pat <+: t := by
  induction pat generalizing t with
  | nil => cases h
  | cons p ps ih =>
    cases t with
    | nil => exact fun hp => absurd (List.prefix_nil.1 hp) (List.cons_ne_nil p ps)
    | cons c t =>
      rw [List.isPrefixOf?] at h
      rw [List.cons_prefix_cons]
      rintro ⟨rfl, hp⟩
      rw [if_pos (beq_self_eq_true p)] at h
      exact ih h hp

theorem not_occursAt_of_lt (h : breakOn? pat t = some (x, y)) (hi : i < x.length) :
    ¬OccursAt pat t i := by
  induction t generalizing x i with
  | nil =>
    rw [breakOn?] at h
    split at h
    · cases h
      exact absurd hi (Nat.not_lt_zero i)
    · cases h
  | cons c r ih =>
    rw [breakOn?] at h
    split at h
    · cases h
      exact absurd hi (Nat.not_lt_zero i)
    · next hp =>
      obtain ⟨⟨x, y⟩, hr, e⟩ := Option.map_eq_some_iff.1 h
      cases e
      cases i with
      | zero =>
        rw [occursAt_zero]
        exact not_prefix_of_isPrefixOf? hp
      | succ i =>
        rw [occursAt_succ]
        exact ih hr (by simpa using hi)

theorem not_occursAt_of_breakOn?_eq_none (h : breakOn? pat t = none) (i : Nat) :
    ¬OccursAt pat t i := by
  induction t generalizing i with
  | nil =>
    rw [breakOn?] at h
    split at h
    · cases h
    · next hp => exact fun ho => hp (by simpa using ho.2)
  | cons c r ih =>
    rw [breakOn?] at h
    split at h
    · cases h
    · next hp =>
      cases i with
      | zero =>
        rw [occursAt_zero]
        exact not_prefix_of_isPrefixOf? hp
      | succ i =>
        rw [occursAt_succ]
        exact ih (Option.map_eq_none_iff.1 h) i

/-- **What is found behind a front is the first occurrence there.** -/
theorem firstAt_of_breakOn? (a : Text) (h : breakOn? pat t = some (x, y)) :
    FirstAt pat (a ++ t) a.length (a.length + x.length) := by
  refine ⟨Nat.le_add_right _ _, (occursAt_append a t _).2 (occursAt_of_eq (eq_of_breakOn? h)),
    fun j hj ho => ?_⟩
  obtain ⟨k, rfl⟩ := Nat.exists_eq_add_of_le hj
  rw [occursAt_append] at ho
  exact Nat.add_le_add_left (Nat.not_lt.1 fun hk => not_occursAt_of_lt h hk ho) _

/-- **If nothing is found behind a front, the pattern does not occur there.** -/
theorem not_occursAt_of_breakOn? (a : Text) (h : breakOn? pat t = none) (hi : a.length ≤ i) :
    ¬OccursAt pat (a ++ t) i := by
  obtain ⟨k, rfl⟩ := Nat.exists_eq_add_of_le hi
  rw [occursAt_append]
  exact not_occursAt_of_breakOn?_eq_none h k

end CommentTasks.Text
