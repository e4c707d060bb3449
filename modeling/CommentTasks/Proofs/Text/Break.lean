import CommentTasks.Text.Blank
import Mathlib.Data.List.Basic

/-!
# Where a delimiter first occurs

A delimiter that does not hold a character cannot lie across it. So its first occurrence in a text
with such a character in the middle is the first one in front of the character or, if there is none,
the first one behind it; and blanks at the ends of a text do not move what a delimiter without
blanks separates.
-/

namespace CommentTasks.Text

variable {pat a b x y : Text} {c : Char}

theorem isPrefixOf?_append_cons (h : c ∉ pat) (a b : Text) :
    pat.isPrefixOf? (a ++ c :: b) = (pat.isPrefixOf? a).map (· ++ c :: b) := by
  induction pat generalizing a with
  | nil => simp [List.isPrefixOf?]
  | cons p ps ih =>
    rw [List.mem_cons, not_or] at h
    cases a with
    | nil =>
      have hp : (p == c) = false := by simpa using fun e : p = c => h.1 e.symm
      simp [List.isPrefixOf?, hp]
    | cons d a =>
      rw [List.cons_append, List.isPrefixOf?, List.isPrefixOf?, ih h.2]
      split <;> rfl

theorem breakOn?_append_cons_of_eq_some (h : c ∉ pat) (ha : breakOn? pat a = some (x, y)) :
    breakOn? pat (a ++ c :: b) = some (x, y ++ c :: b) := by
  induction a generalizing x with
  | nil =>
    rw [breakOn?] at ha
    split at ha
    · next hp =>
      cases ha
      rw [List.nil_append, breakOn?, hp]
      rfl
    · cases ha
  | cons d a ih =>
    rw [List.cons_append, breakOn?, ← List.cons_append, isPrefixOf?_append_cons h]
    rw [breakOn?] at ha
    split at ha
    · next hp =>
      cases ha
      rw [hp]
      rfl
    · next hp =>
      obtain ⟨⟨x', y'⟩, hx, e⟩ := Option.map_eq_some_iff.1 ha
      cases e
      rw [hp, Option.map_none, ih hx]
      rfl

/-- If there is none in front of the character, the first occurrence is the first one behind it. -/
theorem breakOn?_append_cons_of_eq_none (h : c ∉ pat) (ha : breakOn? pat a = none) (b : Text) :
    breakOn? pat (a ++ c :: b) = (breakOn? pat b).map fun p => (a ++ c :: p.1, p.2) := by
  induction a with
  | nil =>
    have hne : pat ≠ [] := by
      rintro rfl
      cases ha
    have hp : pat.isPrefixOf? (c :: b) = none := by
      rw [← List.nil_append (c :: b), isPrefixOf?_append_cons h]
      cases pat with
      | nil => exact absurd rfl hne
      | cons => rfl
    rw [List.nil_append, breakOn?, hp]
    rfl
  | cons d a ih =>
    rw [breakOn?] at ha
    split at ha
    · cases ha
    · next hp =>
      rw [List.cons_append, breakOn?, ← List.cons_append, isPrefixOf?_append_cons h, hp,
        Option.map_none]
      rw [Option.map_eq_none_iff] at ha
      simp only [ih ha, Option.map_map]
      rfl

@[simp] theorem breakOn?_nil (hne : pat ≠ []) : breakOn? pat [] = none := if_neg hne

theorem breakOn?_cons_of_not_mem (hne : pat ≠ []) (h : c ∉ pat) (b : Text) :
    breakOn? pat (c :: b) = (breakOn? pat b).map fun p => (c :: p.1, p.2) :=
  breakOn?_append_cons_of_eq_none h (breakOn?_nil hne) b

/-- Characters that a delimiter does not hold do not move it when they are put in front. -/
theorem breakOn?_append_left (hne : pat ≠ []) (h : ∀ c ∈ a, c ∉ pat) (b : Text) :
    breakOn? pat (a ++ b) = (breakOn? pat b).map fun p => (a ++ p.1, p.2) := by
  induction a with
  | nil => simp
  | cons c a ih =>
    rw [List.cons_append, breakOn?_cons_of_not_mem hne (h c List.mem_cons_self),
      ih fun d hd => h d (List.mem_cons_of_mem _ hd), Option.map_map]
    rfl

theorem breakOn?_eq_none_of_disjoint (hne : pat ≠ []) (h : ∀ c ∈ a, c ∉ pat) :
    breakOn? pat a = none := by
  have ha := breakOn?_append_left hne h []
  rwa [List.append_nil, breakOn?_nil hne] at ha

theorem breakOn?_append_right (hne : pat ≠ []) (h : ∀ c ∈ b, c ∉ pat) (a : Text) :
    breakOn? pat (a ++ b) = (breakOn? pat a).map fun p => (p.1, p.2 ++ b) := by
  cases b with
  | nil => simp
  | cons c b =>
    have hc := h c List.mem_cons_self
    cases ha : breakOn? pat a with
    | none =>
      have hb := breakOn?_eq_none_of_disjoint hne fun d hd => h d (List.mem_cons_of_mem _ hd)
      rw [breakOn?_append_cons_of_eq_none hc ha, hb]
      rfl
    | some p => exact breakOn?_append_cons_of_eq_some hc ha

end CommentTasks.Text
