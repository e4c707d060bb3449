import CommentTasks.Encoding.Utf8
import CommentTasks.Note.Section

/-!
# Line ends and blanks at the end

Reading a document turns every line end into a line feed. A text is a front of what it is turned
into exactly if it holds no carriage return, and trimming its end commutes with it.
-/

namespace CommentTasks

namespace Utf8

@[simp] theorem unifyLineEnds_nil : unifyLineEnds [] = [] := rfl

theorem unifyLineEnds_cons {c : Char} {t : Text} (h : c = '\r' → t.head? ≠ some '\n') :
    unifyLineEnds (c :: t) = (if c = '\r' then '\n' else c) :: unifyLineEnds t := by
  rw [unifyLineEnds]
  intro r hc hr
  exact h hc (by rw [hr]; rfl)

@[simp] theorem unifyLineEnds_eq_nil_iff {t : Text} : unifyLineEnds t = [] ↔ t = [] := by
  fun_cases unifyLineEnds t <;> simp

theorem unifyLineEnds_append {a : Text} (h : '\r' ∉ a) (b : Text) :
    unifyLineEnds (a ++ b) = a ++ unifyLineEnds b := by
  induction a with
  | nil => rfl
  | cons c a ih =>
    rw [List.mem_cons, not_or] at h
    have hc : c ≠ '\r' := fun e => h.1 e.symm
    rw [List.cons_append, unifyLineEnds_cons (fun e => absurd e hc), if_neg hc, ih h.2]
    rfl

theorem unifyLineEnds_of_not_mem {t : Text} (h : '\r' ∉ t) : unifyLineEnds t = t := by
  simpa using unifyLineEnds_append h []

theorem unifyLineEnds_append_return {a : Text} (h : '\r' ∉ a) (b : Text) :
    ∃ r, unifyLineEnds (a ++ '\r' :: b) = a ++ '\n' :: r := by
  rw [unifyLineEnds_append h]
  by_cases hb : b.head? = some '\n'
  · obtain ⟨b, rfl⟩ : ∃ r, b = '\n' :: r := List.head?_eq_some_iff.1 hb
    exact ⟨unifyLineEnds b, rfl⟩
  · exact ⟨unifyLineEnds b, by rw [unifyLineEnds_cons fun _ => hb, if_pos rfl]⟩

/-- A text is a front of what its lines are turned into, with anything behind it, exactly if it
holds no carriage return. -/
theorem isPrefix_unifyLineEnds_append_iff (t rest : Text) :
    t <+: unifyLineEnds t ++ rest ↔ '\r' ∉ t := by
  constructor
  · intro hp hm
    obtain ⟨a, b, ht, ha⟩ := List.eq_append_cons_of_mem hm
    obtain ⟨r, hr⟩ := unifyLineEnds_append_return ha b
    rw [ht, hr, List.append_assoc, List.prefix_append_right_inj, List.cons_append,
      List.cons_prefix_cons] at hp
    exact absurd hp.1 (by decide)
  · intro h
    rw [unifyLineEnds_of_not_mem h]
    exact List.prefix_append t rest

end Utf8

namespace Text

theorem trimRight_cons (c : Char) (t : Text) :
    trimRight (c :: t) = if trimRight t = [] ∧ isBlank c then [] else c :: trimRight t := by
  unfold trimRight
  rw [List.reverse_cons, List.dropWhile_append]
  by_cases h : t.reverse.dropWhile isBlank = []
  · by_cases hc : isBlank c <;> simp [h, hc]
  · simp [h]

theorem trimRight_isPrefix (t : Text) : trimRight t <+: t := by
  unfold trimRight
  rw [← List.reverse_suffix, List.reverse_reverse]
  exact List.dropWhile_suffix isBlank

theorem trimRight_unifyLineEnds (t : Text) :
    trimRight (Utf8.unifyLineEnds t) = Utf8.unifyLineEnds (trimRight t) := by
  fun_induction Utf8.unifyLineEnds t with
  | case1 => rfl
  | case2 rest ih =>
    have hn : isBlank '\n' := by decide
    have hr : isBlank '\r' := by decide
    rw [trimRight_cons, trimRight_cons '\r', trimRight_cons '\n', ih]
    by_cases h : trimRight rest = []
    · simp [h, hn, hr]
    · simp [h, Utf8.unifyLineEnds]
  | case3 c rest hpair ih =>
    have hb : isBlank (if c = '\r' then '\n' else c) = isBlank c := by
      split
      · next hc => rw [hc]; decide
      · rfl
    rw [trimRight_cons, trimRight_cons c, ih, hb]
    simp only [Utf8.unifyLineEnds_eq_nil_iff]
    split
    · rfl
    · -- what is left of the rest begins as the rest does, so no pair comes into being
      refine (Utf8.unifyLineEnds_cons fun hc hh => ?_).symm
      obtain ⟨r, hr⟩ := List.head?_eq_some_iff.1 hh
      obtain ⟨s, hs⟩ := trimRight_isPrefix rest
      exact hpair (r ++ s) hc (by rw [← hs, hr, List.cons_append])

end Text

end CommentTasks
