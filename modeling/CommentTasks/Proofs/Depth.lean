import CommentTasks.Host
import CommentTasks.Proofs.Except

/-!
# Computations with room for nested calls

A computation that comes to a result with some room may come to the same result without a limit.
This is so if each of its steps is such a computation, and going one call deeper keeps it.
-/

namespace CommentTasks

universe u

variable {ε α β : Type u}

/-- What is computed with some room is computed in the same way without a limit. -/
def KeepsUnbounded (compute : Depth → Except ε α) : Prop :=
  ∀ room x, compute room = .ok x → compute none = .ok x

variable {compute : Depth → Except ε α}

theorem keepsUnbounded_const (x : Except ε α) : KeepsUnbounded fun _ => x := fun _ _ => id

theorem KeepsUnbounded.bind {next : Depth → α → Except ε β} (h : KeepsUnbounded compute)
    (hn : ∀ a, KeepsUnbounded fun room => next room a) :
    KeepsUnbounded fun room => compute room >>= next room := by
  intro room x hx
  obtain ⟨a, ha, hx⟩ := bind_eq_ok_iff.1 hx
  exact bind_eq_ok_iff.2 ⟨a, h room a ha, hn a room x hx⟩

theorem KeepsUnbounded.map (h : KeepsUnbounded compute) (f : α → β) :
    KeepsUnbounded fun room => (compute room).map f := by
  intro room x hx
  obtain ⟨a, ha, hx⟩ := map_eq_ok_iff.1 hx
  exact map_eq_ok_iff.2 ⟨a, h room a ha, hx⟩

theorem KeepsUnbounded.down (h : KeepsUnbounded compute) (e : ε) : KeepsUnbounded fun room =>
    match room.down? with
    | none => .error e
    | some room => compute room := by
  intro room x hx
  cases hroom : room.down? with
  | none =>
    simp only [hroom] at hx
    cases hx
  | some inner =>
    simp only [hroom] at hx
    exact h inner x hx

/-- Where every item is computed in the same way, so is the whole list. -/
theorem keepsUnbounded_mapM {γ : Type u} {compute : Depth → γ → Except ε α}
    (h : ∀ a, KeepsUnbounded fun room => compute room a) (items : List γ) :
    KeepsUnbounded fun room => items.mapM (compute room) := by
  induction items with
  | nil => exact keepsUnbounded_const _
  | cons a rest ih =>
    simp only [List.mapM_cons]
    exact (h a).bind fun _ => ih.bind fun _ => keepsUnbounded_const _

end CommentTasks
