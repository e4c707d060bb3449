import CommentTasks.Proofs.Text.Decimal
import CommentTasks.Task.Identity

/-!
# What the identity of a task says

The text behind a digest is read from the left: up to the first colon stands the path, up to the
next the line. So it says all three parts if the path has no colon.
-/

namespace CommentTasks

theorem append_colon_inj {a a' b b' : Text} (ha : ':' ∉ a) (ha' : ':' ∉ a')
    (h : a ++ ':' :: b = a' ++ ':' :: b') : a = a' ∧ b = b' := by
  induction a generalizing a' with
  | nil =>
    cases a' with
    | nil => exact ⟨rfl, (List.cons.inj h).2⟩
    | cons c a' =>
      -- the longer front would begin with the colon
      rw [(List.cons.inj h).1] at ha'
      exact absurd List.mem_cons_self ha'
  | cons c a ih =>
    cases a' with
    | nil =>
      rw [(List.cons.inj h).1] at ha
      exact absurd List.mem_cons_self ha
    | cons c' a' =>
      rw [List.mem_cons, not_or] at ha ha'
      obtain ⟨hc, h⟩ := List.cons.inj h
      obtain ⟨rfl, hb⟩ := ih ha.2 ha'.2 h
      exact ⟨by rw [hc], hb⟩

/-- The parts of an identity are known if the paths have no colon. -/
theorem identityText_injective {path path' : Text} {line line' : Int} {message message' : Text}
    (hp : ':' ∉ path) (hp' : ':' ∉ path')
    (h : identityText path line message = identityText path' line' message') :
    path = path' ∧ line = line' ∧ message = message' := by
  simp only [identityText, List.append_assoc, List.cons_append] at h
  obtain ⟨hpath, hrest⟩ := append_colon_inj hp hp' h
  have hl := Text.colon_not_mem_ofInt
  obtain ⟨hline, hmessage⟩ := append_colon_inj (hl line) (hl line') hrest
  exact ⟨hpath, Text.ofInt_injective hline, hmessage⟩

namespace Task

/-- The text that the digest of a task is made of. -/
def identity (t : Task) : Text := identityText t.path t.line t.label

end Task

end CommentTasks
