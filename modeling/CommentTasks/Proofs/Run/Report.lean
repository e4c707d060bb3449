import CommentTasks.Proofs.Json.RoundTrip
import CommentTasks.Run.Report

/-!
# The report that is printed

A report that is printed as a document is read back: the note, the number of the new tasks, and the
tasks with their digests.
-/

namespace CommentTasks

namespace Json

variable {limit : Option Nat}

theorem faithfulItems_map {α : Type} {room : Depth} {f : α → Json Text} {items : List α}
    (h : ∀ x ∈ items, Faithful limit room (f x)) : FaithfulItems limit room (items.map f) := by
  induction items with
  | nil => trivial
  | cons x rest ih =>
    exact ⟨h x List.mem_cons_self, ih fun y hy => h y (List.mem_cons_of_mem _ hy)⟩

theorem faithful_ofText? (room : Depth) (t : Option Text) : Faithful limit room (.ofText? t) := by
  cases t <;> trivial

theorem short_none (i : Int) : Short none i := nofun

end Json

theorem Metadata.faithful_toJson (limit : Option Nat) (m : Metadata) :
    Json.Faithful limit none m.toJson := by
  refine ⟨none, rfl, by simp [Keyed.keys], ⟨none, rfl, ?_⟩, Json.faithful_ofText? _ _,
    Json.faithful_ofText? _ _, Json.faithful_ofText? _ _, trivial⟩
  exact Json.faithfulItems_map fun _ _ => trivial

namespace Report

variable {limit : Option Nat}

theorem faithful_taskJson {n : News} (h : Json.Short limit n.task.line) :
    Json.Faithful limit none (taskJson n) := by
  refine ⟨none, rfl, ?_, trivial, trivial, n.task.metadata.faithful_toJson limit, trivial, h,
    trivial, trivial⟩
  simp [Keyed.keys, Task.members, Body.members]

theorem faithful_toJson {r : Report} (hn : Json.Short limit r.news.length)
    (hl : ∀ n ∈ r.news, Json.Short limit n.task.line) : Json.Faithful limit none r.toJson := by
  refine ⟨none, rfl, by simp [Keyed.keys], trivial, hn, ⟨none, rfl, ?_⟩, trivial⟩
  exact Json.faithfulItems_map fun n hm => faithful_taskJson (hl n hm)

/-- **The printed report is read back** by a reader that takes integers as long as those in it and
has room for its brackets. -/
theorem parseWithin_toText {r : Report} (hn : Json.Short limit r.news.length)
    (hl : ∀ n ∈ r.news, Json.Short limit n.task.line) :
    Json.parseWithin limit (r.toText true) = .ok r.toJson.wide :=
  Json.parseWithin_print (faithful_toJson hn hl)

end Report

end CommentTasks
