import CommentTasks.Calendar.Moment
import CommentTasks.Ledger.Basic
import CommentTasks.Note.Section
import CommentTasks.Task.Format

/-!
# New tasks

Of the tasks of a project, those are new whose digest is neither known nor the digest of an earlier
one. Each is stamped with a reading of the clock of its own, in the order in which they were found.
-/

namespace CommentTasks

/-- The moments that a clock shows, reading by reading. -/
abbrev Clock := Nat → Moment

/-- A new task and the stamp of the moment at which it was entered. -/
structure News where
  task : Task
  stamp : Text
  deriving DecidableEq, Repr

namespace News

/-- The tasks whose digest is neither among `known` nor the digest of an earlier task. -/
def unknownTasks (known : List Text) : List Task → List Task
  | [] => []
  | t :: rest =>
    if known.contains t.digest then unknownTasks known rest
    else t :: unknownTasks (t.digest :: known) rest

@[simp] theorem unknownTasks_nil (known : List Text) : unknownTasks known [] = [] := rfl

/-- The new tasks stand in the order in which they were found. -/
theorem unknownTasks_sublist (known : List Text) (tasks : List Task) :
    (unknownTasks known tasks).Sublist tasks := by
  induction tasks generalizing known with
  | nil => exact .slnil
  | cons t rest ih =>
    unfold unknownTasks
    split
    · exact (ih known).cons t
    · exact (ih (t.digest :: known)).cons_cons t

/-- The digest of a new task is not known. -/
theorem digest_not_mem_known {known : List Text} {tasks : List Task} {t : Task}
    (h : t ∈ unknownTasks known tasks) : t.digest ∉ known := by
  induction tasks generalizing known with
  | nil => cases h
  | cons a rest ih =>
    unfold unknownTasks at h
    split at h
    · exact ih h
    · next ha =>
      rcases List.mem_cons.1 h with rfl | h
      · simpa using ha
      · exact fun hk => ih h (List.mem_cons_of_mem _ hk)

/-- The tasks with the stamps of the readings from `reading` on, or the year of the first of these
readings that has no stamp. -/
def stampAll (clock : Clock) (reading : Nat) : List Task → Except Int (List News)
  | [] => .ok []
  | t :: rest => do
    let stamp ← (clock reading).stamp
    let more ← stampAll clock (reading + 1) rest
    return ⟨t, stamp⟩ :: more

/-- What a ledger holds of a new task. -/
def entry (n : News) : Text × Text := (n.task.digest, n.stamp)

/-- The lines of a section: the heading and the tasks, each of these with an empty line behind
it. -/
def sectionLines (stamp : Text) (news : List News) : List Text :=
  [headingText stamp, []] ++ news.flatMap fun n => n.task.format n.task.digest ++ [[]]

end News

end CommentTasks
