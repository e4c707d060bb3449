import CommentTasks.Keyed
import CommentTasks.Text.Basic

/-!
# The ledger of known tasks

The ledger holds the digests of the tasks that were written to a note, each with the stamp of the
moment, in the order in which they came.
-/

namespace CommentTasks

/-- The digests of known tasks with their stamps. No digest is held twice. -/
structure Ledger where
  entries : List (Text × Text)
  /-- There is half a surrogate pair in a digest, which is left out of the entries, or in a stamp,
  which stands there in its notation. So the ledger has no bytes. -/
  isTorn : Bool
  nodup : (Keyed.keys entries).Nodup

namespace Ledger

/-- The ledger without any task. -/
def empty : Ledger := ⟨[], false, List.nodup_nil⟩

/-- The digests in order. -/
def digests (l : Ledger) : List Text := Keyed.keys l.entries

/-- Enter a digest with its stamp. A digest that is known keeps its place. -/
def mark (l : Ledger) (digest stamp : Text) : Ledger :=
  ⟨Keyed.put digest stamp l.entries, l.isTorn, Keyed.nodup_keys_put l.nodup⟩

/-- Enter digests one after the other. -/
def markAll (l : Ledger) (entries : List (Text × Text)) : Ledger :=
  entries.foldl (fun l x => l.mark x.1 x.2) l

@[simp] theorem markAll_nil (l : Ledger) : l.markAll [] = l := rfl

@[simp] theorem markAll_cons (l : Ledger) (x : Text × Text) (entries : List (Text × Text)) :
    l.markAll (x :: entries) = (l.mark x.1 x.2).markAll entries := rfl

@[simp] theorem isTorn_markAll (l : Ledger) (entries : List (Text × Text)) :
    (l.markAll entries).isTorn = l.isTorn := by
  induction entries generalizing l with
  | nil => rfl
  | cons x rest ih => exact ih (l.mark x.1 x.2)

/-- The ledger of a list of entries; an entry replaces an earlier one of the same digest. -/
def ofEntries (entries : List (Text × Text)) : Ledger := empty.markAll entries

end Ledger

end CommentTasks
