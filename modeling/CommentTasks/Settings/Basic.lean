import CommentTasks.Text.Basic

/-!
# Settings

What a run is asked for besides its paths. A setting that nobody gave has its standard value.
-/

namespace CommentTasks

/-- The settings of a run, as they were given. -/
structure Settings where
  /-- Keywords with commas between them. -/
  keywords : Option Text := none
  /-- Files that list further keywords. -/
  keywordFiles : List Text := []
  /-- Extensions with commas between them. -/
  extensions : Option Text := none
  /-- The path of the ledger as seen from the vault. -/
  ledger : Option Text := none
  /-- How many files may be read at the same time. What a run gives does not depend on it. -/
  workers : Option Int := none
  deriving DecidableEq, Repr

end CommentTasks
