import CommentTasks.Comment.Body

/-!
# Tasks

A task is what a comment states together with the place of the comment.
-/

namespace CommentTasks

/-- A task and the file and line of its comment. Lines count from one. -/
structure Task extends Body where
  /-- The file, with `/` between the names of its path. -/
  path : Text
  /-- The line of the comment. -/
  line : Int
  deriving DecidableEq, Repr

namespace Task

/-- The body as a task on a line of a file. -/
def ofBody (path : Text) (line : Int) (body : Body) : Task :=
  { body with path := path, line := line }

end Task

end CommentTasks
