import CommentTasks.Comment.Block
import CommentTasks.FileTree.Resolve
import CommentTasks.Source.Decode
import CommentTasks.Source.Walk

/-!
# The tasks of a project
-/

namespace CommentTasks.FileTree

/-- The tasks in one file of a project. A file that cannot be read as text has none. -/
def tasksOfFile (t : FileTree) (ks : Keywords) (base file : PathName) : List Task :=
  match t.readBytes file.toText with
  | .ok bytes =>
    match decodeSource bytes with
    | some content => tasksIn ks (shownPath base file) content
    | none => []
  | .error _ => []

/-- A file that is read as text has the tasks of this text. -/
theorem tasksOfFile_eq {t : FileTree} {ks : Keywords} {base file : PathName} {bytes : Bytes}
    {shown content : Text} {found : List Task} (hb : t.readBytes file.toText = .ok bytes)
    (hc : decodeSource bytes = some content) (hs : shownPath base file = shown)
    (ht : tasksIn ks shown content = found) : t.tasksOfFile ks base file = found := by
  simp only [tasksOfFile, hb, hc, hs, ht]

/-- The tasks of a project at a path without links, file by file. The files of a project that is a
single file are shown from the directory above it. -/
def tasksOfProject (t : FileTree) (ks : Keywords) (extensions : List Text) (project : PathName) :
    Except AccessError (List Task) := do
  let base := if ← t.isFile project.toText then project.parent else project
  return (← t.walk extensions project).flatMap fun file => t.tasksOfFile ks base file

end CommentTasks.FileTree
