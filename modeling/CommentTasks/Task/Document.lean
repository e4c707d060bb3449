import CommentTasks.Json.Basic
import CommentTasks.Task.Basic

/-!
# Tasks as documents

A task as an object of a JSON document, with the members that programs read.
-/

namespace CommentTasks

/-- A text that may be missing, as a document. -/
def Json.ofText? : Option Text → Json Text
  | some t => .string t
  | none => .null

/-- The metadata of a task as a document. -/
def Metadata.toJson (m : Metadata) : Json Text :=
  .object [("tags".toList, .array (m.tags.map .string)), ("due".toList, .ofText? m.due),
    ("assignee".toList, .ofText? m.assignee), ("priority".toList, .ofText? m.priority)]

/-- The members of what a comment states. -/
def Body.members (b : Body) : List (Text × Json Text) :=
  [("pattern".toList, .string b.keyword), ("message".toList, .string b.message),
    ("meta".toList, b.metadata.toJson)]

/-- The members of a task. -/
def Task.members (t : Task) : List (Text × Json Text) :=
  t.toBody.members ++ [("file_path".toList, .string t.path), ("line".toList, .int t.line)]

end CommentTasks
