import CommentTasks.FileTree.PathName
import CommentTasks.Json.Printer
import CommentTasks.Run.News
import CommentTasks.Task.Document

/-!
# The report of a run
-/

namespace CommentTasks

/-- What a run reports: the note and the new tasks. -/
structure Report where
  note : PathName
  news : List News

namespace Report

/-- The path of the note as it is shown. -/
def noteText (r : Report) : Text := forwardSlashes r.note.toText

/-- A new task as a document. -/
def taskJson (n : News) : Json Text :=
  .object (n.task.members ++ [("hash".toList, .string n.task.digest)])

/-- The report as a document. -/
def toJson (r : Report) : Json Text :=
  .object [("note".toList, .string r.noteText), ("appended".toList, .int r.news.length),
    ("tasks".toList, .array (r.news.map taskJson))]

/-- The report as a sentence. -/
def sentence (r : Report) : Text :=
  if r.news = [] then "No new comment tasks found.".toList
  else
    "Appended ".toList ++ Text.ofNat r.news.length ++ " task(s) to ".toList ++ r.noteText

/-- The printed report. -/
def toText (r : Report) (asJson : Bool) : Text :=
  (if asJson then r.toJson.print else r.sentence) ++ ['\n']

end Report

end CommentTasks
