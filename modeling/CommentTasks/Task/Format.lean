import CommentTasks.Calendar.Moment
import CommentTasks.Task.Identity

/-!
# The written form of tasks

A task takes two lines of a note. The first has an icon for the priority, the label and the
metadata; the second tells where the comment is, and the digest.
-/

namespace CommentTasks

/-- The icons of the priorities. -/
def priorityIcons : List (Text × Text) :=
  [("high".toList, "⏫".toList), ("med".toList, "🔼".toList), ("low".toList, "🔽".toList)]

/-- The icon of a task without a priority. -/
def plainIcon : Text := "•".toList

namespace Task

/-- The icon of a task. -/
def icon (t : Task) : Text :=
  (t.metadata.priority.bind fun p => priorityIcons.lookup p).getD plainIcon

/-- A tag behind its mark; a tag that begins with the mark has it already. -/
def tagText (tag : Text) : Text := if "#".toList.isPrefixOf tag then tag else '#' :: tag

/-- A part of the first line that is left out if there is nothing to show. -/
def optionalPart (mark : Text) (value : Option Text) : List Text :=
  match value with
  | some v => if v = [] then [] else [mark ++ v]
  | none => []

/-- The first line: icon, label, assignee, due date and tags. -/
def summaryLine (t : Task) : Text :=
  Text.squeeze <| Text.join " " <|
    [t.icon, t.label] ++ optionalPart "@".toList t.metadata.assignee ++
      optionalPart "📅 ".toList t.metadata.due ++
      (if t.metadata.tags = [] then [] else [Text.join " " (t.metadata.tags.map tagText)])

/-- The second line: file, line and digest. -/
def locationLine (t : Task) (digest : Text) : Text :=
  t.path ++ ':' :: Text.ofInt t.line ++ "  [hash:".toList ++ digest ++ "]".toList

/-- The two lines of a task. -/
def format (t : Task) (digest : Text) : List Text := [t.summaryLine, t.locationLine digest]

end Task

/-- The heading of a section that is written at a moment with the given stamp. -/
def headingText (stamp : Text) : Text := "## Imported from comments (".toList ++ stamp ++ ")".toList

end CommentTasks
