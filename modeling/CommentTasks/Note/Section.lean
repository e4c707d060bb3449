import CommentTasks.Text.Blank

/-!
# Sections of a note

A note is added to by sections. A section is a list of lines; `merge` puts it behind the text of a
note, one empty line apart.
-/

namespace CommentTasks.Note

/-- The lines without the empty lines at their end. -/
def dropEmptyEnd (lines : List Text) : List Text := (lines.reverse.dropWhile (· = [])).reverse

/-- The text of a section: its lines without empty lines at the end, each ended by a line feed. -/
def sectionText (lines : List Text) : Text := Text.join "\n" (dropEmptyEnd lines ++ [[]])

/-- The text ends with a line feed. -/
def endLine (t : Text) : Text := if t.getLast? = some '\n' then t else t ++ ['\n']

/-- The text of a note with a section behind it. -/
def merge (existing addition : Text) : Text :=
  let base := Text.trimRight existing
  if base = [] then endLine addition else base ++ "\n\n".toList ++ endLine addition

end CommentTasks.Note
