import CommentTasks.Task.Basic

/-!
# Line comments

A line comment is a line that begins with a comment mark, blanks apart. Of each line only the text
without the blanks at its ends counts, so a carriage return before the line feed is of no account
and lines are cut at line feeds alone.
-/

namespace CommentTasks

/-- The marks that begin a line comment. -/
inductive LineMark
  | slashes
  | hash
  | dashes
  | semicolon
  deriving DecidableEq, Repr

namespace LineMark

/-- The characters of a mark. -/
def text : LineMark → Text
  | .slashes => "//".toList
  | .hash => "#".toList
  | .dashes => "--".toList
  | .semicolon => ";".toList

/-- The marks in the order in which they are tried. -/
def all : List LineMark := [.slashes, .hash, .dashes, .semicolon]

/-- What must not follow at the place of a mark: `#!` names an interpreter, and `-->` closes a
comment. -/
def excluded : LineMark → Option Text
  | .hash => some "#!".toList
  | .dashes => some "-->".toList
  | _ => none

/-- The mark stands at the front of a text. -/
def isAt (m : LineMark) (t : Text) : Bool :=
  m.text.isPrefixOf t && !(m.excluded.any fun x => x.isPrefixOf t)

/-- The mark at the front of a text. -/
def at? (t : Text) : Option LineMark := all.find? fun m => m.isAt t

end LineMark

/-- The lines of a text, which end at line feeds. -/
def linesOf (t : Text) : List Text := t.splitOn '\n'

/-- The task in one line, if the line is a comment that states one. -/
def lineBody? (ks : Keywords) (line : Text) : Option Body :=
  let line := Text.trim line
  match LineMark.at? line with
  | some mark =>
    let body := Text.trim (line.drop mark.text.length)
    if body = [] then none else Body.parse? ks body
  | none => none

/-- Number the lines from `first` on, and keep those that state a task. -/
def tasksOfLines (body? : Text → Option Body) (path : Text) (first : Int) : List Text → List Task
  | [] => []
  | line :: rest =>
    ((body? line).map (Task.ofBody path first)).toList ++ tasksOfLines body? path (first + 1) rest

/-- The tasks in the line comments of a text. -/
def lineTasks (ks : Keywords) (path content : Text) : List Task :=
  tasksOfLines (lineBody? ks) path 1 (linesOf content)

end CommentTasks
