import CommentTasks.Text.Blank
import CommentTasks.Text.Case

/-!
# Metadata of a comment

A comment may hold the annotations `@due(...)`, `@tags(...)`, `@assignee(...)` and `@p(...)`, with
the name in any letter case. `Metadata.extract` takes the first annotation of each name out of a
text, in that order, and leaves a space in its place.
-/

namespace CommentTasks

/-- What the annotations of a comment say. -/
structure Metadata where
  /-- The tags, in the order of the text. -/
  tags : List Text := []
  /-- The day the task is due. -/
  due : Option Text := none
  /-- Who has the task. -/
  assignee : Option Text := none
  /-- How urgent the task is. -/
  priority : Option Text := none
  deriving DecidableEq, Repr

namespace Metadata

/-- A value that holds anything but a closing parenthesis: read it together with the closing
parenthesis behind it. -/
def anyValue? (t : Text) : Option (Text × Text) :=
  match t.span (· ≠ ')') with
  | (value, ')' :: rest) => if value = [] then none else some (value, rest)
  | _ => none

/-- The names of the priorities, from the most urgent to the least. -/
def priorities : List Text := ["high".toList, "med".toList, "low".toList]

/-- A value that is the name of a priority between blanks: read it together with the closing
parenthesis behind it. -/
def priorityValue? (t : Text) : Option (Text × Text) :=
  priorities.findSome? fun name =>
    match Text.matchLetters? name (Text.trimLeft t) with
    | some (value, rest) =>
      match Text.trimLeft rest with
      | ')' :: rest => some (value, rest)
      | _ => none
    | none => none

/-- An annotation at the front of a text: its value, and the text behind it. -/
def annotationAt? (name : Text) (value? : Text → Option (Text × Text)) (t : Text) :
    Option (Text × Text) :=
  match Text.matchLetters? ('@' :: name ++ ['(']) t with
  | some (_, rest) => value? rest
  | none => none

/-- The first annotation of a text: the text before it, its value, and the text behind it. -/
def findAnnotation? (name : Text) (value? : Text → Option (Text × Text)) :
    Text → Option (Text × Text × Text)
  | [] => none
  | c :: r =>
    match annotationAt? name value? (c :: r) with
    | some (value, rest) => some ([], value, rest)
    | none =>
      (findAnnotation? name value? r).map fun (before, value, rest) => (c :: before, value, rest)

/-- Take the first annotation out of a text and leave a space in its place. -/
def takeAnnotation (name : Text) (value? : Text → Option (Text × Text)) (t : Text) :
    Option Text × Text :=
  match findAnnotation? name value? t with
  | some (before, value, rest) => (some value, before ++ ' ' :: rest)
  | none => (none, t)

/-- The tags in the value of an annotation: its parts between commas and spaces. -/
def splitTags (value : Text) : List Text :=
  ((value.splitOnP fun c => c == ',' || c == ' ').map Text.trim).filter (· ≠ [])

/-- The metadata of a text, and what is left of the text without the annotations, with single
spaces between its words. -/
def extract (t : Text) : Metadata × Text :=
  let (due, t) := takeAnnotation "due".toList anyValue? t
  let (tags, t) := takeAnnotation "tags".toList anyValue? t
  let (assignee, t) := takeAnnotation "assignee".toList anyValue? t
  let (priority, t) := takeAnnotation "p".toList priorityValue? t
  ({ tags := (tags.map splitTags).getD []
     due := due.map Text.trim
     assignee := assignee.map Text.trim
     priority := priority.map Text.lower },
   Text.squeeze t)

end Metadata

end CommentTasks
