import CommentTasks.Calendar.Moment
import CommentTasks.Encoding.Bytes
import CommentTasks.Json.Basic

/-!
# Document values

What a document of one of the supported formats says: JSON, TOML and YAML documents all have values
of this one kind.
-/

namespace CommentTasks

/-- A value of a document. -/
inductive Value
  | null
  | bool (b : Bool)
  | int (n : Int)
  | float (x : Binary64)
  | text (t : Text)
  /-- Codes with half a surrogate pair in place of a text. -/
  | torn (codes : List Nat)
  | bytes (b : Bytes)
  | date (d : Date)
  | time (t : TimeOfDay)
  /-- A date and a time of day, with the seconds that the clock is ahead of universal time. -/
  | dateTime (d : Date) (t : TimeOfDay) (offset : Option Int)
  | list (items : List Value)
  | pair (first second : Value)
  | set (items : List Value)
  | map (members : List (Value × Value))
  /-- A list, or a map, that holds itself, at the place where it does. -/
  | again (isMap : Bool)
  deriving Repr

namespace Value

/-- What is spelled in a document as a value. -/
def ofWide : Wide → Value
  | .text t => .text t
  | .torn codes => .torn codes

mutual

/-- A JSON document as a value. -/
def ofJson : Json Wide → Value
  | .null => .null
  | .bool b => .bool b
  | .int n => .int n
  | .float x => .float x
  | .string s => ofWide s
  | .array items => .list (ofItems items)
  | .object members => .map (ofMembers members)

/-- The items of a JSON array as values. -/
def ofItems : List (Json Wide) → List Value
  | [] => []
  | v :: vs => ofJson v :: ofItems vs

/-- The members of a JSON object as values. -/
def ofMembers : List (Wide × Json Wide) → List (Value × Value)
  | [] => []
  | (key, v) :: rest => (ofWide key, ofJson v) :: ofMembers rest

end

/-- The value of a member of a map. -/
def member? (key : Text) : Value → Option Value
  | .map members =>
    members.findSome? fun (k, v) => match k with
      | .text t => if t = key then some v else none
      | _ => none
  | _ => none

end Value

end CommentTasks
