import CommentTasks.Number.Binary64
import CommentTasks.Text.Wide

/-!
# JSON documents

The strings of a document that is written are texts; those of one that is read may hold halves of
surrogate pairs.
-/

namespace CommentTasks

/-- A JSON document. The members of an object keep the order in which they were first written. -/
inductive Json (σ : Type)
  | null
  | bool (b : Bool)
  | int (n : Int)
  | float (x : Binary64)
  | string (s : σ)
  | array (items : List (Json σ))
  | object (members : List (σ × Json σ))
  deriving Repr

namespace Json

/-- The value of a member of an object. -/
def member? {σ : Type} [BEq σ] (key : σ) : Json σ → Option (Json σ)
  | .object members => members.lookup key
  | _ => none

mutual

/-- A document of texts as it is read. -/
def wide : Json Text → Json Wide
  | .null => .null
  | .bool b => .bool b
  | .int n => .int n
  | .float x => .float x
  | .string t => .string (.text t)
  | .array items => .array (wideItems items)
  | .object members => .object (wideMembers members)

/-- The items of an array as they are read. -/
def wideItems : List (Json Text) → List (Json Wide)
  | [] => []
  | v :: vs => wide v :: wideItems vs

/-- The members of an object as they are read. -/
def wideMembers : List (Text × Json Text) → List (Wide × Json Wide)
  | [] => []
  | (key, v) :: rest => (.text key, wide v) :: wideMembers rest

end

end Json

end CommentTasks
