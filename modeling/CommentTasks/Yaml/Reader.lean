import CommentTasks.Host
import CommentTasks.Yaml.Value

/-!
# A reader of YAML documents

The object that a text stands for, as the host of a program is given it. An object may hold itself,
so only as many maps are opened one in another as a keyword file has.
-/

namespace CommentTasks.Yaml

/-- A caller that knows errors of access and of values expects the fault. -/
def Fault.isExpected : Fault → Bool
  | .characterTooLarge | .truth _ | .noDigits | .timestamp | .integerTooLarge => false
  | _ => true

/-- The object that a node of a document stands for, with so many maps in it that can be opened. -/
def Document.object (d : Document) : Nat → Node → YamlObject
  | 0, _ => .other
  | opened + 1, n =>
    if d.isMap n then .map fun key => (d.member? key n).map (object d opened)
    else
      match d.items? n with
      | some items => .list items
      | none => .other

/-- The object that a text stands for; a blank text stands for nothing. -/
def read (t : Text) : Except YamlFault YamlObject :=
  match Document.ofText? t with
  | .ok d => .ok ((d.map fun d => d.object 2 d.root).getD .other)
  | .error .malformed => .error (.malformed Fault.malformed.message)
  | .error e => .error (.other e.isExpected e.message)

end CommentTasks.Yaml
