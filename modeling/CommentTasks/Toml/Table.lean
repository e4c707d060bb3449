import CommentTasks.Keyed
import CommentTasks.Value.Basic

/-!
# Tables of TOML documents

A document fills one table, whose members may be tables in turn. A key names a member by the path to
it. What a path was used for decides how it may be used again: `Marks` keeps the paths of tables
that were declared, and those of values that nothing may be added to.
-/

namespace CommentTasks.Toml

/-- The keys on the way to a member. -/
abbrev KeyPath := List Text

/-- The members of a table, in the order in which they were made. -/
abbrev Members := List (Value × Value)

/-- The value of a member. -/
def find? (key : Text) (ms : Members) : Option Value := Value.member? key (.map ms)

/-- The members with another value for one of them. -/
def replace (key : Text) (v : Value) (ms : Members) : Members :=
  ms.map fun (k, old) => match k with
    | .text t => (k, if t = key then v else old)
    | _ => (k, old)

/-- The members with one more, unless there is one of that name. -/
def insert? (key : Text) (v : Value) (ms : Members) : Option Members :=
  match find? key ms with
  | some _ => none
  | none => some (ms ++ [(.text key, v)])

/-- Change the table at a path, and make the tables on the way that are missing. With `throughLists`
the last item of a list of tables stands for the list. -/
def alter (throughLists : Bool) (change : Members → Option Members) :
    KeyPath → Members → Option Members
  | [], ms => change ms
  | key :: path, ms =>
    match find? key ms with
    | none => do insert? key (.map (← alter throughLists change path [])) ms
    | some (.map inner) => do return replace key (.map (← alter throughLists change path inner)) ms
    | some (.list items) =>
      match throughLists, items.getLast? with
      | true, some (.map inner) => do
        let last := Value.map (← alter throughLists change path inner)
        return replace key (.list (items.dropLast ++ [last])) ms
      | _, _ => none
    | some _ => none

/-- Make an empty table at a path unless there is one. -/
def openTable (path : KeyPath) (ms : Members) : Option Members := alter true some path ms

/-- Add an empty table to the list of tables at a path. -/
def openItem (path : KeyPath) (ms : Members) : Option Members :=
  match path.getLast? with
  | none => none
  | some key =>
    alter true (fun inner => match find? key inner with
      | none => insert? key (.list [.map []]) inner
      | some (.list items) => some (replace key (.list (items ++ [.map []])) inner)
      | some _ => none) path.dropLast ms

/-- Give a value to the member at a path that has none. -/
def assign? (throughLists : Bool) (path : KeyPath) (v : Value) (ms : Members) : Option Members :=
  match path.getLast? with
  | none => none
  | some key => alter throughLists (insert? key v) path.dropLast ms

/-- How paths were used. -/
structure Marks where
  /-- Tables that may not be declared again. -/
  declared : List KeyPath := []
  /-- Tables that may not be declared once the next table is opened. -/
  pending : List KeyPath := []
  /-- Values that nothing may be added to. -/
  fixed : List KeyPath := []

namespace Marks

/-- Nothing may be added at a path: it leads to a fixed value or into one. -/
def isFixed (m : Marks) (path : KeyPath) : Bool := m.fixed.any (·.isPrefixOf path)

/-- The table at a path may not be declared again. -/
def isDeclared (m : Marks) (path : KeyPath) : Bool := m.declared.contains path

/-- A table is opened. -/
def settle (m : Marks) : Marks := { m with declared := m.pending ++ m.declared, pending := [] }

/-- The table at a path is declared. -/
def declare (m : Marks) (path : KeyPath) : Marks := { m with declared := path :: m.declared }

/-- The tables at some paths are used by a key and may not be declared later. -/
def reserve (m : Marks) (paths : List KeyPath) : Marks := { m with pending := paths ++ m.pending }

/-- A list or a table that is written as a value is fixed. -/
def fix (m : Marks) (path : KeyPath) (v : Value) : Marks :=
  match v with
  | .list _ => { m with fixed := path :: m.fixed }
  | .map _ => { m with fixed := path :: m.fixed }
  | _ => m

/-- Nothing is known any more of a path and of those below it. -/
def forget (m : Marks) (path : KeyPath) : Marks :=
  { m with
    declared := m.declared.filter (!path.isPrefixOf ·)
    fixed := m.fixed.filter (!path.isPrefixOf ·) }

end Marks

end CommentTasks.Toml
