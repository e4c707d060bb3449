import CommentTasks.Host
import CommentTasks.Keyed

/-!
# File trees

A file tree lists what stands at each location: a file with its bytes, a directory, or a symbolic
link with the path that it points to. A location is the list of names on the way from the root,
which is always a directory. No location is listed twice. Which accesses to the tree succeed is up
to its host.
-/

namespace CommentTasks

/-- What may stand at a location. -/
inductive Entry
  | file (content : Bytes)
  | directory
  | link (target : Text)
  deriving DecidableEq, Repr

/-- The entry is a file. -/
def Entry.isFile : Entry → Bool
  | .file _ => true
  | _ => false

/-- The entry is a directory. -/
def Entry.isDirectory : Entry → Bool
  | .directory => true
  | _ => false

/-- A file tree, the directory from which relative paths start, and the host that has them. -/
structure FileTree where
  /-- What stands at each location. -/
  entries : List (Location × Entry)
  /-- Where relative paths start. -/
  workingDirectory : Location
  host : Host := {}
  nodup : (Keyed.keys entries).Nodup

namespace FileTree

/-- The tree with nothing but the root. -/
def empty : FileTree := { entries := [], workingDirectory := [], nodup := List.nodup_nil }

/-- What stands at a location. -/
def entry? (t : FileTree) (loc : Location) : Option Entry :=
  if loc = [] then some .directory else t.entries.lookup loc

/-- The tree with an entry at a location. -/
def set (t : FileTree) (loc : Location) (e : Entry) : FileTree :=
  ⟨Keyed.put loc e t.entries, t.workingDirectory, t.host, Keyed.nodup_keys_put t.nodup⟩

@[simp] theorem host_set (t : FileTree) (loc : Location) (e : Entry) :
    (t.set loc e).host = t.host := rfl

theorem entry?_set_self (t : FileTree) {loc : Location} (e : Entry) (h : loc ≠ []) :
    FileTree.entry? (t.set loc e) loc = some e := by
  simp [ entry?, set, h, Keyed.lookup_put_self]

theorem entry?_set_of_ne (t : FileTree) {loc other : Location} (e : Entry) (h : other ≠ loc) :
    FileTree.entry? (t.set loc e) other = t.entry? other := by
  simp [ entry?, set, Keyed.lookup_put_of_ne e _ h]

/-- The locations of the links of a tree. -/
def links (t : FileTree) : List Location :=
  t.entries.filterMap fun (l, e) => match e with
    | .link _ => some l
    | _ => none

end FileTree

end CommentTasks
