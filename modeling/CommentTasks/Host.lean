import CommentTasks.Value.Basic

/-!
# The host

What a run depends on besides the files: what the operating system refuses to do at a location and
which writes come to an end too early, how deeply calls may be nested, whether a report can be
printed, and the reader of YAML documents that is installed.
-/

namespace CommentTasks

/-- A place in a file tree: the names on the way from the root, none of them a link. -/
abbrev Location := List Text

/-- What may be done at a location. -/
inductive Access
  /-- Look up a name in the directory. -/
  | search
  /-- List the directory. -/
  | list
  /-- Read the file. -/
  | read
  /-- Write the file, or make a file or a directory. -/
  | write
  deriving DecidableEq, Repr

/-- How deeply calls may be nested, if there is a limit. -/
abbrev Depth := Option Nat

/-- What is left of a depth inside one more call, unless it is used up. -/
def Depth.down? : Depth → Option Depth
  | none => some none
  | some 0 => none
  | some (n + 1) => some (some n)

/-- What is said where calls cannot be nested any further. -/
def tooDeepText : Text := "maximum recursion depth exceeded".toList

theorem Depth.two_le_of_mem_none : ∀ n ∈ (none : Depth), 2 ≤ n := fun _ h => nomatch h

/-- The limits to the nesting of calls. What a limit counts is nested as the calls are. -/
structure Depths where
  /-- Links that are met on the way of a link. -/
  links : Depth := none
  /-- Directories below the one that is walked over. -/
  directories : Depth := none
  /-- Missing directories above one that is to be made. -/
  missing : Depth := none
  /-- Open brackets of a JSON document. -/
  json : Depth := none
  /-- Open brackets of a TOML document. -/
  toml : Depth := none
  /-- Values that are shown, each as a part of the one before. -/
  shown : Depth := none
  /-- The brackets of a ledger can be opened. -/
  two_le_json : ∀ n ∈ json, 2 ≤ n := by
    exact CommentTasks.Depth.two_le_of_mem_none

/-- An object that the text of a YAML document stands for. The items of a list are seen each on its
own, because an object may hold itself. -/
inductive YamlObject
  | list (items : List Value)
  | map (member? : Text → Option YamlObject)
  | other

/-- Why a text stands for no object. -/
inductive YamlFault
  /-- The text is no YAML document. -/
  | malformed (wording : Text)
  /-- An error of another kind, which a caller that knows errors of access and of values expects or
  does not. -/
  | other (isExpected : Bool) (message : Text)
  deriving DecidableEq, Repr

theorem read_of_permitted_write (_ : Location) (h : (none : Option Text) = none) :
    (none : Option Text) = none := h

/-- What a run finds besides the files. -/
structure Host where
  /-- What the operating system says if it refuses an access to a location. -/
  refuses : Access → Location → Option Text := fun _ _ => none
  /-- How many bytes of a file are written, and what the operating system says then, if these are
  not all. -/
  cutsShort : Location → Bytes → Option (Nat × Text) := fun _ _ => none
  depths : Depths := {}
  /-- The reader of YAML documents. -/
  readYaml : Text → Except YamlFault YamlObject := fun _ => .error (.malformed [])
  /-- What is said of a text that is no TOML document. -/
  tomlWording : Text → Text := fun _ => []
  /-- What is said of half a surrogate pair, which has no bytes. -/
  surrogateWording : Text := []
  /-- How many characters of a report are printed, and what is said then, if these are not all. -/
  cutsOutput : Text → Option (Nat × Text) := fun _ => none
  /-- What may be written may be read. -/
  read_of_write : ∀ l, refuses .write l = none → refuses .read l = none := by
    exact CommentTasks.read_of_permitted_write

end CommentTasks
