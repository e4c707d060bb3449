import CommentTasks.FileTree.Basic
import CommentTasks.FileTree.PathName
import CommentTasks.Encoding.Utf8
import CommentTasks.Text.Printable

/-!
# Access to files by path

A path is followed name by name from the root or from the working directory; a link leads on to the
path it points to, from the directory it stands in. A path leads to something that is there, or to a
free place in a directory, or it is refused for one of a few reasons, one of which is that the host
refuses. A file is emptied before it is written, and is left with what was written if the host cuts
the writing short.
-/

namespace CommentTasks

/-- Why access to a path is refused. -/
inductive AccessProblem
  | noEntry
  | alreadyExists
  | notDirectory
  | isDirectory
  | nameTooLong
  | tooManyLinks
  | nullByte
  /-- The host refuses the access. -/
  | refused (reason : Text)
  /-- The host has not taken all that was to be written. -/
  | cutShort (reason : Text)
  /-- What is to be written has no bytes. -/
  | unencodable (reason : Text)
  /-- More directories are nested than calls can be. -/
  | tooDeep
  deriving DecidableEq, Repr

/-- The number and the wording of a problem. -/
def AccessProblem.text : AccessProblem → Text
  | .noEntry => "[Errno 2] No such file or directory".toList
  | .alreadyExists => "[Errno 17] File exists".toList
  | .notDirectory => "[Errno 20] Not a directory".toList
  | .isDirectory => "[Errno 21] Is a directory".toList
  | .nameTooLong => "[Errno 36] File name too long".toList
  | .tooManyLinks => "[Errno 40] Too many levels of symbolic links".toList
  | .nullByte => "embedded null byte".toList
  | .refused reason | .cutShort reason | .unencodable reason => reason
  | .tooDeep => tooDeepText

/-- The problem lies in the path, and is told together with it. -/
def AccessProblem.namesPath : AccessProblem → Bool
  | .nullByte | .cutShort _ | .unencodable _ | .tooDeep => false
  | _ => true

/-- The problem says that nothing of the kind that is asked for is there. -/
def AccessProblem.isAbsence : AccessProblem → Bool
  | .noEntry | .notDirectory | .tooManyLinks | .nullByte => true
  | _ => false

/-- A refused access: the reason and the path as it was written. -/
structure AccessError where
  problem : AccessProblem
  path : Text
  deriving DecidableEq, Repr

/-- The wording of an error. -/
def AccessError.message (e : AccessError) : Text :=
  if e.problem.namesPath then e.problem.text ++ ": ".toList ++ Text.quoted e.path
  else e.problem.text

/-- Where a path leads to. -/
inductive Place
  /-- Something is there. -/
  | taken (location : Location) (entry : Entry)
  /-- The last name is free in an existing directory. -/
  | free (location : Location)
  deriving DecidableEq, Repr

namespace FileTree

/-- The most links on the way of a path. -/
def maxLinks : Nat := 40

/-- The most bytes of a name. -/
def maxNameBytes : Nat := 255

/-- The most bytes of a path. -/
def maxPathBytes : Nat := 4095

/-- The names of a path that are followed. A slash at the end asks for a directory, as does a
dot. -/
def steps (path : Text) : List Text :=
  (path.splitOn '/').filter (· ≠ []) ++ if path.getLast? = some '/' then [['.']] else []

/-- Follow names from a directory. At most `hops` links are passed; a link at the end is passed only
if `follow` says so. -/
def walkNames (t : FileTree) (follow : Bool) (hops : Nat) (loc : Location) (names : List Text) :
    Except AccessProblem Place :=
  match names with
  | [] => .ok (.taken loc ((t.entry? loc).getD .directory))
  | name :: rest =>
    match t.host.refuses .search loc with
    | some reason => .error (.refused reason)
    | none =>
      if name = ['.'] then walkNames t follow hops loc rest
      else if name = "..".toList then walkNames t follow hops loc.dropLast rest
      else if maxNameBytes < (Utf8.encode name).length then .error .nameTooLong
      else
        let next := loc ++ [name]
        match t.entry? next with
        | none => if rest = [] then .ok (.free next) else .error .noEntry
        | some .directory => walkNames t follow hops next rest
        | some (.file content) =>
          if rest = [] then .ok (.taken next (.file content)) else .error .notDirectory
        | some (.link target) =>
          if rest = [] ∧ !follow then .ok (.taken next (.link target))
          else
            match hops with
            | 0 => .error .tooManyLinks
            | hops + 1 =>
              walkNames t follow hops (if target.head? = some '/' then [] else loc)
                (steps target ++ rest)
termination_by (hops, names.length)

/-- Where a written path leads to. A link at its end is passed only if `follow` says so. -/
def locateWith (t : FileTree) (follow : Bool) (path : Text) : Except AccessError Place :=
  let start := if path.head? = some '/' then [] else t.workingDirectory
  let outcome :=
    if path.contains '\x00' then .error .nullByte
    else if path = [] then .error .noEntry
    else if maxPathBytes < (Utf8.encode path).length then .error .nameTooLong
    else walkNames t follow maxLinks start (steps path)
  outcome.mapError fun problem => ⟨problem, path⟩

/-- Where a written path leads to once all links are passed. -/
def locate (t : FileTree) (path : Text) : Except AccessError Place := t.locateWith true path

/-- The path leads to something of a kind. A path that leads nowhere does not; one that is refused
for another reason is an error. -/
def holds (t : FileTree) (kind : Entry → Bool) (path : Text) : Except AccessError Bool :=
  match t.locate path with
  | .ok (.taken _ e) => .ok (kind e)
  | .ok (.free _) => .ok false
  | .error e => if e.problem.isAbsence then .ok false else .error e

/-- The path leads to a file. -/
def isFile (t : FileTree) (path : Text) : Except AccessError Bool := t.holds Entry.isFile path

/-- The path leads to a directory, and nothing is in the way. -/
def isDirectory (t : FileTree) (path : Text) : Bool :=
  match t.locate path with
  | .ok (.taken _ .directory) => true
  | _ => false

/-- The bytes of the file that the path leads to. -/
def readBytes (t : FileTree) (path : Text) : Except AccessError Bytes :=
  match t.locate path with
  | .ok (.taken l e) =>
    match t.host.refuses .read l, e with
    | some reason, _ => .error ⟨.refused reason, path⟩
    | none, .file content => .ok content
    | none, _ => .error ⟨.isDirectory, path⟩
  | .ok (.free _) => .error ⟨.noEntry, path⟩
  | .error e => .error e

/-- A tree after a change, and the reason if the change was cut short. -/
structure Change where
  tree : FileTree
  refused : Option AccessError

/-- A change that is made as a whole or not at all. -/
def changed (t : FileTree) : Except AccessError FileTree → Change
  | .ok t => ⟨t, none⟩
  | .error e => ⟨t, some e⟩

/-- Write the file at a location, to which the path leads. It holds the first bytes of the content
if the host takes no more. -/
def writeAt (t : FileTree) (path : Text) (l : Location) (content : Bytes) : Change :=
  match t.host.refuses .write l, t.host.cutsShort l content with
  | some reason, _ => ⟨t, some ⟨.refused reason, path⟩⟩
  | none, some (taken, reason) =>
    ⟨t.set l (.file (content.take taken)), some ⟨.cutShort reason, path⟩⟩
  | none, none => ⟨t.set l (.file content), none⟩

/-- Write the file that the path leads to, or make it. -/
def writeBytes (t : FileTree) (path : Text) (content : Bytes) : Change :=
  match t.locate path with
  | .ok (.taken l (.file _)) => t.writeAt path l content
  | .ok (.taken _ _) => ⟨t, some ⟨.isDirectory, path⟩⟩
  | .ok (.free l) => t.writeAt path l content
  | .error e => ⟨t, some e⟩

/-- Make a directory in an existing one. A link in its place is not followed. -/
def makeDirectory (t : FileTree) (path : Text) : Except AccessError FileTree :=
  match t.locateWith false path with
  | .ok (.taken _ _) => .error ⟨.alreadyExists, path⟩
  | .ok (.free l) =>
    match t.host.refuses .write l with
    | some reason => .error ⟨.refused reason, path⟩
    | none => .ok (t.set l .directory)
  | .error e => .error e

/-- Make a directory unless there is one. -/
def ensureDirectory (t : FileTree) (path : PathName) : Except AccessError FileTree :=
  match t.makeDirectory path.toText with
  | .ok t => .ok t
  | .error e =>
    if e.problem = .noEntry ∨ e.problem = .nullByte then .error e
    else
      match t.holds Entry.isDirectory path.toText with
      | .ok true => .ok t
      | .ok false => .error e
      | .error other => .error other

/-- Make a directory and those above it, as far as they are missing and calls can be nested. The
names of the path are given in reverse order. -/
def ensureDirectoriesAlong (t : FileTree) (root : Text) (depth : Depth) : List Text → Change
  | [] => t.changed (t.ensureDirectory ⟨root, []⟩)
  | name :: above =>
    let path : PathName := ⟨root, (name :: above).reverse⟩
    match t.makeDirectory path.toText with
    | .error ⟨.noEntry, _⟩ =>
      match depth.down? with
      | none => ⟨t, some ⟨.tooDeep, path.toText⟩⟩
      | some depth =>
        match ensureDirectoriesAlong t root depth above with
        | ⟨t, none⟩ => t.changed (t.ensureDirectory path)
        | cutShort => cutShort
    | _ => t.changed (t.ensureDirectory path)

/-- Make a directory and those above it, as far as they are missing. -/
def ensureDirectories (t : FileTree) (path : PathName) : Change :=
  t.ensureDirectoriesAlong path.root t.host.depths.missing path.names.reverse

/-- Write a file, and make the directories above it as far as they are missing. -/
def writeBytesDeep (t : FileTree) (path : PathName) (content : Bytes) : Change :=
  match t.ensureDirectories path.parent with
  | ⟨t, none⟩ => t.writeBytes path.toText content
  | cutShort => cutShort

end FileTree

end CommentTasks
