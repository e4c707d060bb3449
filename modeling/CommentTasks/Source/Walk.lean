import CommentTasks.FileTree.Access
import CommentTasks.Source.Extension

/-!
# The source files of a directory

The source files below a directory are those that its extensions choose and that no excluded
directory holds. A link to a directory counts as a directory and is not entered; any other link
counts as a file. The files of a directory stand before those of its subdirectories, and both are in
the order of their names. A directory that cannot be listed holds nothing, and calls are nested as
the directories are.
-/

namespace CommentTasks

/-- Directories of this name are not entered. -/
def isExcludedDirectory (name : Text) : Bool :=
  ["node_modules".toList, ".git".toList].contains (Text.lower name)

/-- Names are ordered by their code points. -/
def nameLE : Text → Text → Bool
  | [], _ => true
  | _ :: _, [] => false
  | a :: as, b :: bs => a < b || (a == b && nameLE as bs)

/-- The order of the files below a directory, each given by the names that lead to it: a file of a
directory comes before the files of its subdirectories. -/
def walkLE : List Text → List Text → Bool
  | [], _ => true
  | _ :: _, [] => false
  | [a], [b] => nameLE a b
  | [_], _ :: _ :: _ => true
  | _ :: _ :: _, [_] => false
  | a :: as, b :: bs => if a = b then walkLE as bs else nameLE a b

namespace FileTree

/-- The path of a name in the directory at a path. -/
def pathIn (path name : Text) : Text :=
  if path.getLast? = some '/' then path ++ name else path ++ '/' :: name

/-- The path that names lead to from the directory at a path. -/
def pathBelow (path : Text) (names : List Text) : Text := names.foldl pathIn path

/-- The entry at a path counts as a file of the directory that holds it. -/
def countsAsFile (t : FileTree) (path : Text) : Entry → Bool
  | .file _ => true
  | .directory => false
  | .link _ => !t.isDirectory path

/-- The names that lead from a directory to an entry below it. -/
def namesBelow? (base loc : Location) : Option (List Text) :=
  match base.isPrefixOf? loc with
  | some (name :: rest) => some (name :: rest)
  | _ => none

/-- The directory at a location can be listed by its path. -/
def lists (t : FileTree) (path : Text) (loc : Location) : Bool :=
  (Utf8.encode path).length ≤ maxPathBytes && (t.host.refuses .list loc).isNone

/-- The walk over a directory comes to what the names lead to: all directories on the way can be
listed and, but for the last of them, searched. -/
def comesTo (t : FileTree) (path : Text) (loc : Location) : List Text → Bool
  | [] => true
  | [_] => t.lists path loc
  | name :: rest =>
    t.lists path loc && (t.host.refuses .search loc).isNone &&
      comesTo t (pathIn path name) (loc ++ [name]) rest

/-- The names that lead from the directory at a path and a location to its source file. -/
def sourceNames? (t : FileTree) (extensions : List Text) (path : Text) (base : Location)
    (x : Location × Entry) : Option (List Text) :=
  match namesBelow? base x.1 with
  | some names =>
    if t.countsAsFile (pathBelow path names) x.2 && !names.dropLast.any isExcludedDirectory &&
        matchesExtension extensions (names.getLast?.getD []) && t.comesTo path base names then
      some names
    else none
  | none => none

/-- The source files below the directory at a path and a location, each given by the names that lead
to it. -/
def sourcesBelow (t : FileTree) (extensions : List Text) (path : Text) (base : Location) :
    List (List Text) :=
  (t.entries.filterMap (t.sourceNames? extensions path base)).mergeSort walkLE

/-- The source files that a path names: the file itself, or the source files below the directory. -/
def sourceFiles (t : FileTree) (extensions : List Text) (base : PathName) : List PathName :=
  let extensions := normalExtensions extensions
  match t.locate base.toText with
  | .ok (.taken _ (.file _)) => if matchesExtension extensions base.name then [base] else []
  | .ok (.taken loc .directory) =>
    (t.sourcesBelow extensions base.toText loc).map fun names => ⟨base.root, base.names ++ names⟩
  | _ => []

/-- The walk over the directory at a path and a location comes to a directory below it, or to a link
to one. -/
def subdirectory? (t : FileTree) (path : Text) (base : Location) (x : Location × Entry) :
    Option (List Text) :=
  match namesBelow? base x.1 with
  | some names =>
    if !t.countsAsFile (pathBelow path names) x.2 && !names.any isExcludedDirectory &&
        t.comesTo path base names then
      some names
    else none
  | none => none

/-- The directories that the walk over a path comes to are nested too deep. -/
def isTooDeep (t : FileTree) (base : PathName) : Bool :=
  match t.locate base.toText with
  | .ok (.taken loc .directory) =>
    (t.entries.filterMap (t.subdirectory? base.toText loc)).any fun names =>
      t.host.depths.directories.any (· < names.length)
  | _ => false

/-- Walk over a path: its source files, unless it cannot be looked at, or directories are nested
more deeply than calls can be. -/
def walk (t : FileTree) (extensions : List Text) (base : PathName) :
    Except AccessError (List PathName) := do
  let _ ← t.isFile base.toText
  if t.isTooDeep base then throw ⟨.tooDeep, base.toText⟩
  return t.sourceFiles extensions base

end FileTree

end CommentTasks
