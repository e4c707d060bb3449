import CommentTasks.CommandLine.Program
import CommentTasks.Yaml.Reader
import Std.Time.DateTime.Timestamp

/-!
# The command

The files that a command line is about are read into a file tree, the program runs on it, and what
it has changed is written back. An access that is not permitted is refused by the host of the tree.

Where a link points to is only seen by following it. A link that leads nowhere is therefore left out
of the tree: what is written in its place goes to where it points to, or cannot be written. What is
wrong with a text that is no TOML or YAML document is not told.
-/

namespace CommentTasks.Main

/-- The path of a location. -/
def pathOf (l : Location) : String := String.ofList (PathName.absolute l).toText

/-- The entry of a directory at a location. -/
def entryAt (l : Location) : IO.FS.DirEntry := { root := "/", fileName := pathOf l }

/-- The location of a path that leads somewhere. -/
def realLocation (path : String) : IO Location :=
  return PathName.namesOf (← IO.FS.realPath path).toString.toList

/-! ### The host -/

/-- A machine on which about a thousand calls can be nested. A bracket of TOML takes two of them. -/
def machine : Host where
  depths := { links := some 980, directories := some 980, missing := some 980, json := some 980,
              toml := some 480, shown := some 980,
              two_le_json := by intro _ h; cases h; exact Nat.le_add_left 2 978 }
  readYaml := Yaml.read
  tomlWording := fun _ => "<toml>".toList
  surrogateWording := "'utf-8' codec can't encode characters: surrogates not allowed".toList

/-- What is said of an access that is not permitted. -/
def notPermitted : Text := "[Errno 13] Permission denied".toList

/-- The tree on a host that does not permit accesses to a location. -/
def refusing (t : FileTree) (loc : Location) (accesses : List Access)
    (h : .read ∈ accesses → .write ∈ accesses) : FileTree :=
  { t with
    host :=
      { t.host with
        refuses := fun a l =>
          if l = loc ∧ a ∈ accesses then some notPermitted else t.host.refuses a l
        read_of_write := by
          intro l hl
          split at hl
          · cases hl
          · next hn => rw [if_neg fun hr => hn ⟨hr.1, h hr.2⟩, t.host.read_of_write l hl] } }

/-! ### Reading files -/

/-- Read the file at a location. -/
def readFile (t : FileTree) (loc : Location) : IO FileTree := do
  match ← (IO.FS.readBinFile (pathOf loc)).toBaseIO with
  | .ok content => return t.set loc (.file content.data.toList)
  | .error (.permissionDenied ..) =>
    return refusing (t.set loc (.file [])) loc [.read, .write] (by decide)
  | .error e => throw e

/-- Read the link at a location, and tell where it leads to. A link in a circle is shown as one to
itself. -/
def readLink (t : FileTree) (loc : Location) : IO (FileTree × Option Location) := do
  match ← (entryAt loc).path.metadata.toBaseIO with
  | .ok _ =>
    let real ← realLocation (pathOf loc)
    return (t.set loc (.link (pathOf real).toList), some real)
  | .error (.noFileOrDirectory ..) | .error (.inappropriateType ..) => return (t, none)
  | .error (.invalidArgument ..) => return (t.set loc (.link (pathOf loc).toList), none)
  | .error e => throw e

/-- Read what stands on the way of names from a directory. -/
partial def readAlong (t : FileTree) (loc : Location) : List Text → IO FileTree
  | [] => return t
  | name :: rest => do
    if name = "..".toList then readAlong t loc.dropLast rest
    else
      let next := loc ++ [name]
      match ← (entryAt next).path.symlinkMetadata.toBaseIO with
      | .ok found =>
        match found.type with
        | .dir => readAlong (t.set next .directory) next rest
        | .file => readFile t next
        | .symlink =>
          match ← readLink t next with
          | (t, some real) => readAlong t [] (real ++ rest)
          | (t, none) => return t
        | .other => return t
      | .error (.permissionDenied ..) => return refusing t loc [.search] (by decide)
      | .error (.noFileOrDirectory ..) | .error (.invalidArgument ..) => return t
      | .error e => throw e

/-- Read what stands below a directory: the files with one of the extensions, and the links. -/
partial def readBelow (t : FileTree) (extensions : List Text) (loc : Location) : IO FileTree := do
  match ← (entryAt loc).path.readDir.toBaseIO with
  | .ok entries =>
    let mut t := t
    for entry in entries do
      let name := entry.fileName.toList
      let next := loc ++ [name]
      match ← entry.path.symlinkMetadata.toBaseIO with
      | .ok found =>
        match found.type with
        | .dir =>
          t := t.set next .directory
          unless isExcludedDirectory name do
            t ← readBelow t extensions next
        | .file =>
          if matchesExtension extensions name then
            t ← readFile t next
        | .symlink =>
          -- a link that cannot be followed counts as a file that cannot be read
          match ← (readAlong t loc [name]).toBaseIO with
          | .ok read => t := read
          | .error _ => t := t.set next (.link (pathOf next).toList)
        | .other => pure ()
      | .error (.permissionDenied ..) => t := refusing t loc [.search] (by decide)
      | .error e => throw e
    return t
  | .error (.permissionDenied ..) => return refusing t loc [.list] (by decide)
  | .error e => throw e

/-- Read what stands on the way of a path. -/
def readPath (t : FileTree) (path : PathName) : IO FileTree :=
  if path.isAbsolute then readAlong t [] path.names
  else readAlong t [] (t.workingDirectory ++ path.names)

/-- Read the files that arguments are about. -/
def readFiles (t : FileTree) (a : Arguments) : IO FileTree := do
  let mut t := t
  for path in a.settingsFile.toList do
    t ← readPath t (.ofText path)
  let .ok (s, _) := Program.settle t a | return t
  for path in s.keywordFiles do
    t ← readPath t (.ofText path)
  for text in a.request.vault.toList do
    t ← readPath t (.ofText text)
    let .ok vault := t.resolve (.ofText text) | return t
    t ← readPath t (Settings.ledgerPath s.ledger vault)
    for note in a.request.note.toList do
      t ← readPath t (vault.append (.ofText note))
  for text in a.request.project.toList do
    t ← readPath t (.ofText text)
    let .ok project := t.resolve (.ofText text) | return t
    if t.entry? project.names = some .directory then
      t ← readBelow t (normalExtensions (Settings.extensionTexts s.extensions)) project.names
  return t

/-! ### Running the program -/

/-- Read the clock of the machine. -/
def readClock : IO Moment := do
  let now := (← Std.Time.Timestamp.now).toNanosecondsSinceUnixEpoch.val / 1000
  return (Moment.ofCivil ⟨1970, 1, 1⟩ ⟨0, 0, 0, 0⟩ 0).later now

/-- The plan of the run that arguments ask for, if there is one. -/
def plan? (t : FileTree) (clock : Clock) (a : Arguments) : Option Run.Plan :=
  match Program.settle t a with
  | .ok (settings, _) => (Run.plan t clock { a.request with settings }).toOption
  | .error _ => none

/-- Write back what has changed, the ledger at last. -/
def writeChanges (before after : FileTree) (plan : Option Run.Plan) : IO Unit := do
  let changes := after.entries.filter fun (l, entry) => before.entry? l ≠ some entry
  let isLedger (l : Location) : Bool :=
    plan.any fun p => match after.locate p.ledgerPath.toText with
      | .ok (.taken loc _) => loc = l
      | _ => false
  let (last, first) := changes.partition fun (l, _) => isLedger l
  for (l, entry) in first ++ last do
    match entry with
    | .directory => IO.FS.createDirAll (pathOf l)
    | .file content => IO.FS.writeBinFile (pathOf l) ⟨content.toArray⟩
    | .link _ => pure ()

/-- Run the program on the words of a command line. The clock is read for the heading, and once more
for each new task. -/
def runWords (words : List Text) : IO UInt32 := do
  let errors ← IO.getStderr
  let fails (message : Text) : IO UInt32 := do
    errors.putStr (String.ofList message)
    return 1
  try
    let here ← realLocation "."
    let start ← readAlong { FileTree.empty with workingDirectory := here, host := machine } [] here
    let arguments := (Arguments.ofTexts words).toOption.join
    let tree ← match arguments with
      | some a => readFiles start a
      | none => pure start
    let now ← readClock
    let plan := arguments.bind (plan? tree fun _ => now)
    let readings ← (plan.elim [] (·.news)).mapM fun _ => readClock
    let outcome := Program.run tree (fun n => (now :: readings).getD n now) words
    errors.putStr (String.ofList outcome.errors)
    writeChanges tree outcome.tree plan
    (← IO.getStdout).putStr (String.ofList outcome.output)
    match outcome.exit with
    | .ok code => return code.toUInt32
    | .error e => fails (e.message ++ ['\n'])
  catch e => fails (Program.errorLine e.toString.toList)

end CommentTasks.Main

/-- Run the program on a command line. -/
def main (words : List String) : IO UInt32 := CommentTasks.Main.runWords (words.map String.toList)
