import CommentTasks.FileTree.Document
import CommentTasks.Json.Parser
import CommentTasks.Json.Printer
import CommentTasks.Ledger.Basic
import CommentTasks.Text.Blank
import CommentTasks.Value.Show

/-!
# The ledger file

A ledger is kept as a JSON object whose member `seen` holds the digests with their stamps. A file
that is missing or blank is an empty ledger. Stamps that are no texts are read as their notation. A
ledger with half a surrogate pair is read but cannot be written: its file is emptied.
-/

namespace CommentTasks

/-- Why a ledger file cannot be read. -/
inductive LedgerError
  | document (e : DocumentError)
  | malformed (path : Text) (e : Json.ParseError)
  /-- More brackets are open, or more values of a stamp are nested, than calls can be. -/
  | tooDeep
  /-- The document has no object of digests. -/
  | structure (path : Text)
  /-- A stamp is an integer with too many digits. -/
  | unshownStamp
  deriving DecidableEq, Repr

/-- The wording of an error. -/
def LedgerError.message : LedgerError → Text
  | .document e => e.message
  | .malformed path e =>
    "Failed to parse state file \"".toList ++ path ++ "\": ".toList ++ e.message
  | .tooDeep => tooDeepText
  | .structure path =>
    "Failed to parse state file \"".toList ++ path ++
      "\": Invalid state file structure.".toList
  | .unshownStamp => tooManyDigitsToShow

namespace Ledger

/-- The name of the ledger file in a vault. -/
def standardFileName : Text := ".obs_task_state.json".toList

/-- The ledger as a document. -/
def toJson (l : Ledger) : Json Text :=
  .object [("seen".toList, .object (l.entries.map fun (digest, stamp) => (digest, .string stamp)))]

/-- The text of the ledger file. -/
def toText (l : Ledger) : Text := l.toJson.print ++ ['\n']

/-- The stamp that a value of a document is. -/
def stampOf (room : Depth) : Json Wide → Except Value.Unshown Wide
  | .string s => .ok s
  | v => ((Value.ofJson v).shown room).map .text

/-- The digests of an object with their stamps. -/
def stampsOf (room : Depth) (members : List (Wide × Json Wide)) :
    Except Value.Unshown (List (Wide × Wide)) :=
  members.mapM fun (digest, v) => (stampOf room v).map fun stamp => (digest, stamp)

/-- An entry for a digest that is a text. -/
def entryOf? : Wide × Wide → Option (Text × Text)
  | (.text digest, .text stamp) => some (digest, stamp)
  | (.text digest, stamp) => some (digest, stamp.quoted)
  | (.torn _, _) => none

/-- The digest and its stamp are texts. -/
def isWhole : Wide × Wide → Bool
  | (.text _, .text _) => true
  | _ => false

/-- The ledger of digests with their stamps; a digest replaces an earlier one. -/
def ofStamps (stamps : List (Wide × Wide)) : Ledger :=
  { ofEntries (stamps.filterMap entryOf?) with isTorn := !stamps.all isWhole }

/-- Read the text of a ledger file, which stands at `path`. -/
def ofText (host : Host) (path t : Text) : Except LedgerError Ledger :=
  if Text.isAllBlank t then .ok empty
  else
    match Json.parse host t with
    | .error .tooDeep => .error .tooDeep
    | .error e => .error (.malformed path e)
    | .ok v =>
      match v.member? (.text "seen".toList) with
      | some (.object members) =>
        match stampsOf host.depths.shown members with
        | .ok stamps => .ok (ofStamps stamps)
        | .error .tooDeep => .error .tooDeep
        | .error .tooManyDigits => .error .unshownStamp
      | _ => .error (.structure path)

/-- Read the ledger file at a path. -/
def load (t : FileTree) (path : PathName) : Except LedgerError Ledger :=
  match t.readDocument path with
  | .ok text => ofText t.host path.toText text
  | .error e => .error (.document e)

/-- Write the ledger file at a path. -/
def save (l : Ledger) (t : FileTree) (path : PathName) : FileTree.Change :=
  if l.isTorn then t.writeUnencodable path else t.writeDocument path l.toText

end Ledger

end CommentTasks
