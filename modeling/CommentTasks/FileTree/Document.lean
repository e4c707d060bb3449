import CommentTasks.FileTree.Access

/-!
# Documents on a file tree

Notes and ledgers are files of UTF-8 text. A file that is not there reads as an empty text, and a
file is written together with the directories above it. A text with half a surrogate pair has no
bytes: its file is opened, and is left empty.
-/

namespace CommentTasks

/-- Why a document cannot be read. -/
inductive DocumentError
  | access (e : AccessError)
  | encoding (e : Utf8.DecodeError)
  deriving DecidableEq, Repr

/-- The wording of an error. -/
def DocumentError.message : DocumentError → Text
  | .access e => e.message
  | .encoding e => e.message

namespace FileTree

/-- The text of a document, with line feeds alone between its lines. -/
def readDocument (t : FileTree) (path : PathName) : Except DocumentError Text := do
  if ← (t.isFile path.toText).mapError .access then
    let bytes ← (t.readBytes path.toText).mapError .access
    (Utf8.readDocument bytes).mapError .encoding
  else return []

/-- Write the text of a document. -/
def writeDocument (t : FileTree) (path : PathName) (content : Text) : Change :=
  t.writeBytesDeep path (Utf8.encode content)

/-- Write a document whose text has no bytes. -/
def writeUnencodable (t : FileTree) (path : PathName) : Change :=
  match t.writeBytesDeep path [] with
  | ⟨t, none⟩ => ⟨t, some ⟨.unencodable t.host.surrogateWording, path.toText⟩⟩
  | cutShort => cutShort

end FileTree

end CommentTasks
