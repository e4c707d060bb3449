import CommentTasks.Digest.Sha1
import CommentTasks.Encoding.Utf8
import CommentTasks.Task.Basic

/-!
# The identity of a task

Two tasks count as the same if their digests are equal. The digest is the front of the SHA-1 of the
file, the line and the message; the keyword stands in for an empty message.
-/

namespace CommentTasks

/-- The text that a digest is made of. -/
def identityText (path : Text) (line : Int) (message : Text) : Text :=
  path ++ ':' :: Text.ofInt line ++ ':' :: message

/-- The number of hexadecimal digits of a digest. -/
def digestLength : Nat := 8

/-- The digest of a file, a line and a message. -/
def identityDigest (path : Text) (line : Int) (message : Text) : Text :=
  (Sha1.hexDigest (Utf8.encode (identityText path line message))).take digestLength

namespace Task

/-- What a task is called: its message, or its keyword if there is no message. -/
def label (t : Task) : Text :=
  let message := Text.trim t.message
  if message = [] then t.keyword else message

/-- The digest of a task. -/
def digest (t : Task) : Text := identityDigest t.path t.line t.label

end Task

end CommentTasks
