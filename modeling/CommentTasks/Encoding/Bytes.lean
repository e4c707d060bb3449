/-!
# Bytes
-/

namespace CommentTasks

/-- The content of a file: its bytes. -/
abbrev Bytes := List UInt8

end CommentTasks
