import CommentTasks.FileTree.PathName
import CommentTasks.Text.Blank
import CommentTasks.Text.Case

/-!
# Extensions of source files

A file is chosen by its suffix, or by its whole name if it has no suffix, in any letter case. An
extension may be given with or without the dot.
-/

namespace CommentTasks

/-- The extensions of source files that are read when none are given. -/
def standardExtensions : List Text :=
  [".ts", ".tsx", ".js", ".jsx", ".mjs", ".cjs", ".rs", ".py", ".go", ".java", ".kt", ".swift",
    ".c", ".cpp", ".h", ".hpp", ".php", ".sh", ".ps1", ".sql", ".ini", ".toml", ".yaml", ".yml",
    ".json", ".md", ".html", ".css"].map String.toList

/-- The text begins with a dot. -/
def beginsWithDot (t : Text) : Bool := t.head? = some '.'

/-- The text behind a dot, unless it begins with one. -/
def withDot (t : Text) : Text := if beginsWithDot t then t else '.' :: t

/-- The extensions of a list in their common form: small letters behind a dot. Blank ones are left
out. -/
def normalExtensions (extensions : List Text) : List Text :=
  ((extensions.map fun e => Text.lower (Text.trim e)).filter (· ≠ [])).map withDot

/-- A file of this name is chosen by extensions in their common form. -/
def matchesExtension (extensions : List Text) (name : Text) : Bool :=
  let suffix := Text.lower (PathName.suffixOf name)
  if suffix = [] then extensions.contains ('.' :: Text.lower name) else extensions.contains suffix

end CommentTasks
