import CommentTasks.Text.Basic

/-!
# Tokens of a YAML text
-/

namespace CommentTasks.Yaml

/-- What a directive before a document says. -/
inductive Directive
  | version (major : Nat)
  | tagHandle (handle shortFor : Text)
  | other
  deriving DecidableEq, Repr

/-- A token. Block collections are opened and closed by tokens of their own, which stand where the
indentation changes. -/
inductive Token
  | directive (d : Directive)
  | documentStart
  | documentEnd
  | streamEnd
  | blockSequenceStart
  | blockMappingStart
  | blockEnd
  | flowSequenceStart
  | flowMappingStart
  | flowSequenceEnd
  | flowMappingEnd
  | blockEntry
  | flowEntry
  | key
  | value
  | alias (name : Text)
  | anchor (name : Text)
  | tag (handle : Option Text) (suffix : Text)
  | scalar (text : Text) (plain : Bool)
  deriving DecidableEq, Repr

end CommentTasks.Yaml
