import CommentTasks.Comment.Keyword
import CommentTasks.Ledger.File
import CommentTasks.Source.Extension

/-!
# Lists in options

Options that take several values take them in one text with commas between them.
-/

namespace CommentTasks.Settings

/-- The parts of a text between commas, without blanks at their ends; empty parts say nothing. -/
def splitCommas (t : Text) : List Text := ((t.splitOn ',').map Text.trim).filter (· ≠ [])

/-- The texts in a value: those of its items if it is a list, else those of its text. -/
def splitValue (room : Depth) : Value → Except Value.Unshown (List Text)
  | .null => .ok []
  | .list items => (items.mapM (Value.shown room)).map fun ts => splitCommas (Text.join "," ts)
  | .pair a b => ([a, b].mapM (Value.shown room)).map fun ts => splitCommas (Text.join "," ts)
  | v => (v.shown room).map splitCommas

/-- The texts in an option, which may be missing. -/
def splitOption (option : Option Text) : List Text := (option.map splitCommas).getD []

/-- The extensions that an option asks for. -/
def extensionTexts (option : Option Text) : List Text :=
  let given := (splitOption option).map withDot
  if given = [] then standardExtensions else given

/-- The keywords that an option and keyword files ask for. -/
def keywordList (option : Option Text) (fromFiles : List Wide) : List Wide :=
  let given := (splitOption option).map .text ++ fromFiles
  if given = [] then Keywords.standard.map .text else given

/-- Where the ledger of a vault is kept: at the path of the option as seen from the vault. -/
def ledgerPath (option : Option Text) (vault : PathName) : PathName :=
  match option with
  | none => vault.child Ledger.standardFileName
  | some t =>
    if Text.trim t = [] then vault.child Ledger.standardFileName
    else vault.append (PathName.ofText t)

end CommentTasks.Settings
