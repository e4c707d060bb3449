import CommentTasks.FileTree.Access
import CommentTasks.Settings.Basic
import CommentTasks.Settings.Lists
import CommentTasks.Text.Numeral
import CommentTasks.Toml.Document

/-!
# The settings file

A settings file is a TOML document with a table `tool.obstasks`. Its members are settings; one that
was given before is left alone. The settings are taken over one after the other, up to the first
that cannot be. No text of a TOML document is torn.
-/

namespace CommentTasks

/-- Why a settings file is not taken over as a whole. -/
inductive SettingsError
  | access (e : AccessError)
  | encoding (e : Utf8.DecodeError)
  /-- The text is no TOML document; what is said of a rule that it breaks comes from the host. -/
  | toml (wording : Text) (e : Toml.Fault)
  /-- A value of this kind stands in the place of the table. -/
  | notATable (kind : Text)
  /-- A text stands in the place of the table. -/
  | textForTable
  /-- A list stands in the place of the table. -/
  | listForTable
  /-- A value is not shown. -/
  | unshown (e : Value.Unshown)
  | integer (e : Numeral.IntegerError)
  /-- A value of this kind stands in the place of a number. -/
  | notANumber (kind : Text)
  | infiniteNumber
  | undefinedNumber
  deriving DecidableEq, Repr

/-- The wording of an error. -/
def SettingsError.message : SettingsError → Text
  | .access e => e.message
  | .encoding e => e.message
  | .toml wording e => e.message wording
  | .notATable kind => "argument of type '".toList ++ kind ++ "' is not iterable".toList
  | .textForTable => "string indices must be integers, not 'str'".toList
  | .listForTable => "list indices must be integers or slices, not str".toList
  | .unshown e => e.message
  | .integer e => e.message
  | .notANumber kind =>
    ("int() argument must be a string, a bytes-like object or a real number, " ++
      "not '").toList ++ kind ++ "'".toList
  | .infiniteNumber => "cannot convert float infinity to integer".toList
  | .undefinedNumber => "cannot convert float NaN to integer".toList

/-- The kind of a value, as it is named in messages. -/
def Value.kind : Value → Text
  | .null => "NoneType".toList
  | .bool _ => "bool".toList
  | .int _ => "int".toList
  | .float _ => "float".toList
  | .text _ | .torn _ => "str".toList
  | .bytes _ => "bytes".toList
  | .date _ => "datetime.date".toList
  | .time _ => "datetime.time".toList
  | .dateTime .. => "datetime.datetime".toList
  | .list _ | .again false => "list".toList
  | .pair .. => "tuple".toList
  | .set _ => "set".toList
  | .map _ | .again true => "dict".toList

/-- The value is a text and this one. -/
def Value.isText (t : Text) : Value → Bool
  | .text x => x = t
  | _ => false

namespace Settings

/-- The place of the table of settings in a document, which may hold something else, and how deeply
values are nested that are shown. -/
structure Table where
  value : Value
  room : Depth := none

/-- The value of a member of the table. -/
def Table.member? (table : Table) (key : Text) : Option Value := table.value.member? key

/-- The value of a setting that was not given before. The place of the table may hold something
else: a text or a list that does not mention the setting says nothing about it. -/
def member? (table : Table) (given : Bool) (key : Text) : Except SettingsError (Option Value) :=
  match table.value with
  | .map ms => .ok (if given then none else Value.member? key (.map ms))
  | .text t => if Text.occursIn key t ∧ !given then .error .textForTable else .ok none
  | .list vs => if vs.any (Value.isText key) ∧ !given then .error .listForTable else .ok none
  | v => .error (.notATable v.kind)

/-- A value as a text with commas between its parts. -/
def listText (room : Depth) (v : Value) : Except SettingsError Text :=
  ((splitValue room v).map (Text.join ",")).mapError .unshown

/-- A value as a text. -/
def shownText (room : Depth) (v : Value) : Except SettingsError Text :=
  (v.shown room).mapError .unshown

/-- A value as an integer; the places of a number are cut off. -/
def integerOf : Value → Except SettingsError Int
  | .int n => .ok n
  | .bool b => .ok (if b then 1 else 0)
  | .float .nan => .error .undefinedNumber
  | .float x =>
    match x.truncate? with
    | some n => .ok n
    | none => .error .infiniteNumber
  | .text t => (Numeral.readInteger 10 t).mapError .integer
  | v => .error (.notANumber v.kind)

/-- Take over the keywords. -/
def takeKeywords (table : Table) (s : Settings) : Except SettingsError Settings := do
  match ← member? table s.keywords.isSome "patterns".toList with
  | some v => return { s with keywords := some (← listText table.room v) }
  | none => return s

/-- Take over the extensions. -/
def takeExtensions (table : Table) (s : Settings) : Except SettingsError Settings := do
  match ← member? table s.extensions.isSome "exts".toList with
  | some v => return { s with extensions := some (← listText table.room v) }
  | none => return s

/-- Take over the path of the ledger. -/
def takeLedger (table : Table) (s : Settings) : Except SettingsError Settings := do
  match ← member? table s.ledger.isSome "state".toList with
  | some v => return { s with ledger := some (← shownText table.room v) }
  | none => return s

/-- Take over the number of workers. -/
def takeWorkers (table : Table) (s : Settings) : Except SettingsError Settings := do
  match ← member? table s.workers.isSome "jobs".toList with
  | some v => return { s with workers := some (← integerOf v) }
  | none => return s

/-- Take over the keyword files; only a list says which they are. -/
def takeKeywordFiles (table : Table) (s : Settings) : Except SettingsError Settings := do
  match ← member? table (s.keywordFiles ≠ []) "patternsFiles".toList with
  | some (.list items) => return { s with keywordFiles := ← items.mapM (shownText table.room) }
  | _ => return s

/-- Take over one setting after the other. What was taken over before an error stays. -/
def takeEach (s : Settings) :
    List (Settings → Except SettingsError Settings) → Settings × Option SettingsError
  | [] => (s, none)
  | take :: rest =>
    match take s with
    | .ok s => takeEach s rest
    | .error e => (s, some e)

/-- Take over the settings of a table. -/
def takeTable (s : Settings) (table : Table) : Settings × Option SettingsError :=
  s.takeEach [takeKeywords table, takeExtensions table, takeLedger table, takeWorkers table,
    takeKeywordFiles table]

/-- The table of settings in a document; one that is missing is empty. -/
def tableOf (host : Host) (document : Value) : Table where
  value :=
    match document.member? "tool".toList with
    | some (.map ms) => (Value.member? "obstasks".toList (.map ms)).getD (.map [])
    | _ => .map []
  room := host.depths.shown

/-- The document of a settings file. -/
def readFile (t : FileTree) (path : PathName) : Except SettingsError Value := do
  let bytes ← (t.readBytes path.toText).mapError .access
  let text ← (Utf8.decode bytes).mapError .encoding
  (Toml.parse t.host text).mapError (.toml (t.host.tomlWording text))

/-- Take over the settings of a file. -/
def takeFile (s : Settings) (t : FileTree) (path : PathName) : Settings × Option SettingsError :=
  match readFile t path with
  | .ok document => s.takeTable (tableOf t.host document)
  | .error e => (s, some e)

/-- The name of a settings file says that it is a TOML document. -/
def isFileName (path : PathName) : Bool := Text.lower path.suffix = ".toml".toList

end Settings

end CommentTasks
