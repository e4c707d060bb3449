import CommentTasks.FileTree.Document
import CommentTasks.Json.Parser
import CommentTasks.Text.Blank
import CommentTasks.Value.Show

/-!
# Keyword files

A keyword file lists keywords: it is a JSON document, or a YAML document if its suffix says so, and
either a list or a map with the list under `patterns`. Every item has to be a text, which may be
torn; blank ones are left out. YAML documents are read by the reader of the host.
-/

namespace CommentTasks

/-- Why a keyword file cannot be read. -/
inductive KeywordFileError
  /-- There is no file at the path. -/
  | missing (path : Text)
  | access (e : AccessError)
  | encoding (e : Utf8.DecodeError)
  | json (e : Json.ParseError)
  /-- The text is no YAML document. -/
  | yaml (path wording : Text)
  /-- The reader of YAML documents has failed in another way, which is expected or not. -/
  | yamlReader (isExpected : Bool) (message : Text)
  /-- The document is no list of keywords. -/
  | notAList (path : Text)
  /-- A keyword is no text but has this notation. -/
  | notAText (shown : Text)
  /-- A keyword is no text, and is not shown. -/
  | unshown (e : Value.Unshown)
  deriving DecidableEq, Repr

/-- The wording of an error. -/
def KeywordFileError.message : KeywordFileError → Text
  | .missing path => path
  | .access e => e.message
  | .encoding e => e.message
  | .json e => e.message
  | .yaml path wording => "YAMLの解析に失敗しました: ".toList ++ path ++ ": ".toList ++ wording
  | .yamlReader _ message => message
  | .notAList path =>
    "キーワードファイルは配列(または patterns: [...])である必要があります: ".toList ++ path
  | .notAText t => "キーワードは文字列で指定してください: ".toList ++ t
  | .unshown e => e.message

namespace KeywordFile

/-- The member that holds the list of a map. -/
def listKey : Text := "patterns".toList

/-- The items of the list in a JSON document. -/
def jsonItems? (v : Json Wide) : Option (List Value) :=
  let list? : Json Wide → Option (List Value)
    | .array items => some (Value.ofItems items)
    | _ => none
  match v with
  | .object members => (members.lookup (.text listKey)).bind list?
  | v => list? v

/-- The items of the list in a YAML document. -/
def yamlItems? (o : YamlObject) : Option (List Value) :=
  let list? : YamlObject → Option (List Value)
    | .list items => some items
    | _ => none
  match o with
  | .map member? => (member? listKey).bind list?
  | o => list? o

/-- The keywords among the items of a list. -/
def keywordsOf (room : Depth) : List Value → Except KeywordFileError (List Wide)
  | [] => .ok []
  | .text t :: rest => do
    let keywords ← keywordsOf room rest
    let keyword := Text.trim t
    return if keyword = [] then keywords else .text keyword :: keywords
  | .torn codes :: rest => do
    return .torn codes :: (← keywordsOf room rest)
  | v :: _ =>
    match v.literal room with
    | .ok t => .error (.notAText t)
    | .error e => .error (.unshown e)

/-- The suffix says that the file is a YAML document. -/
def isYamlName (path : PathName) : Bool :=
  [".yaml".toList, ".yml".toList].contains (Text.lower path.suffix)

/-- The items of the list in the text of a keyword file. -/
def itemsOf? (host : Host) (isYaml : Bool) (path t : Text) :
    Except KeywordFileError (Option (List Value)) :=
  if isYaml then
    match host.readYaml t with
    | .ok o => .ok (yamlItems? o)
    | .error (.malformed wording) => .error (.yaml path wording)
    | .error (.other isExpected message) => .error (.yamlReader isExpected message)
  else (Json.parse host t).mapError .json |>.map jsonItems?

/-- Read the keyword file at a path. -/
def load (t : FileTree) (path : Text) : Except KeywordFileError (List Wide) := do
  let name := PathName.ofText path
  if ← (t.isFile name.toText).mapError .access then
    let bytes ← (t.readBytes name.toText).mapError .access
    let text ← (Utf8.readMarkedDocument bytes).mapError .encoding
    match ← itemsOf? t.host (isYamlName name) path text with
    | some items => keywordsOf t.host.depths.shown items
    | none => .error (.notAList path)
  else .error (.missing path)

end KeywordFile

end CommentTasks
