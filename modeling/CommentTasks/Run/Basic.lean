import CommentTasks.Keyword.File
import CommentTasks.Run.Report
import CommentTasks.Settings.Basic
import CommentTasks.Settings.Lists
import CommentTasks.Source.Scan

/-!
# Runs

A run looks for the tasks of a project, and adds those that are new to a note of a vault and to the
ledger. It is planned first, which only reads files; carrying the plan out writes the note and then
the ledger, and nothing at all if there is no new task.
-/

namespace CommentTasks

/-- What a run is asked for. An operand may say nothing at all. -/
structure Request where
  command : Option Text
  project : Option Text
  vault : Option Text
  /-- The path of the note as seen from the vault. -/
  note : Option Text
  settings : Settings := {}
  asJson : Bool := false
  deriving DecidableEq, Repr

/-- Why a run fails. -/
inductive RunError
  | unsupportedCommand (command : Option Text)
  /-- The operand for a directory says nothing. -/
  | noDirectory
  /-- The operand for the note says nothing. -/
  | noNote
  | resolve (e : FileTree.ResolveError)
  | keywordFile (e : KeywordFileError)
  | noKeywords
  | ledger (e : LedgerError)
  /-- The clock shows a moment of this year, which is outside the calendar. -/
  | yearOutOfRange (year : Int)
  | access (e : AccessError)
  | note (e : DocumentError)
  deriving DecidableEq, Repr

/-- The wording of an error. -/
def RunError.message : RunError → Text
  | .unsupportedCommand command =>
    "Unsupported command \"".toList ++ command.getD "[]".toList ++ "\". Use \"scan\".".toList
  | .noDirectory => "expected str, bytes or os.PathLike object, not list".toList
  | .noNote => "unsupported operand type(s) for /: 'PosixPath' and 'list'".toList
  | .resolve e => e.message
  | .keywordFile e => e.message
  | .noKeywords => "キーワードが1つも指定されていません".toList
  | .ledger e => e.message
  | .yearOutOfRange year => "year ".toList ++ Text.ofInt year ++ " is out of range".toList
  | .access e => e.message
  | .note e => e.message

namespace Run

/-- The one command. -/
def command : Text := "scan".toList

/-- The directory that an operand names, without links on the way. -/
def directory (t : FileTree) (operand : Option Text) : Except RunError PathName :=
  match operand with
  | some text => (t.resolve (.ofText text)).mapError .resolve
  | none => .error .noDirectory

/-- The keywords of the keyword files, file by file. -/
def fileKeywords (t : FileTree) : List Text → Except RunError (List Wide)
  | [] => .ok []
  | path :: rest => do
    let keywords ← (KeywordFile.load t path).mapError .keywordFile
    return keywords ++ (← fileKeywords t rest)

/-- The keywords that the settings ask for. -/
def keywords (t : FileTree) (s : Settings) : Except RunError (List Wide) := do
  return Settings.keywordList s.keywords (← fileKeywords t s.keywordFiles)

/-- The stamp of a reading of the clock. -/
def stamp (clock : Clock) (reading : Nat) : Except RunError Text :=
  (clock reading).stamp.mapError .yearOutOfRange

/-- The tasks of a project. No text of a source file begins with a keyword that is torn, so there
are none if all keywords are. -/
def tasks (t : FileTree) (keywords : List Wide) (extensions : List Text) (project : PathName) :
    Except RunError (List Task) :=
  match Keywords.ofTexts? (keywords.filterMap Wide.text?) with
  | some ks => (t.tasksOfProject ks extensions project).mapError .access
  | none =>
    if keywords.all (·.text?.isSome) then .error .noKeywords
    else ((t.walk extensions project).mapError .access).map fun _ => []

/-- The new tasks among those of a project. -/
def news (clock : Clock) (ledger : Ledger) (tasks : List Task) : Except RunError (List News) :=
  (News.stampAll clock 1 (News.unknownTasks ledger.digests tasks)).mapError .yearOutOfRange

/-- What a run is going to write. -/
structure Plan where
  note : PathName
  ledgerPath : PathName
  /-- The ledger before the run. -/
  ledger : Ledger
  /-- The stamp of the beginning of the run. -/
  stamp : Text
  news : List News

namespace Plan

/-- The section that is added to the note. -/
def sectionText (p : Plan) : Text := Note.sectionText (News.sectionLines p.stamp p.news)

/-- The ledger after the run. -/
def newLedger (p : Plan) : Ledger := p.ledger.markAll (p.news.map News.entry)

/-- What the run reports. -/
def report (p : Plan) : Report := ⟨p.note, p.news⟩

/-- Write the note, then the ledger. -/
def write (p : Plan) (t : FileTree) : FileTree × Except RunError Unit :=
  match t.readDocument p.note with
  | .error e => (t, .error (.note e))
  | .ok existing =>
    match t.writeDocument p.note (Note.merge existing p.sectionText) with
    | ⟨t, some e⟩ => (t, .error (.access e))
    | ⟨t, none⟩ =>
      match p.newLedger.save t p.ledgerPath with
      | ⟨t, some e⟩ => (t, .error (.access e))
      | ⟨t, none⟩ => (t, .ok ())

/-- Carry out the plan. -/
def carryOut (p : Plan) (t : FileTree) : FileTree × Except RunError Unit :=
  if p.news = [] then (t, .ok ()) else p.write t

end Plan

/-- Plan a run. -/
def plan (t : FileTree) (clock : Clock) (r : Request) : Except RunError Plan := do
  if r.command ≠ some command then throw (.unsupportedCommand r.command)
  let project ← directory t r.project
  let vault ← directory t r.vault
  let some noteText := r.note | throw .noNote
  let note := vault.append (.ofText noteText)
  let ledgerPath := Settings.ledgerPath r.settings.ledger vault
  let keywords ← keywords t r.settings
  let ledger ← (Ledger.load t ledgerPath).mapError .ledger
  let stamp ← stamp clock 0
  let tasks ← tasks t keywords (Settings.extensionTexts r.settings.extensions) project
  return { note, ledgerPath, ledger, stamp, news := ← news clock ledger tasks }

/-- Plan a run and carry it out. -/
def run (t : FileTree) (clock : Clock) (r : Request) : FileTree × Except RunError Report :=
  match plan t clock r with
  | .error e => (t, .error e)
  | .ok p =>
    match p.carryOut t with
    | (t, .ok ()) => (t, .ok p.report)
    | (t, .error e) => (t, .error e)

end Run

end CommentTasks
