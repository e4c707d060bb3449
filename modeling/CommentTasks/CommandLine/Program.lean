import CommentTasks.CommandLine.Arguments
import CommentTasks.Settings.File

/-!
# The program

What a command line does to a file tree: the settings file is taken over, the run is made, and its
report is printed. Errors that a user can mend are reported; the others end the program at once.
-/

namespace CommentTasks

/-- An error that ends the program at once. -/
inductive Failure
  /-- The settings file cannot be looked for. -/
  | access (e : AccessError)
  | settings (e : SettingsError)
  | run (e : RunError)
  deriving DecidableEq, Repr

/-- The wording of a failure. -/
def Failure.message : Failure → Text
  | .access e => e.message
  | .settings e => e.message
  | .run e => e.message

/-- How the program ends: with an exit code or a failure, what it has printed, and the files
then. -/
structure Outcome where
  exit : Except Failure Nat
  output : Text := []
  errors : Text := []
  tree : FileTree

namespace Program

/-- The name of the program. -/
def name : Text := "obstasks".toList

/-- How the program is called. -/
def usage : Text :=
  "usage: ".toList ++ name ++ (" [-h] [--patterns PATTERNS] [--patterns-file FILE] [--exts EXTS] " ++
    "[--state STATE] [--config CONFIG] [--jobs JOBS] [--json] ").toList ++
    Text.join " " Arguments.operandNames ++ ['\n']

/-- The error is reported. Operands that say nothing, a circle of links and what is nested too deep
end the program instead, as may the reader of YAML documents. -/
def isReported : RunError → Bool
  | .noDirectory | .noNote => false
  | .resolve (.loop _) | .resolve .tooDeep => false
  | .keywordFile (.json .tooDeep) | .keywordFile (.unshown .tooDeep) => false
  | .keywordFile (.yamlReader isExpected _) => isExpected
  | .ledger .tooDeep => false
  | .access e => e.problem ≠ .tooDeep
  | _ => true

/-- The error of a settings file is a warning. An infinite number and what is nested too deep end the
program instead. -/
def isWarning : SettingsError → Bool
  | .infiniteNumber | .toml _ .tooDeep | .unshown .tooDeep => false
  | _ => true

/-- The settings after the settings file, and the warning about it. -/
def settle (t : FileTree) (a : Arguments) : Except Failure (Settings × Text) :=
  let s := a.request.settings
  match a.settingsFile.filter (· ≠ []) with
  | none => .ok (s, [])
  | some text => do
    let path := PathName.ofText text
    let there ← (t.isFile path.toText).mapError .access
    if there && Settings.isFileName path then
      match s.takeFile t path with
      | (s, none) => return (s, [])
      | (s, some e) =>
        if isWarning e then
          return (s, "[warn] failed to load config ".toList ++ path.toText ++ ": ".toList ++
            e.message ++ ['\n'])
        else throw (.settings e)
    else
      return (s, "[warn] config file not found or not TOML: ".toList ++ path.toText ++ ['\n'])

/-- The line that reports an error. -/
def errorLine (message : Text) : Text := "[ERROR] ".toList ++ message ++ ['\n']

/-- How the program ends once a run was made. A report that cannot be printed as a whole is an
error. -/
def ended (host : Host) (asJson : Bool) (warning : Text) :
    FileTree × Except RunError Report → Outcome
  | (tree, .ok report) =>
    let output := report.toText asJson
    match host.cutsOutput output with
    | none => { exit := .ok 0, output, errors := warning, tree }
    | some (printed, reason) =>
      { exit := .ok 1, output := output.take printed, errors := warning ++ errorLine reason, tree }
  | (tree, .error e) =>
    if isReported e then { exit := .ok 1, errors := warning ++ errorLine e.message, tree }
    else { exit := .error (.run e), errors := warning, tree }

/-- Run the program on a command line that was read. -/
def runArguments (t : FileTree) (clock : Clock) (a : Arguments) : Outcome :=
  match settle t a with
  | .error e => { exit := .error e, tree := t }
  | .ok (settings, warning) =>
    ended t.host a.request.asJson warning (Run.run t clock { a.request with settings })

/-- Run the program on the words of a command line. -/
def run (t : FileTree) (clock : Clock) (words : List Text) : Outcome :=
  match Arguments.ofTexts words with
  | .ok (some a) => runArguments t clock a
  | .ok none => { exit := .ok 0, output := usage, tree := t }
  | .error e =>
    { exit := .ok 2, errors := name ++ ": error: ".toList ++ e.message ++ ['\n'], tree := t }

end Program

end CommentTasks
