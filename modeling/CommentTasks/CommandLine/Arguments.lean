import CommentTasks.CommandLine.Words
import CommentTasks.Run.Basic
import CommentTasks.Text.Numeral

/-!
# Arguments of the command line

The words of a command line as a request: four operands, and options anywhere between them.
-/

namespace CommentTasks

/-- What a command line asks for. -/
structure Arguments where
  request : Request
  /-- The path of the settings file. -/
  settingsFile : Option Text := none
  deriving DecidableEq, Repr

namespace Arguments

/-- What was read so far. -/
structure Draft where
  /-- The operands. One that says nothing is a second `--`. -/
  operands : List (Option Text) := []
  settings : Settings := {}
  settingsFile : Option Text := none
  asJson : Bool := false
  /-- Words that are not wanted. -/
  extras : List Text := []

/-- What the operands are called. -/
def operandNames : List Text :=
  ["command".toList, "project_dir".toList, "vault_dir".toList, "note_path".toList]

namespace Draft

/-- An operand is still missing. -/
def wantsOperand (d : Draft) : Bool := d.operands.length < operandNames.length

/-- Take an operand. -/
def takeOperand (d : Draft) (operand : Option Text) : Draft :=
  { d with operands := d.operands ++ [operand] }

/-- Take a word that is not wanted. -/
def takeExtra (d : Draft) (w : Word) : Draft := { d with extras := d.extras ++ [w.text] }

/-- Take an option with its argument. -/
def takeOption (d : Draft) (o : CommandOption) (argument : Text) : Except UsageError Draft :=
  let s := d.settings
  match o with
  | .keywords => .ok { d with settings := { s with keywords := some argument } }
  | .keywordFile =>
    .ok { d with settings := { s with keywordFiles := s.keywordFiles ++ [argument] } }
  | .extensions => .ok { d with settings := { s with extensions := some argument } }
  | .ledger => .ok { d with settings := { s with ledger := some argument } }
  | .settingsFile => .ok { d with settingsFile := some argument }
  | .workers =>
    match Numeral.readInteger 10 argument with
    | .ok n => .ok { d with settings := { s with workers := some n } }
    | .error _ => .error (.notAnInteger o argument)
  | .json => .ok { d with asJson := true }
  | .help => .ok d

/-- Take the words one after the other. Nothing comes back if help is asked for. -/
def takeWords (d : Draft) : List Word → Except UsageError (Option Draft)
  | [] => .ok (some d)
  | .option o (some argument) :: rest =>
    if o.takesArgument then do (← d.takeOption o argument).takeWords rest
    else .error (.refusedArgument o argument)
  | .option .help none :: _ => .ok none
  | .option .json none :: rest => { d with asJson := true }.takeWords rest
  | .option o none :: .operand t :: rest => do (← d.takeOption o t).takeWords rest
  | .option o none :: _ => .error (.missingArgument o)
  | .mark :: .operand t :: rest =>
    if d.wantsOperand then (d.takeOperand (some t)).takeWords rest
    else ((d.takeExtra .mark).takeExtra (.operand t)).takeWords rest
  | .operand t :: .mark :: rest =>
    if d.wantsOperand then (d.takeOperand (some t)).takeWords rest
    else ((d.takeExtra (.operand t)).takeExtra .mark).takeWords rest
  | .operand t :: rest =>
    if d.wantsOperand then
      (d.takeOperand (if t = "--".toList then none else some t)).takeWords rest
    else (d.takeExtra (.operand t)).takeWords rest
  | w :: rest => (d.takeExtra w).takeWords rest

/-- The arguments, once all words are taken. -/
def finish (d : Draft) : Except UsageError Arguments :=
  match d.operands with
  | [command, project, vault, note] =>
    if d.extras = [] then
      .ok
        { request := { command, project, vault, note, settings := d.settings, asJson := d.asJson }
          settingsFile := d.settingsFile }
    else .error (.unrecognized d.extras)
  | operands => .error (.missingOperands (operandNames.drop operands.length))

end Draft

/-- Read a command line. Nothing comes back if help is asked for. -/
def ofTexts (texts : List Text) : Except UsageError (Option Arguments) := do
  match ← Draft.takeWords {} (← Word.ofTexts texts) with
  | some d => return some (← d.finish)
  | none => return none

end Arguments

end CommentTasks
