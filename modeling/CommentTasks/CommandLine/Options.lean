import CommentTasks.Text.Basic
import CommentTasks.Text.Printable

/-!
# Options of the command line

The options with their spellings, and what may be wrong with a command line.
-/

namespace CommentTasks

/-- An option of the command line. -/
inductive CommandOption
  | help
  | keywords
  | keywordFile
  | extensions
  | ledger
  | settingsFile
  | workers
  | json
  deriving DecidableEq, Repr

namespace CommandOption

/-- The spellings of all options, in the order in which they are named. -/
def spellings : List (Text × CommandOption) :=
  [("-h".toList, .help), ("--help".toList, .help), ("--patterns".toList, .keywords),
    ("--patterns-file".toList, .keywordFile), ("--exts".toList, .extensions),
    ("--state".toList, .ledger), ("--config".toList, .settingsFile),
    ("--jobs".toList, .workers), ("--json".toList, .json)]

/-- The name of an option in messages: its spellings with slashes between them. -/
def name (o : CommandOption) : Text :=
  Text.join "/" ((spellings.filter (·.2 = o)).map (·.1))

/-- The option is followed by an argument. -/
def takesArgument : CommandOption → Bool
  | .help | .json => false
  | _ => true

end CommandOption

/-- What is wrong with a command line. -/
inductive UsageError
  /-- A word is the front of more than one option. -/
  | ambiguous (word : Text) (options : List Text)
  | missingArgument (o : CommandOption)
  /-- An option that takes no argument was given one. -/
  | refusedArgument (o : CommandOption) (argument : Text)
  /-- The argument of an option is no integer. -/
  | notAnInteger (o : CommandOption) (argument : Text)
  | missingOperands (names : List Text)
  /-- Words that are neither options nor wanted as operands. -/
  | unrecognized (words : List Text)
  deriving DecidableEq, Repr

/-- The wording of an error. -/
def UsageError.message : UsageError → Text
  | .ambiguous word options =>
    "ambiguous option: ".toList ++ word ++ " could match ".toList ++ Text.join ", " options
  | .missingArgument o => "argument ".toList ++ o.name ++ ": expected one argument".toList
  | .refusedArgument o argument =>
    "argument ".toList ++ o.name ++ ": ignored explicit argument ".toList ++ Text.quoted argument
  | .notAnInteger o argument =>
    "argument ".toList ++ o.name ++ ": invalid int value: ".toList ++ Text.quoted argument
  | .missingOperands names =>
    "the following arguments are required: ".toList ++ Text.join ", " names
  | .unrecognized words => "unrecognized arguments: ".toList ++ Text.join " " words

end CommentTasks
