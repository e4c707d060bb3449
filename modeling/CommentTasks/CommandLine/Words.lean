import CommentTasks.CommandLine.Options
import CommentTasks.Text.Digit

/-!
# Words of the command line

Each word of a command line is an option or an operand. Options may be shortened as long as only one
is meant, and may carry their argument behind an equals sign. Behind the word `--` all words are
operands.
-/

namespace CommentTasks

/-- What a word of the command line is. -/
inductive Word
  | operand (t : Text)
  /-- The first word `--`. -/
  | mark
  | option (o : CommandOption) (argument : Option Text)
  /-- A word that looks like an option but is none. -/
  | unknown (t : Text)
  deriving DecidableEq, Repr

namespace Word

/-- The text before the first equals sign, and the text behind it if there is one. -/
def splitEquals (t : Text) : Text × Option Text :=
  match Text.breakOn? ['='] t with
  | some (before, behind) => (before, some behind)
  | none => (t, none)

/-- The argument that single letters behind a dash carry. Only the letter `h` is an option, and what
stands behind another letter is passed over. -/
def letterArgument? : Text → Option Text
  | '=' :: rest => some rest
  | '-' :: rest => some ('-' :: rest)
  | 'h' :: rest => letterArgument? rest
  | _ => none

/-- The word is a negative number: a minus and digits, or digits and places; a line feed may
follow. -/
def isNegativeNumber (t : Text) : Bool :=
  let isDigit (c : Char) : Bool := (Text.decimalDigit? c).isSome
  let t := if t.getLast? = some '\n' then t.dropLast else t
  match t with
  | '-' :: rest =>
    match rest.dropWhile isDigit with
    | [] => rest ≠ []
    | '.' :: places => places ≠ [] && places.all isDigit
    | _ => false
  | _ => false

/-- The options that a shortened word may mean, with the word's argument. -/
def meanings (t : Text) : List (Text × CommandOption × Option Text) :=
  match t with
  | '-' :: '-' :: _ =>
    let (front, argument) := splitEquals t
    (CommandOption.spellings.filter (front.isPrefixOf ·.1)).map fun (s, o) => (s, o, argument)
  | '-' :: 'h' :: rest => [("-h".toList, .help, letterArgument? rest)]
  | _ => []

/-- What a word that begins with a dash and is not spelled in full is. -/
def ofShortened (t : Text) : Except UsageError Word :=
  match meanings t with
  | [(_, o, argument)] => .ok (.option o argument)
  | [] =>
    if isNegativeNumber t ∨ ' ' ∈ t then .ok (.operand t) else .ok (.unknown t)
  | found => .error (.ambiguous t (found.map (·.1)))

/-- What a word is. -/
def ofText (t : Text) : Except UsageError Word :=
  if t.head? ≠ some '-' ∨ t.length = 1 then .ok (.operand t)
  else
    match CommandOption.spellings.lookup t with
    | some o => .ok (.option o none)
    | none =>
      match splitEquals t with
      | (front, some argument) =>
        match CommandOption.spellings.lookup front with
        | some o => .ok (.option o (some argument))
        | none => ofShortened t
      | (_, none) => ofShortened t

/-- The text of a word that is no option. -/
def text : Word → Text
  | .operand t => t
  | .mark => "--".toList
  | .option o _ => o.name
  | .unknown t => t

/-- What the words of a command line are. -/
def ofTexts : List Text → Except UsageError (List Word)
  | [] => .ok []
  | t :: rest =>
    if t = "--".toList then .ok (.mark :: rest.map .operand)
    else do
      let word ← ofText t
      return word :: (← ofTexts rest)

end Word

end CommentTasks
