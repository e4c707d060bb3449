import CommentTasks.Proofs.CommandLine.Settings
import CommentTasks.Proofs.Settings.Filled
import CommentTasks.Proofs.Text.Numeral

/-!
# Settings on the command line

Settings that nobody gave may be written in front of a command line: it is then read as it was, with
these settings filled in (`ofTexts_flags_append`). So a settings file that is taken over as a whole
does what its settings do as options: `run_of_settings_file`.
-/

namespace CommentTasks

namespace SettingName

/-- The option that gives the setting. -/
def option : SettingName → CommandOption
  | .keywords => .keywords
  | .extensions => .extensions
  | .ledger => .ledger
  | .workers => .workers
  | .keywordFiles => .keywordFile

/-- How the option is spelled. -/
def flag : SettingName → Text
  | .keywords => "--patterns".toList
  | .extensions => "--exts".toList
  | .ledger => "--state".toList
  | .workers => "--jobs".toList
  | .keywordFiles => "--patterns-file".toList

/-- The option with an argument, as one word. -/
def word (n : SettingName) (argument : Text) : Text := n.flag ++ '=' :: argument

/-- The arguments with which the option has to be given. Each keyword file takes an option of its
own. -/
def arguments (s : Settings) : SettingName → List Text
  | .keywords => s.keywords.toList
  | .extensions => s.extensions.toList
  | .ledger => s.ledger.toList
  | .workers => (s.workers.map Text.ofInt).toList
  | .keywordFiles => s.keywordFiles

/-- The settings `s` with the one setting as the settings `base` have it, if they have it. -/
def give (base s : Settings) : SettingName → Settings
  | .keywords => { s with keywords := base.keywords.or s.keywords }
  | .extensions => { s with extensions := base.extensions.or s.extensions }
  | .ledger => { s with ledger := base.ledger.or s.ledger }
  | .workers => { s with workers := base.workers.or s.workers }
  | .keywordFiles => { s with keywordFiles := s.keywordFiles ++ base.keywordFiles }

/-- A word that gives a setting is read as its option with its argument. -/
theorem ofText_word (n : SettingName) (argument : Text) :
    Word.ofText (n.word argument) = .ok (.option n.option (some argument)) := by
  cases n <;> rfl

theorem word_ne_mark (n : SettingName) (argument : Text) : n.word argument ≠ "--".toList := by
  cases n <;> exact fun h => nomatch h

theorem takesArgument_option (n : SettingName) : n.option.takesArgument = true := by
  cases n <;> rfl

end SettingName

namespace Settings

/-- The words that give the settings. -/
def flags (s : Settings) : List Text :=
  SettingName.all.flatMap fun n => (n.arguments s).map n.word

/-- The same as they are read. -/
def options (s : Settings) : List Word :=
  SettingName.all.flatMap fun n => (n.arguments s).map fun x => .option n.option (some x)

/-- The number of workers can be written on a command line: its digits are not more than may be
read. -/
def Writable (s : Settings) : Prop :=
  ∀ i, s.workers = some i → (Text.ofNat i.natAbs).length ≤ Numeral.maxDigits

/-- The settings, with those of `base` where nothing was given. -/
def withDefaults (s base : Settings) : Settings where
  keywords := s.keywords.or base.keywords
  keywordFiles := base.keywordFiles ++ s.keywordFiles
  extensions := s.extensions.or base.extensions
  ledger := s.ledger.or base.ledger
  workers := s.workers.or base.workers

/-- What the settings hold where `s` holds nothing. -/
def beyond (s' s : Settings) : Settings where
  keywords := if SettingName.given s .keywords then none else s'.keywords
  keywordFiles := if SettingName.given s .keywordFiles then [] else s'.keywordFiles
  extensions := if SettingName.given s .extensions then none else s'.extensions
  ledger := if SettingName.given s .ledger then none else s'.ledger
  workers := if SettingName.given s .workers then none else s'.workers

end Settings

/-- The arguments, with the settings of `base` where none were given. -/
def Arguments.withDefaults (a : Arguments) (base : Settings) : Arguments :=
  { a with request := { a.request with settings := a.request.settings.withDefaults base } }

/-- What was read so far, with the settings of `base` where none were given. -/
def Arguments.Draft.withDefaults (d : Draft) (base : Settings) : Draft :=
  { d with settings := d.settings.withDefaults base }

/-! ### Filling in settings -/

namespace SettingName

variable {n : SettingName} {s s' : Settings}

theorem only_withDefaults_of_given (h : n.given s = true) :
    n.only (s.withDefaults (s'.beyond s)) = n.only s := by
  cases n
  case keywordFiles => simp [only, Settings.withDefaults, Settings.beyond, h]
  all_goals
    obtain ⟨x, hx⟩ := Option.isSome_iff_exists.1 h
    simp [only, Settings.withDefaults, hx]

theorem only_withDefaults_of_not_given (h : n.given s = false) :
    n.only (s.withDefaults (s'.beyond s)) = n.only s' := by
  cases n
  case keywordFiles =>
    have hfiles : s.keywordFiles = [] := by simpa [given] using h
    simp [only, Settings.withDefaults, Settings.beyond, h, hfiles]
  all_goals
    have hnone := Option.isNone_iff_eq_none.1 (Option.isSome_eq_false_iff.1 h)
    simp [only, Settings.withDefaults, Settings.beyond, h, hnone]

end SettingName

/-- Settings in which the given ones stay are the given ones and what lies beyond. -/
theorem Settings.withDefaults_beyond {s s' : Settings}
    (h : ∀ n : SettingName, n.given s = true → n.only s' = n.only s) :
    s.withDefaults (s'.beyond s) = s' := by
  refine SettingName.ext_only fun n => ?_
  cases hg : n.given s with
  | true => rw [SettingName.only_withDefaults_of_given hg, h n hg]
  | false => exact SettingName.only_withDefaults_of_not_given hg

/-! ### Reading a command line with settings in front -/

namespace Word

/-- Words that give settings are read one by one. -/
theorem ofTexts_map_word_append (n : SettingName) (arguments texts : List Text) :
    ofTexts (arguments.map n.word ++ texts) =
      (ofTexts texts).map (arguments.map (fun x => .option n.option (some x)) ++ ·) := by
  induction arguments with
  | nil =>
    rw [List.map_nil, List.nil_append]
    cases ofTexts texts <;> rfl
  | cons x rest ih =>
    rw [List.map_cons, List.cons_append, ofTexts, if_neg (n.word_ne_mark x), n.ofText_word x, ih]
    cases ofTexts texts <;> rfl

theorem ofTexts_flags_append (s : Settings) (texts : List Text) :
    ofTexts (s.flags ++ texts) = (ofTexts texts).map (s.options ++ ·) := by
  unfold Settings.flags Settings.options
  induction SettingName.all with
  | nil => cases h : ofTexts texts <;> simp [h, Except.map]
  | cons n names ih =>
    simp only [List.flatMap_cons, List.append_assoc]
    rw [ofTexts_map_word_append, ih, map_map]
    rfl

end Word

namespace Arguments

open SettingName

variable {d : Draft} {base : Settings} {ws : List Word}

namespace Draft

theorem takeWords_option (n : SettingName) (argument : Text) :
    d.takeWords (.option n.option (some argument) :: ws) =
      d.takeOption n.option argument >>= fun d => d.takeWords ws := by
  rw [takeWords, if_pos n.takesArgument_option]

/-- Options that give a setting of `base` give this one. -/
theorem takeWords_arguments (hb : base.Writable) (n : SettingName) :
    d.takeWords ((n.arguments base).map (fun x => .option n.option (some x)) ++ ws) =
      { d with settings := give base d.settings n }.takeWords ws := by
  cases n <;> simp only [arguments, give]
  case keywords => cases base.keywords <;> rfl
  case extensions => cases base.extensions <;> rfl
  case ledger => cases base.ledger <;> rfl
  case workers =>
    cases hw : base.workers with
    | none => rfl
    | some i =>
      rw [Option.map_some, Option.toList_some, List.map_cons, List.map_nil, List.singleton_append,
        takeWords_option]
      simp only [option, takeOption, Numeral.readInteger_ofInt (hb i hw)]
      rfl
  case keywordFiles =>
    -- the induction is on the files; those in front have been given before
    generalize base.keywordFiles = files
    induction files generalizing d with
    | nil => rw [List.append_nil]; rfl
    | cons file rest ih =>
      rw [List.map_cons, List.cons_append, takeWords_option]
      show takeWords { d with settings := { d.settings with keywordFiles := _ } } _ = _
      rw [ih, List.append_assoc]
      rfl

/-- Options that give all settings of `base` give these settings. -/
theorem takeWords_options (hb : base.Writable) (ws : List Word) :
    takeWords {} (base.options ++ ws) = takeWords (withDefaults {} base) ws := by
  have hall (names : List SettingName) (d : Draft) :
      d.takeWords (names.flatMap
        (fun n => (n.arguments base).map fun x => .option n.option (some x)) ++ ws) =
        { d with settings := names.foldl (give base) d.settings }.takeWords ws := by
    induction names generalizing d with
    | nil => rfl
    | cons n names ih =>
      rw [List.flatMap_cons, List.append_assoc, takeWords_arguments hb, ih]
      rfl
  have hgive : all.foldl (give base) {} = Settings.withDefaults {} base := by
    simp [all, give, Settings.withDefaults]
  rw [Settings.options, hall, hgive]
  rfl

theorem takeOption_withDefaults (d : Draft) (base : Settings) (o : CommandOption) (argument : Text) :
    (d.withDefaults base).takeOption o argument =
      (d.takeOption o argument).map (·.withDefaults base) := by
  cases o
  case workers =>
    simp only [takeOption]
    cases Numeral.readInteger 10 argument <;> rfl
  case keywordFile =>
    simp only [takeOption, withDefaults, Settings.withDefaults, List.append_assoc]
    rfl
  all_goals rfl

/-- **What is filled in does not change how words are read.** -/
theorem takeWords_withDefaults (d : Draft) (base : Settings) (ws : List Word) :
    (d.withDefaults base).takeWords ws =
      (d.takeWords ws).map (Option.map (·.withDefaults base)) := by
  have hoption {d : Draft} {o : CommandOption} {argument : Text} {rest : List Word}
      (ih : ∀ d : Draft, (d.withDefaults base).takeWords rest =
        (d.takeWords rest).map (Option.map (·.withDefaults base))) :
      ((d.withDefaults base).takeOption o argument >>= fun d => d.takeWords rest) =
        (d.takeOption o argument >>= fun d => d.takeWords rest).map
          (Option.map (·.withDefaults base)) := by
    rw [takeOption_withDefaults]
    cases d.takeOption o argument with
    | error e => rfl
    | ok d => exact ih d
  fun_induction takeWords d ws with
  | case1 d => rfl
  | case2 d o argument rest h ih =>
    rw [takeWords, if_pos h]
    exact hoption ih
  | case3 d o argument rest h =>
    rw [takeWords, if_neg h]
    rfl
  | case4 d rest => rfl
  | case5 d rest ih => exact ih
  | case6 d o argument rest hhelp hjson ih =>
    rw [takeWords]
    · exact hoption ih
    · exact hhelp
    · exact hjson
  | case7 d o rest hhelp hjson hrest =>
    rw [takeWords]
    · rfl
    · exact hhelp
    · exact hjson
    · exact hrest
  | case8 d operand rest h ih => exact (if_pos h).trans ih
  | case9 d operand rest h ih => exact (if_neg h).trans ih
  | case10 d operand rest h ih => exact (if_pos h).trans ih
  | case11 d operand rest h ih => exact (if_neg h).trans ih
  | case12 d operand rest hmark h ih =>
    rw [takeWords]
    · exact (if_pos h).trans ih
    · exact hmark
  | case13 d operand rest hmark h ih =>
    rw [takeWords]
    · exact (if_neg h).trans ih
    · exact hmark
  | case14 d w rest =>
    rw [takeWords] <;> assumption

theorem finish_withDefaults (d : Draft) (base : Settings) :
    (d.withDefaults base).finish = d.finish.map (·.withDefaults base) := by
  unfold finish
  rw [show (d.withDefaults base).operands = d.operands from rfl]
  split
  · rw [show (d.withDefaults base).extras = d.extras from rfl]
    split <;> rfl
  · rfl

end Draft

/-- **A command line with settings in front** is read as the one without, and the settings are
filled in where none were given. -/
theorem ofTexts_flags_append (hb : base.Writable) (texts : List Text) :
    ofTexts (base.flags ++ texts) = (ofTexts texts).map (Option.map (·.withDefaults base)) := by
  unfold ofTexts
  rw [Word.ofTexts_flags_append]
  cases Word.ofTexts texts with
  | error e => rfl
  | ok ws =>
    show (Draft.takeWords {} (base.options ++ ws) >>= _) = Except.map _ (Draft.takeWords {} ws >>= _)
    rw [Draft.takeWords_options hb, Draft.takeWords_withDefaults]
    cases Draft.takeWords {} ws with
    | error e => rfl
    | ok found =>
      cases found with
      | none => rfl
      | some d =>
        show ((d.withDefaults base).finish >>= _) = Except.map _ (d.finish >>= _)
        rw [Draft.finish_withDefaults]
        cases d.finish <;> rfl

end Arguments

namespace Program

variable {t : FileTree} {a : Arguments} {path : PathName} {document : Value} {s' : Settings}
  {words : List Text}

/-- What is taken over without an error settles the settings. -/
theorem settle_of_takeTable (hn : Names a path) (ht : IsThere t path)
    (hd : Settings.readFile t path = .ok document)
    (hs : a.request.settings.takeTable (Settings.tableOf t.host document) = (s', none)) :
    settle t a = .ok (s', []) := by
  refine settle_eq_iff.2 (.taken hn ht ?_)
  rw [Settings.takeFile, hd]
  exact hs

/-- **A settings file does what its settings do as options, and options win.** If a file is taken
over without an error, then the program does what it does for these settings without the file:

- a setting that was given stays as it was given, and any other value of its member, even one that
  cannot be taken over, leads to the same settings;
- each of the others is the value of its member, converted, and is not given if there is no such
  member;
- the keywords and extensions that come from the file are those that its values say;
- the program does what it does for the command line without the file and with these settings as
  options in front. A number of workers with more digits than may be read can only stand in a file.

A list says the same behind commas. -/
theorem run_of_settings_file (clock : Clock) (ha : Arguments.ofTexts words = .ok (some a))
    (hn : Names a path) (ht : IsThere t path) (hd : Settings.readFile t path = .ok document)
    (hs : a.request.settings.takeTable (Settings.tableOf t.host document) = (s', none)) :
    run t clock words = runArguments t clock (a.withSettings s') ∧
      Settings.FilledFrom (Settings.tableOf t.host document) a.request.settings s' ∧
      (∀ ms, (∀ n : SettingName, n.given a.request.settings = false →
          (Value.map ms).member? n.key = (Settings.tableOf t.host document).member? n.key) →
        a.request.settings.takeTable ⟨.map ms, t.host.depths.shown⟩ = (s', none)) ∧
      (∀ v, a.request.settings.keywords = none →
        (Settings.tableOf t.host document).member? "patterns".toList = some v →
        Settings.splitValue t.host.depths.shown v = .ok (Settings.splitOption s'.keywords)) ∧
      (∀ v, a.request.settings.extensions = none →
        (Settings.tableOf t.host document).member? "exts".toList = some v →
        Settings.splitValue t.host.depths.shown v = .ok (Settings.splitOption s'.extensions)) ∧
      (∀ plain, Arguments.ofTexts plain = .ok (some { a with settingsFile := none }) →
        (s'.beyond a.request.settings).Writable →
        run t clock words = run t clock ((s'.beyond a.request.settings).flags ++ plain)) ∧
      ∀ room v, (Settings.splitValue room v).map
          (fun parts => Settings.splitCommas (Text.join "," parts)) =
        Settings.splitValue room v := by
  have hfilled := Settings.filledFrom_of_takeTable hs
  have hrun : run t clock words = runArguments t clock (a.withSettings s') := by
    rw [run, ha]
    exact runArguments_of_settle clock (settle_of_takeTable hn ht hd hs)
  refine ⟨hrun, hfilled,
    fun ms hms => Settings.takeTable_map_eq_ok_iff.2 (hfilled.of_member?_eq rfl hms),
    fun v => hfilled.splitValue_keywords, fun v => hfilled.splitValue_extensions,
    fun plain hp hw => ?_, Settings.splitCommas_join_splitValue⟩
  have hwith : Arguments.withDefaults { a with settingsFile := none } (s'.beyond a.request.settings) =
      a.withSettings s' := by
    unfold Arguments.withDefaults Arguments.withSettings
    rw [Settings.withDefaults_beyond hfilled.given]
  rw [hrun, run, Arguments.ofTexts_flags_append hw, hp]
  exact congrArg (runArguments t clock) hwith.symm

end Program

/-! ### A file with a list of keywords -/

namespace FilledSettings

set_option maxRecDepth 100000

/-- The number of workers is none, but it is given as an option; the keyword files are no list. -/
def text : Text :=
  "[tool.obstasks]\npatterns = [\" A, B\", 7, \"\"]\njobs = [1]\npatternsFiles = \"k\"\n".toList

def table : Value :=
  .map [(.text "patterns".toList, .list [.text " A, B".toList, .int 7, .text []]),
    (.text "jobs".toList, .list [.int 1]), (.text "patternsFiles".toList, .text "k".toList)]

/-- The working directory holds the settings file only. -/
def tree : FileTree :=
  ⟨[(["w".toList], .directory), (["w".toList, "c.toml".toList], .file (Utf8.encode text))],
    ["w".toList], {}, by decide⟩

def plain : List Text := BrokenSettings.plain ++ ["--jobs".toList, "2".toList]

def words : List Text := plain ++ ["--config".toList, "c.toml".toList]

def arguments : Arguments where
  request := { BrokenSettings.request with settings := { workers := some 2 } }
  settingsFile := some "c.toml".toList

/-- The settings with those of the file. -/
def filled : Settings := { keywords := some "A,B,7".toList, workers := some 2 }

theorem ofTexts_words : Arguments.ofTexts words = .ok (some arguments) := by decide +kernel

theorem ofTexts_plain : Arguments.ofTexts plain = .ok (some { arguments with settingsFile := none }) := by
  decide +kernel

theorem readFile_path : Settings.readFile tree BrokenSettings.path =
    .ok (.map [(.text "tool".toList, .map [(.text "obstasks".toList, table)])]) := by
  have hb : tree.readBytes BrokenSettings.path.toText = .ok (Utf8.encode text) := by cbv
  have hp : Toml.parse tree.host text =
      .ok (.map [(.text "tool".toList, .map [(.text "obstasks".toList, table)])]) := by cbv
  exact Settings.readFile_of_parse hb hp

theorem takeTable_table : arguments.request.settings.takeTable ⟨table, none⟩ = (filled, none) := by
  decide +kernel

end FilledSettings

/-- The keywords of the file may as well be given as an option. -/
theorem run_of_settings_file_keywords :
    Arguments.ofTexts FilledSettings.words = .ok (some FilledSettings.arguments) ∧
      Program.Names FilledSettings.arguments BrokenSettings.path ∧
      Program.IsThere FilledSettings.tree BrokenSettings.path ∧
      FilledSettings.arguments.request.settings.takeTable ⟨FilledSettings.table, none⟩ =
        (FilledSettings.filled, none) ∧
      Program.run FilledSettings.tree BrokenSettings.clock FilledSettings.words =
        Program.run FilledSettings.tree BrokenSettings.clock
          ("--patterns=A,B,7".toList :: FilledSettings.plain) := by
  have hn : Program.Names FilledSettings.arguments BrokenSettings.path := ⟨_, rfl, by decide, rfl⟩
  have ht : Program.IsThere FilledSettings.tree BrokenSettings.path := ⟨by cbv, by decide⟩
  have hw : (FilledSettings.filled.beyond FilledSettings.arguments.request.settings).Writable :=
    fun i hi => absurd hi.symm (Option.some_ne_none i)
  obtain ⟨-, -, -, -, -, hrun, -⟩ :=
    Program.run_of_settings_file BrokenSettings.clock FilledSettings.ofTexts_words hn ht
      FilledSettings.readFile_path FilledSettings.takeTable_table
  refine ⟨FilledSettings.ofTexts_words, hn, ht, FilledSettings.takeTable_table, ?_⟩
  exact hrun FilledSettings.plain FilledSettings.ofTexts_plain hw

end CommentTasks
