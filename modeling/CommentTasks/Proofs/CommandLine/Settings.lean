import CommentTasks.Proofs.CommandLine.Outcome
import CommentTasks.Proofs.Run.Plan
import CommentTasks.Proofs.Settings.File
import Mathlib

/-!
# The settings file of a command line

What a settings file does to a run. One that is broken brings a warning, but the settings that stand
in front of the broken one are taken over: the program runs as for these settings, and not always as
for the command line without the file.
-/

namespace CommentTasks

namespace Program

/-- The warning about a settings file that is broken. -/
def brokenWarning (path : PathName) (e : SettingsError) : Text :=
  "[warn] failed to load config ".toList ++ path.toText ++ ": ".toList ++ e.message ++ ['\n']

/-- The warning about a settings file that is missing. -/
def missingWarning (path : PathName) : Text :=
  "[warn] config file not found or not TOML: ".toList ++ path.toText ++ ['\n']

/-- The command line names a settings file. -/
def Names (a : Arguments) (path : PathName) : Prop :=
  ∃ text, a.settingsFile = some text ∧ text ≠ [] ∧ PathName.ofText text = path

/-- The settings file is there, and its name says what it is. -/
def IsThere (t : FileTree) (path : PathName) : Prop :=
  t.isFile path.toText = .ok true ∧ Settings.isFileName path = true

/-- What becomes of the settings. -/
inductive Settles (t : FileTree) (a : Arguments) : Except Failure (Settings × Text) → Prop
  | unnamed (h : ¬∃ path, Names a path) : Settles t a (.ok (a.request.settings, []))
  | refused {path : PathName} {e : AccessError} (hp : Names a path)
    (h : t.isFile path.toText = .error e) : Settles t a (.error (.access e))
  | missing {path : PathName} {there : Bool} (hp : Names a path)
    (h : t.isFile path.toText = .ok there) (ht : ¬IsThere t path) :
    Settles t a (.ok (a.request.settings, missingWarning path))
  | taken {path : PathName} {s : Settings} (hp : Names a path) (ht : IsThere t path)
    (h : a.request.settings.takeFile t path = (s, none)) : Settles t a (.ok (s, []))
  | broken {path : PathName} {e : SettingsError} {s : Settings} (hp : Names a path)
    (ht : IsThere t path) (h : a.request.settings.takeFile t path = (s, some e))
    (he : isWarning e = true) : Settles t a (.ok (s, brokenWarning path e))
  | failed {path : PathName} {e : SettingsError} {s : Settings} (hp : Names a path)
    (ht : IsThere t path) (h : a.request.settings.takeFile t path = (s, some e))
    (he : isWarning e = false) : Settles t a (.error (.settings e))

variable {t : FileTree} {a : Arguments} {path : PathName}

theorem names_iff : Names a path ↔
    ∃ text, a.settingsFile.filter (· ≠ []) = some text ∧ PathName.ofText text = path := by
  simp [Names, Option.filter_eq_some_iff, and_assoc]

theorem settle_of_unnamed (h : ¬∃ path, Names a path) :
    settle t a = .ok (a.request.settings, []) := by
  have hf : a.settingsFile.filter (· ≠ []) = none := by
    rw [Option.eq_none_iff_forall_ne_some]
    intro text hf
    exact h ⟨_, names_iff.2 ⟨text, hf, rfl⟩⟩
  unfold settle
  rw [hf]

theorem settle_of_names (h : Names a path) : settle t a =
    ((t.isFile path.toText).mapError .access >>= fun there =>
      if there && Settings.isFileName path then
        match a.request.settings.takeFile t path with
        | (s, none) => .ok (s, [])
        | (s, some e) =>
          if isWarning e then .ok (s, brokenWarning path e) else .error (.settings e)
      else .ok (a.request.settings, missingWarning path)) := by
  obtain ⟨text, hf, rfl⟩ := names_iff.1 h
  unfold settle
  rw [hf]
  rfl

theorem settle_of_isThere {α : Type} {x y : Except Failure α} (h : IsThere t path) :
    ((t.isFile path.toText).mapError .access >>= fun there =>
      if there && Settings.isFileName path then x else y) = x := by
  rw [h.1, h.2]
  rfl

/-- **What becomes of the settings**, case by case. -/
theorem settle_eq_iff {result : Except Failure (Settings × Text)} :
    settle t a = result ↔ Settles t a result := by
  constructor
  · rintro rfl
    by_cases hp : ∃ path, Names a path
    · obtain ⟨path, hp⟩ := hp
      rw [settle_of_names hp]
      cases hf : t.isFile path.toText with
      | error e => exact .refused hp hf
      | ok there =>
        simp only [mapError_ok, bind, Except.bind]
        split
        · next hthere =>
          rw [Bool.and_eq_true] at hthere
          have ht : IsThere t path := ⟨hthere.1 ▸ hf, hthere.2⟩
          split
          · next s h => exact .taken hp ht h
          · next s e h =>
            split
            · next he => exact .broken hp ht h he
            · next he => exact .failed hp ht h (Bool.eq_false_iff.2 he)
        · next hthere =>
          refine .missing hp hf fun ht => hthere ?_
          cases hf.symm.trans ht.1
          exact ht.2
    · rw [settle_of_unnamed hp]
      exact .unnamed hp
  · intro h
    cases h with
    | unnamed h => exact settle_of_unnamed h
    | refused hp h =>
      rw [settle_of_names hp, h]
      rfl
    | @missing path there hp h ht =>
      have hthere : ¬(there && Settings.isFileName path) = true := by
        intro hthere
        rw [Bool.and_eq_true] at hthere
        exact ht ⟨hthere.1 ▸ h, hthere.2⟩
      rw [settle_of_names hp, h]
      exact if_neg hthere
    | taken hp ht h => rw [settle_of_names hp, settle_of_isThere ht, h]
    | failed hp ht h he =>
      rw [settle_of_names hp, settle_of_isThere ht, h]
      exact if_neg (Bool.eq_false_iff.1 he)
    | broken hp ht h he =>
      rw [settle_of_names hp, settle_of_isThere ht, h]
      exact if_pos he

theorem not_isPrefix_append {x y : Text} (n : Nat) (hx : n ≤ x.length) (hy : n ≤ y.length)
    (h : x.take n ≠ y.take n) (rest : Text) : ¬x <+: y ++ rest := by
  rintro ⟨tail, ht⟩
  apply h
  have htake := congrArg (List.take n) ht
  rwa [List.take_append_of_le_length hx, List.take_append_of_le_length hy] at htake

/-- The warning about a broken file is only printed if there is one. -/
theorem broken_of_warning {clock : Clock}
    (h : "[warn] failed to load config ".toList <+: (runArguments t clock a).errors) :
    ∃ path e s, Names a path ∧ IsThere t path ∧ a.request.settings.takeFile t path = (s, some e) ∧
      settle t a = .ok (s, brokenWarning path e) := by
  -- what a run prints by itself does not begin like the warning
  have hplain (s : Settings) : ¬"[warn] failed to load config ".toList <+:
      (runArguments t clock (a.withSettings s)).errors := by
    have hnone : (a.withSettings s).settingsFile = none := rfl
    rcases errors_of_no_settingsFile t clock hnone with
      he | ⟨rest, he⟩
    · rw [he]
      exact fun h => absurd (List.prefix_nil.1 h) (by decide)
    · rw [he]
      exact not_isPrefix_append 3 (by decide) (by decide) (by decide) rest
  cases hs : settle t a with
  | error f =>
    rw [runArguments, hs] at h
    exact absurd (List.prefix_nil.1 h) (by decide)
  | ok settled =>
    obtain ⟨s, w⟩ := settled
    rw [runArguments_of_settle clock hs, Outcome.errors_warned] at h
    cases settle_eq_iff.1 hs with
    | unnamed _ => exact absurd h (hplain _)
    | taken _ _ _ => exact absurd h (hplain _)
    | missing _ _ _ =>
      unfold missingWarning at h
      rw [List.append_assoc, List.append_assoc] at h
      exact absurd h (not_isPrefix_append 8 (by decide) (by decide) (by decide) _)
    | broken hp ht hb _ => exact ⟨_, _, _, hp, ht, hb, rfl⟩

/-- **What a broken settings file does.** If the warning about it is printed, then the settings in
front of the first one that cannot be taken over have been taken over, and all others are as they
were given. Besides the warning the program does what it does for these settings without the file.
So it does what it does for the command line without the file if the file holds none of the settings
in front of the broken one that were not given, and these are the cases in which the settings are
the given ones. -/
theorem run_of_broken_settings_file {clock : Clock} {words plain : List Text}
    (ha : Arguments.ofTexts words = .ok (some a))
    (hp : Arguments.ofTexts plain = .ok (some { a with settingsFile := none }))
    (hw : "[warn] failed to load config ".toList <+: (run t clock words).errors) :
    ∃ path before e s, Names a path ∧ IsThere t path ∧
      Settings.Broken t path a.request.settings before e s ∧
      run t clock words =
        (runArguments t clock (a.withSettings s)).warned (brokenWarning path e) ∧
      (s = a.request.settings ↔
        ∀ n ∈ before, ¬Settings.Supplies t path a.request.settings n) ∧
      ((∀ n ∈ before, ¬Settings.Supplies t path a.request.settings n) →
        run t clock words = (run t clock plain).warned (brokenWarning path e)) := by
  have hwords : run t clock words = runArguments t clock a := by
    rw [run, ha]
  have hplain : run t clock plain =
      runArguments t clock (a.withSettings a.request.settings) := by
    rw [run, hp]
    rfl
  rw [hwords] at hw ⊢
  obtain ⟨path, e, s, hn, ht, hb, hs⟩ := broken_of_warning hw
  obtain ⟨before, hbroken⟩ := Settings.takeFile_eq_error_iff.1 hb
  have hrun := runArguments_of_settle clock hs
  refine ⟨path, before, e, s, hn, ht, hbroken, hrun, hbroken.eq_iff, ?_⟩
  intro hsup
  rw [hrun, hplain, hbroken.eq_iff.2 hsup]

end Program

/-! ### A ledger named by a broken file -/

namespace BrokenSettings

set_option maxRecDepth 100000

/-- The path of the ledger can be taken over, and the number of workers cannot. -/
def text : Text := "[tool.obstasks]\nstate = \"c.toml\"\njobs = [1]\n".toList

def table : Value :=
  .map [(.text "state".toList, .text "c.toml".toList), (.text "jobs".toList, .list [.int 1])]

/-- An empty project in the working directory, and the settings file. -/
def tree : FileTree :=
  ⟨[(["w".toList], .directory), (["w".toList, "p".toList], .directory),
    (["w".toList, "c.toml".toList], .file (Utf8.encode text))], ["w".toList], {}, by decide⟩

def clock : Clock := fun _ => ⟨0⟩

def plain : List Text := ["scan".toList, "p".toList, ".".toList, "n.md".toList]

def words : List Text := plain ++ ["--config".toList, "c.toml".toList]

def request : Request :=
  { command := some "scan".toList, project := some "p".toList, vault := some ".".toList,
    note := some "n.md".toList }

def arguments : Arguments := { request, settingsFile := some "c.toml".toList }

def path : PathName := .ofText "c.toml".toList

/-- The settings that the file leaves. -/
def left : Settings := { ledger := some "c.toml".toList }

theorem ofTexts_words : Arguments.ofTexts words = .ok (some arguments) := by decide +kernel

theorem ofTexts_plain :
    Arguments.ofTexts plain = .ok (some { arguments with settingsFile := none }) := by
  decide +kernel

theorem readFile_path : Settings.readFile tree path =
    .ok (.map [(.text "tool".toList, .map [(.text "obstasks".toList, table)])]) := by
  have hb : tree.readBytes path.toText = .ok (Utf8.encode text) := by cbv
  have hp : Toml.parse tree.host text =
      .ok (.map [(.text "tool".toList, .map [(.text "obstasks".toList, table)])]) := by cbv
  exact Settings.readFile_of_parse hb hp

theorem takeFile_path :
    Settings.takeFile {} tree path = (left, some (.notANumber "list".toList)) := by
  unfold Settings.takeFile
  rw [readFile_path]
  rfl

theorem settle_arguments : Program.settle tree arguments =
    .ok (left, Program.brokenWarning path (.notANumber "list".toList)) := by
  refine Program.settle_eq_iff.2 (.broken ⟨_, rfl, by decide, rfl⟩ ⟨?_, ?_⟩ takeFile_path rfl)
  · cbv
  · decide

theorem directory_project : Run.directory tree (some "p".toList) =
    .ok (.absolute ["w".toList, "p".toList]) := by cbv

theorem directory_vault : Run.directory tree (some ".".toList) =
    .ok (.absolute ["w".toList]) := by cbv

/-- A ledger is not read, and this is reported. -/
def isReportedFailure : Except LedgerError Ledger → Bool
  | .error e => Program.isReported (.ledger e)
  | .ok _ => false

/-- The settings file is no ledger, and this is reported. -/
theorem exists_load_error : ∃ e, Program.isReported (.ledger e) = true ∧
    Ledger.load tree (.absolute ["w".toList, "c.toml".toList]) = .error e := by
  have hr : tree.readDocument (.absolute ["w".toList, "c.toml".toList]) = .ok text := by cbv
  have ht : isReportedFailure (Ledger.ofText tree.host
      (PathName.absolute ["w".toList, "c.toml".toList]).toText text) = true := by decide +kernel
  cases he : Ledger.ofText tree.host (PathName.absolute ["w".toList, "c.toml".toList]).toText text with
  | error e =>
    rw [he] at ht
    refine ⟨e, ht, ?_⟩
    rw [Ledger.load, hr]
    exact he
  | ok l =>
    rw [he] at ht
    cases ht

/-- With the settings that the file leaves the run fails. -/
theorem exists_run_left : ∃ e, Program.isReported (.ledger e) = true ∧
    Run.run tree clock { request with settings := left } = (tree, .error (.ledger e)) := by
  obtain ⟨e, hreported, he⟩ := exists_load_error
  have hl : Settings.ledgerPath left.ledger (.absolute ["w".toList]) =
      .absolute ["w".toList, "c.toml".toList] := by decide
  have hk : Run.keywords tree left = .ok (Keywords.standard.map .text) :=
    Run.keywords_standard rfl rfl
  refine ⟨e, hreported, ?_⟩
  unfold Run.run Run.plan
  simp only [request, directory_project, directory_vault, hl, hk, he, bind, Except.bind,
    Except.mapError, Run.command, ne_eq, not_true_eq_false, if_false]

theorem exists_run_plain : ∃ report, Run.run tree clock request = (tree, .ok report) := by
  have hn : Run.notePath tree request = .ok (.absolute ["w".toList, "n.md".toList]) := by cbv
  have hl : Run.ledgerPath tree request =
      .ok (.absolute ["w".toList, Ledger.standardFileName]) := by cbv
  have hr : tree.readDocument (.absolute ["w".toList, Ledger.standardFileName]) = .ok [] := by cbv
  have hload : Ledger.load tree (.absolute ["w".toList, Ledger.standardFileName]) = .ok .empty :=
    Ledger.load_eq_ok_iff.2 ⟨[], hr, rfl⟩
  have hc : Run.stamp clock 0 = .ok "0001-01-01T00:00:00.000Z".toList := by decide +kernel
  have hs : Run.scanned tree request = .ok [] := by
    have hk : Run.keywords tree request.settings = .ok (Keywords.standard.map .text) :=
      Run.keywords_standard rfl rfl
    have hks : Keywords.ofTexts? ((Keywords.standard.map Wide.text).filterMap Wide.text?) =
        some .usual := rfl
    have hp : tree.isFile (PathName.absolute ["w".toList, "p".toList]).toText = .ok false := by cbv
    have hf : tree.walk (Settings.extensionTexts none) (.absolute ["w".toList, "p".toList]) =
        .ok [] := by cbv
    rw [request] at hk
    unfold Run.scanned Run.tasks FileTree.tasksOfProject
    simp only [request, directory_project, hk, hks, hp, hf, bind, Except.bind, pure, Except.pure,
      mapError_ok, List.flatMap_nil]
  have hplan : Run.plan tree clock request = .ok ⟨_, _, .empty, _, []⟩ :=
    Run.plan_eq_ok_iff.2 ⟨rfl, hn, hl, hload, hc, [], hs, rfl⟩
  exact ⟨_, Run.run_eq_ok_iff.2 ⟨_, hplan, Run.Plan.carryOut_of_no_news rfl tree, rfl⟩⟩

end BrokenSettings

/-- The ledger is looked for where the broken file says, so the program fails; without the file it
succeeds. -/
theorem run_of_broken_settings_file_ledger :
    Arguments.ofTexts BrokenSettings.words = .ok (some BrokenSettings.arguments) ∧
      Arguments.ofTexts BrokenSettings.plain =
        .ok (some { BrokenSettings.arguments with settingsFile := none }) ∧
      "[warn] failed to load config ".toList <+:
        (Program.run BrokenSettings.tree BrokenSettings.clock BrokenSettings.words).errors ∧
      (Program.run BrokenSettings.tree BrokenSettings.clock BrokenSettings.words).exit = .ok 1 ∧
      (Program.run BrokenSettings.tree BrokenSettings.clock BrokenSettings.plain).exit = .ok 0 := by
  have hw : "[warn] failed to load config ".toList <+:
      (Program.run BrokenSettings.tree BrokenSettings.clock BrokenSettings.words).errors := by
    rw [Program.run, BrokenSettings.ofTexts_words]
    simp only [Program.runArguments_of_settle _ BrokenSettings.settle_arguments,
      Outcome.errors_warned]
    unfold Program.brokenWarning
    rw [List.append_assoc, List.append_assoc, List.append_assoc, List.append_assoc]
    exact List.prefix_append _ _
  obtain ⟨path, before, e, s, ⟨text, hf, -, hpath⟩, -, hb, hrun, -⟩ :=
    Program.run_of_broken_settings_file BrokenSettings.ofTexts_words BrokenSettings.ofTexts_plain hw
  have hplain : Program.settle BrokenSettings.tree
      { BrokenSettings.arguments with settingsFile := none } = .ok ({}, []) := rfl
  have hleft : Program.settle BrokenSettings.tree (BrokenSettings.arguments.withSettings s) =
      .ok (s, []) := rfl
  -- the file and the settings that it leaves are those from above
  cases hf
  subst hpath
  cases (Settings.takeFile_eq_error_iff.2 ⟨before, hb⟩).symm.trans BrokenSettings.takeFile_path
  obtain ⟨e, hreported, he⟩ := BrokenSettings.exists_run_left
  obtain ⟨report, hr⟩ := BrokenSettings.exists_run_plain
  refine ⟨BrokenSettings.ofTexts_words, BrokenSettings.ofTexts_plain, hw, ?_, ?_⟩
  · rw [hrun, Program.runArguments_eq_ended hleft]
    exact congrArg Outcome.exit ((congrArg (Program.ended {} false []) he).trans
      (Program.ended_of_reported _ _ _ _ hreported))
  · rw [Program.run, BrokenSettings.ofTexts_plain]
    simp only [Program.runArguments_eq_ended hplain]
    exact congrArg Outcome.exit (congrArg (Program.ended {} false []) hr)

end CommentTasks
