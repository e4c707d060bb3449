import CommentTasks.Proofs.CommandLine.Settings
import CommentTasks.Proofs.Run.Escape

/-!
# How the program exits

On a command line that it understands the program exits with 0 or with 1, unless an error ends it
that it does not expect. Such an error comes from looking for the settings file, from its brackets
or its values if they are nested too deep, from an infinite number of workers in it, or from the
run.
-/

namespace CommentTasks

namespace Program

/-- The program is ended by an error that is not expected. -/
inductive Escapes (t : FileTree) (clock : Clock) (a : Arguments) : Failure → Prop
  /-- The settings file cannot be looked for: its path is too long, or the host refuses. -/
  | settingsFile {path : PathName} {e : AccessError} (hp : Names a path)
    (h : t.isFile path.toText = .error e) : Escapes t clock a (.access e)
  /-- The brackets in the settings file are nested too deep. -/
  | brackets {path : PathName} {bytes : Bytes} {text : Text} (hp : Names a path) (ht : IsThere t path)
    (hb : t.readBytes path.toText = .ok bytes) (hd : Utf8.decode bytes = .ok text)
    (h : Toml.parse t.host text = .error .tooDeep) :
    Escapes t clock a (.settings (.toml (t.host.tomlWording text) .tooDeep))
  /-- The number of workers in the settings file is infinite, and it is taken over. -/
  | workers {path : PathName} {document : Value} {negative : Bool} (hp : Names a path)
    (ht : IsThere t path) (hd : Settings.readFile t path = .ok document)
    (hb : ∀ n ∈ [SettingName.keywords, .extensions, .ledger],
      ∃ s, n.take (Settings.tableOf t.host document) a.request.settings = .ok s)
    (hw : a.request.settings.workers = none)
    (h : (Settings.tableOf t.host document).member? "jobs".toList = some (.float (.infinite negative))) :
    Escapes t clock a (.settings .infiniteNumber)
  /-- A value of the settings file is nested too deep to be shown, and the settings in front of it are
  taken over. -/
  | shown {path : PathName} {document : Value} {before after : List SettingName}
    {name : SettingName} (hp : Names a path) (ht : IsThere t path)
    (hd : Settings.readFile t path = .ok document)
    (hn : SettingName.all = before ++ name :: after)
    (hb : ∀ n ∈ before, ∃ s, n.take (Settings.tableOf t.host document) a.request.settings = .ok s)
    (h : name.take (Settings.tableOf t.host document) a.request.settings =
      .error (.unshown .tooDeep)) :
    Escapes t clock a (.settings (.unshown .tooDeep))
  /-- The run with the settings that were settled fails with an error that is not expected. -/
  | run {settings : Settings} {warning : Text} {e : RunError}
    (hs : settle t a = .ok (settings, warning))
    (h : Run.Escapes t clock { a.request with settings } e) : Escapes t clock a (.run e)

variable {t : FileTree} {clock : Clock} {a : Arguments} {f : Failure}

theorem exit_of_settle_eq_error (h : settle t a = .error f) :
    (runArguments t clock a).exit = .error f := by
  rw [runArguments, h]

theorem Escapes.exit (h : Escapes t clock a f) : (runArguments t clock a).exit = .error f := by
  cases h with
  | settingsFile hp h => exact exit_of_settle_eq_error (settle_eq_iff.2 (.refused hp h))
  | brackets hp ht hb hd h =>
    obtain ⟨s, hs⟩ := Settings.exists_takeFile_toml_iff.2
      (Settings.readFile_eq_tooDeep_iff.2 ⟨_, _, hb, hd, h, rfl⟩)
    exact exit_of_settle_eq_error (settle_eq_iff.2 (.failed hp ht hs rfl))
  | workers hp ht hd hb hw h =>
    obtain ⟨s, hs⟩ := Settings.exists_takeFile_infinite_iff.2 ⟨_, _, hd, hb, hw, h⟩
    exact exit_of_settle_eq_error (settle_eq_iff.2 (.failed hp ht hs rfl))
  | shown hp ht hd hn hb h =>
    obtain ⟨s, hs⟩ := Settings.exists_takeFile_unshown_iff.2 ⟨_, _, _, _, hd, hn, hb, h⟩
    exact exit_of_settle_eq_error (settle_eq_iff.2 (.failed hp ht hs rfl))
  | run hs h =>
    obtain ⟨⟨tree, hr⟩, he⟩ := Run.escapes_iff.2 h
    rw [runArguments_eq_ended hs, hr, ended_of_unreported _ _ _ _ he]

end Program

/-! ### An infinite number of workers -/

namespace InfiniteWorkers

set_option maxRecDepth 100000

def text : Text := "[tool.obstasks]\njobs = inf\n".toList

/-- The working directory with an empty project and the settings file. -/
def tree : FileTree :=
  ⟨[(["w".toList], .directory), (["w".toList, "p".toList], .directory),
    (["w".toList, "c.toml".toList], .file (Utf8.encode text))], ["w".toList], {}, by decide⟩

def document : Value :=
  .map [(.text "tool".toList,
    .map [(.text "obstasks".toList, .map [(.text "jobs".toList, .float (.infinite false))])])]

theorem readFile_path : Settings.readFile tree BrokenSettings.path = .ok document := by
  have hb : tree.readBytes BrokenSettings.path.toText = .ok (Utf8.encode text) := by cbv
  have hp : Toml.parse tree.host text = .ok document := by cbv
  exact Settings.readFile_of_parse hb hp

theorem escapes : Program.Escapes tree BrokenSettings.clock BrokenSettings.arguments
    (.settings .infiniteNumber) := by
  have hf : tree.isFile BrokenSettings.path.toText = .ok true := by cbv
  refine .workers ⟨_, rfl, by decide, rfl⟩ ⟨hf, by decide⟩ readFile_path ?_ rfl rfl
  intro n hn
  simp only [List.mem_cons, List.not_mem_nil, or_false] at hn
  rcases hn with rfl | rfl | rfl <;> exact ⟨_, rfl⟩

end InfiniteWorkers

end CommentTasks
