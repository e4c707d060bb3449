import CommentTasks.CommandLine.Program

/-!
# How the program ends

A settings file changes the settings and may add a warning, and does nothing else: the program ends
as it does for the settings that the file leads to, with the warning in front of the errors that it
prints.
-/

namespace CommentTasks

/-- The arguments without a settings file, for these settings. -/
def Arguments.withSettings (a : Arguments) (settings : Settings) : Arguments :=
  { request := { a.request with settings }, settingsFile := none }

/-- The outcome with a warning in front of the errors. -/
def Outcome.warned (o : Outcome) (warning : Text) : Outcome :=
  { o with errors := warning ++ o.errors }

theorem Outcome.errors_warned (o : Outcome) (warning : Text) :
    (o.warned warning).errors = warning ++ o.errors := rfl

namespace Program

variable {t : FileTree} {clock : Clock} {a : Arguments} {settings : Settings} {warning : Text}
  {host : Host} {asJson : Bool}

theorem ended_of_printed (warning : Text) (tree : FileTree) {report : Report}
    (h : host.cutsOutput (report.toText asJson) = none) :
    ended host asJson warning (tree, .ok report) =
      { exit := .ok 0, output := report.toText asJson, errors := warning, tree } := by
  rw [ended]
  simp only [h]

theorem ended_of_unprinted (warning : Text) (tree : FileTree) {report : Report} {printed : Nat}
    {reason : Text} (h : host.cutsOutput (report.toText asJson) = some (printed, reason)) :
    ended host asJson warning (tree, .ok report) =
      { exit := .ok 1, output := (report.toText asJson).take printed,
        errors := warning ++ errorLine reason, tree } := by
  rw [ended]
  simp only [h]

theorem ended_of_reported (host : Host) (asJson : Bool) (warning : Text) (tree : FileTree)
    {e : RunError} (h : isReported e = true) :
    ended host asJson warning (tree, .error e) =
      { exit := .ok 1, errors := warning ++ errorLine e.message, tree } :=
  if_pos h

theorem ended_of_unreported (host : Host) (asJson : Bool) (warning : Text) (tree : FileTree)
    {e : RunError} (h : isReported e = false) :
    ended host asJson warning (tree, .error e) =
      { exit := .error (.run e), errors := warning, tree } :=
  if_neg (Bool.eq_false_iff.1 h)

theorem runArguments_eq_ended (h : settle t a = .ok (settings, warning)) :
    runArguments t clock a =
      ended t.host a.request.asJson warning (Run.run t clock { a.request with settings }) := by
  unfold runArguments
  rw [h]

/-- How a run ends the program: its report is printed, or is not, or its error is reported, or is
not. -/
inductive Ends (host : Host) (asJson : Bool) (warning : Text) :
    FileTree × Except RunError Report → Outcome → Prop
  | printed {tree : FileTree} {report : Report} (h : host.cutsOutput (report.toText asJson) = none) :
    Ends host asJson warning (tree, .ok report)
      { exit := .ok 0, output := report.toText asJson, errors := warning, tree }
  | unprinted {tree : FileTree} {report : Report} {printed : Nat} {reason : Text}
    (h : host.cutsOutput (report.toText asJson) = some (printed, reason)) :
    Ends host asJson warning (tree, .ok report)
      { exit := .ok 1, output := (report.toText asJson).take printed,
        errors := warning ++ errorLine reason, tree }
  | reported {tree : FileTree} {e : RunError} (h : isReported e = true) :
    Ends host asJson warning (tree, .error e)
      { exit := .ok 1, errors := warning ++ errorLine e.message, tree }
  | unreported {tree : FileTree} {e : RunError} (h : isReported e = false) :
    Ends host asJson warning (tree, .error e) { exit := .error (.run e), errors := warning, tree }

theorem ends_ended (host : Host) (asJson : Bool) (warning : Text)
    (result : FileTree × Except RunError Report) :
    Ends host asJson warning result (ended host asJson warning result) := by
  obtain ⟨tree, e | report⟩ := result
  · cases h : isReported e with
    | true =>
      rw [ended_of_reported _ _ _ _ h]
      exact .reported h
    | false =>
      rw [ended_of_unreported _ _ _ _ h]
      exact .unreported h
  · cases h : host.cutsOutput (report.toText asJson) with
    | none =>
      rw [ended_of_printed _ _ h]
      exact .printed h
    | some cut =>
      rw [ended_of_unprinted _ _ h]
      exact .unprinted h

/-- A warning stands in front of the errors. -/
theorem ended_eq (host : Host) (asJson : Bool) (warning : Text)
    (result : FileTree × Except RunError Report) :
    ended host asJson warning result = (ended host asJson [] result).warned warning := by
  have h := ends_ended host asJson [] result
  generalize ended host asJson [] result = outcome at h
  cases h with
  | printed h => rw [ended_of_printed _ _ h, Outcome.warned, List.append_nil]
  | unprinted h => rw [ended_of_unprinted _ _ h, Outcome.warned, List.nil_append]
  | reported h => rw [ended_of_reported _ _ _ _ h, Outcome.warned, List.nil_append]
  | unreported h => rw [ended_of_unreported _ _ _ _ h, Outcome.warned, List.append_nil]

/-- **The settings file only matters for the settings that it leads to**, and for its warning. -/
theorem runArguments_of_settle (clock : Clock) (h : settle t a = .ok (settings, warning)) :
    runArguments t clock a = (runArguments t clock (a.withSettings settings)).warned warning := by
  have hs : settle t (a.withSettings settings) = .ok (settings, []) := rfl
  rw [runArguments_eq_ended h, ended_eq, runArguments_eq_ended hs]
  rfl

/-- Without a settings file the errors are those of the run. -/
theorem errors_of_no_settingsFile (t : FileTree) (clock : Clock) (h : a.settingsFile = none) :
    (runArguments t clock a).errors = [] ∨
      ∃ rest, (runArguments t clock a).errors = "[ERROR] ".toList ++ rest := by
  have hs : settle t a = .ok (a.request.settings, []) := by
    unfold settle
    rw [h]
    rfl
  rw [runArguments_eq_ended hs]
  generalize Run.run t clock { a.request with settings := a.request.settings } = result
  have hends := ends_ended t.host a.request.asJson [] result
  generalize ended t.host a.request.asJson [] result = outcome at hends ⊢
  cases hends with
  | printed _ => exact .inl rfl
  | unprinted _ => exact .inr ⟨_, rfl⟩
  | reported _ => exact .inr ⟨_, rfl⟩
  | unreported _ => exact .inl rfl

/-- The program comes to an exit code only if its settings are settled. -/
theorem exists_ends_of_exit_eq_ok {code : Nat} (h : (runArguments t clock a).exit = .ok code) :
    ∃ settings warning, settle t a = .ok (settings, warning) ∧
      Ends t.host a.request.asJson warning (Run.run t clock { a.request with settings })
        (runArguments t clock a) := by
  cases hs : settle t a with
  | error e =>
    rw [runArguments, hs] at h
    cases h
  | ok settled =>
    obtain ⟨settings, warning⟩ := settled
    refine ⟨settings, warning, rfl, ?_⟩
    rw [runArguments_eq_ended hs]
    exact ends_ended _ _ _ _

/-- The program succeeds only if a run does, whose report it prints. -/
theorem exists_report_of_exit_eq_zero (h : (runArguments t clock a).exit = .ok 0) :
    ∃ settings warning report, settle t a = .ok (settings, warning) ∧
      Run.run t clock { a.request with settings } =
        ((runArguments t clock a).tree, .ok report) ∧
      (runArguments t clock a).output = report.toText a.request.asJson := by
  obtain ⟨settings, warning, hs, he⟩ := exists_ends_of_exit_eq_ok h
  generalize hr : Run.run t clock { a.request with settings } = result at he
  generalize runArguments t clock a = outcome at h he ⊢
  cases he with
  | @printed tree report _ => exact ⟨settings, warning, report, hs, hr, rfl⟩
  | unprinted _ => exact absurd (Except.ok.inj h) (by decide)
  | reported _ => exact absurd (Except.ok.inj h) (by decide)
  | unreported _ => cases h

/-- The program reports a failure only if a run fails, whose files it leaves, or its report is not
printed as a whole. -/
theorem exists_result_of_exit_eq_one (h : (runArguments t clock a).exit = .ok 1) :
    ∃ settings warning result, settle t a = .ok (settings, warning) ∧
      Run.run t clock { a.request with settings } = ((runArguments t clock a).tree, result) ∧
      ∀ report, result = .ok report → t.host.cutsOutput (report.toText a.request.asJson) ≠ none := by
  obtain ⟨settings, warning, hs, he⟩ := exists_ends_of_exit_eq_ok h
  generalize hr : Run.run t clock { a.request with settings } = result at he
  generalize runArguments t clock a = outcome at h he ⊢
  cases he with
  | printed _ => exact absurd (Except.ok.inj h) (by decide)
  | @unprinted tree report printed reason hcut =>
    refine ⟨settings, warning, _, hs, hr, fun report' h => ?_⟩
    cases h
    rw [hcut]
    exact Option.some_ne_none _
  | @reported tree e _ => exact ⟨settings, warning, _, hs, hr, nofun⟩
  | unreported _ => cases h

end Program

end CommentTasks
