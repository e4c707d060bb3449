import CommentTasks.Proofs.CommandLine.Outcome
import CommentTasks.Proofs.Run.Import

/-!
# What a failed run leaves behind

A run that fails before it writes leaves all files as they were. The note is written before the
ledger, and nothing is taken back: the note may be left with its first bytes, or it is written and
the ledger is refused or is left with its first bytes. So the note may have tasks that the ledger
has not. And if the report cannot be printed, both were written.
-/

namespace CommentTasks

section

variable {t : FileTree} {clock : Clock}

/-- The plan was not done: the note was left with its first bytes, or it was written and then the
ledger was refused or was left with its first bytes, of which a torn ledger has none. No other file
was changed. -/
inductive Run.Plan.LeftUndone (p : Run.Plan) (t t' : FileTree) : Prop
  | note {existing : Text} {l : Location} {taken : Nat} {problem : AccessError}
    (read : t.readDocument p.note = .ok existing)
    (failed : t.writeDocument p.note (Note.merge existing p.sectionText) = ⟨t', some problem⟩)
    (part : t'.locate p.note.toText =
      .ok (.taken l (.file ((Utf8.encode (Note.merge existing p.sectionText)).take taken))))
    (others : ∀ loc, loc ≠ l → t'.fileAt? loc = t.fileAt? loc)
  | ledger {existing : Text} {u : FileTree} {l : Location} {problem : AccessError}
    (noted : p.Noted t u existing l) (failed : p.newLedger.save u p.ledgerPath = ⟨t', some problem⟩)
    (whole : t'.locate p.note.toText =
      .ok (.taken l (.file (Utf8.encode (Note.merge existing p.sectionText)))))
    (others : ∀ loc, loc ≠ l → t'.fileAt? loc = t.fileAt? loc)
  | ledgerPart {existing : Text} {u : FileTree} {l l' : Location} {taken : Nat} {problem : AccessError}
    (noted : p.Noted t u existing l) (failed : p.newLedger.save u p.ledgerPath = ⟨t', some problem⟩)
    (part : t'.locate p.ledgerPath.toText =
      .ok (.taken l' (.file (p.newLedger.bytes.take taken))))
    (whole : l ≠ l' → t'.locate p.note.toText =
      .ok (.taken l (.file (Utf8.encode (Note.merge existing p.sectionText)))))
    (others : ∀ loc, loc ≠ l → loc ≠ l' → t'.fileAt? loc = t.fileAt? loc)

/-- A ledger that cannot be saved leaves the note as it was written. -/
theorem Run.Plan.leftUndone_of_ledger {p : Run.Plan} {u t' : FileTree} {existing : Text} {l : Location}
    {problem : AccessError} (noted : p.Noted t u existing l)
    (failed : p.newLedger.save u p.ledgerPath = ⟨t', some problem⟩) : p.LeftUndone t t' := by
  have hsave := Ledger.writing_save p.newLedger u p.ledgerPath
  rw [failed] at hsave
  cases hsave with
  | refused hd =>
    refine .ledger noted failed (hd.locateWith noted.wrote.locate) fun loc hloc => ?_
    rw [hd.fileAt?, noted.wrote.fileAt?_of_ne hloc]
  | @part _ l' _ taken h =>
    refine .ledgerPart noted failed h.locate (fun hne => ?_) fun loc hloc hloc' => ?_
    · rw [h.locate_of_taken noted.wrote.locate, if_neg hne]
    · rw [h.fileAt?_of_ne hloc', noted.wrote.fileAt?_of_ne hloc]

/-- A run that fails leaves all files as they were, or its plan undone. -/
theorem Run.fileAt?_of_run_eq_error {r : Request} {t' : FileTree} {e : RunError}
    (h : Run.run t clock r = (t', .error e)) :
    (∀ loc, t'.fileAt? loc = t.fileAt? loc) ∨
      ∃ p, Run.plan t clock r = .ok p ∧ p.news ≠ [] ∧ p.LeftUndone t t' := by
  rcases Run.run_eq_error h with rfl | ⟨p, hp, hc⟩
  · exact .inl fun loc => rfl
  · obtain ⟨hn, hw⟩ := Run.Plan.carryOut_eq_error hc
    cases hw with
    | refused hd => exact .inl hd.fileAt?
    | notePart read failed part =>
      exact .inr ⟨p, hp, hn,
        .note read failed part.locate fun loc hloc => part.fileAt?_of_ne hloc⟩
    | ledger noted failed => exact .inr ⟨p, hp, hn, Run.Plan.leftUndone_of_ledger noted failed⟩

/-- The program reports a failure only if a run has failed or its report is not printed, and leaves
the files as the run does. -/
theorem Program.exists_run_of_exit_eq_one {words : List Text}
    (h : (Program.run t clock words).exit = .ok 1) :
    ∃ a settings warning result, Arguments.ofTexts words = .ok (some a) ∧
      Program.settle t a = .ok (settings, warning) ∧
      Run.run t clock { a.request with settings } = ((Program.run t clock words).tree, result) ∧
      ∀ report, result = .ok report →
        t.host.cutsOutput (report.toText a.request.asJson) ≠ none := by
  unfold Program.run at h ⊢
  split at h
  · next a ha =>
    obtain ⟨settings, warning, result, hs, hr, hcut⟩ := Program.exists_result_of_exit_eq_one h
    exact ⟨a, settings, warning, result, ha, hs, hr, hcut⟩
  · exact absurd (Except.ok.inj h) (by decide)
  · exact absurd (Except.ok.inj h) (by decide)

/-- **A reported failure changes no file**, unless there was something new to write, and then either
the plan was left undone, and the note and the ledger are the files that were changed, or it was
done and its report was not printed as a whole. -/
theorem fileAt?_of_reported_failure {words : List Text}
    (h : (Program.run t clock words).exit = .ok 1) :
    (∀ loc, (Program.run t clock words).tree.fileAt? loc = t.fileAt? loc) ∨
      ∃ a settings warning p, Arguments.ofTexts words = .ok (some a) ∧
        Program.settle t a = .ok (settings, warning) ∧
        Run.plan t clock { a.request with settings } = .ok p ∧ p.news ≠ [] ∧
        (p.LeftUndone t (Program.run t clock words).tree ∨
          (∃ existing u l, p.Noted t u existing l ∧
            p.newLedger.save u p.ledgerPath = ⟨(Program.run t clock words).tree, none⟩) ∧
          t.host.cutsOutput (p.report.toText a.request.asJson) ≠ none) := by
  obtain ⟨a, settings, warning, result, ha, hs, hr, hcut⟩ := Program.exists_run_of_exit_eq_one h
  cases result with
  | error e =>
    rcases Run.fileAt?_of_run_eq_error hr with hf | ⟨p, hp, hn, hu⟩
    · exact .inl hf
    · exact .inr ⟨a, settings, warning, p, ha, hs, hp, hn, .inl hu⟩
  | ok report =>
    obtain ⟨p, hp, hc, hreport⟩ := Run.run_eq_ok_iff.1 hr
    by_cases hn : p.news = []
    · rw [p.carryOut_of_no_news hn] at hc
      rw [← (Prod.mk.inj hc).1]
      exact .inl fun loc => rfl
    · refine .inr ⟨a, settings, warning, p, ha, hs, hp, hn, .inr ⟨Run.Plan.carryOut_eq_ok hn hc, ?_⟩⟩
      rw [hreport]
      exact hcut report rfl

end

/-! ### A ledger that is refused -/

namespace TwoProjects

set_option maxRecDepth 100000

/-- A command line that asks for the ledger at the place of the vault itself. -/
def refusedWords : List Text :=
  ["scan".toList, "p".toList, "v".toList, "n.md".toList, "--state".toList, ".".toList,
    "--exts".toList, "c".toList]

def refusedSettings : Settings := { (request "p").settings with ledger := some ".".toList }

/-- What the run plans. -/
def refusedPlan : Run.Plan := { firstPlan with ledgerPath := .absolute vault }

/-- The files after the note was written. -/
def noteWritten (note : Text) : FileTree :=
  (before.set vault .directory).set noteLocation (.file (Utf8.encode note))

theorem plan_refused :
    Run.plan before clock { request "p" with settings := refusedSettings } = .ok refusedPlan := by
  have hn : Run.notePath before { request "p" with settings := refusedSettings } =
      .ok refusedPlan.note := by cbv
  have hl : Run.ledgerPath before { request "p" with settings := refusedSettings } =
      .ok refusedPlan.ledgerPath := by cbv
  have hr : before.readDocument refusedPlan.ledgerPath = .ok [] := by cbv
  have hload : Ledger.load before refusedPlan.ledgerPath = .ok .empty :=
    Ledger.load_eq_ok_iff.2 ⟨[], hr, rfl⟩
  have hc : Run.stamp clock 0 = .ok stamp := by decide +kernel
  have hnews : Run.news clock .empty [task, fixme, low] = .ok [⟨task, stamp⟩] := by decide +kernel
  exact Run.plan_eq_ok_iff.2 ⟨rfl, hn, hl, hload, hc, _, scanned_first, hnews⟩

theorem carryOut_refusedPlan : refusedPlan.carryOut before =
    (noteWritten (Note.merge [] refusedPlan.sectionText),
      .error (.access ⟨.isDirectory, "/w/v".toList⟩)) := by
  have hr : before.readDocument refusedPlan.note = .ok [] := by cbv
  have hn (note : Text) : before.writeDocument refusedPlan.note note =
      ⟨noteWritten note, none⟩ := by cbv
  have hl (note ledger : Text) : (noteWritten note).writeDocument refusedPlan.ledgerPath ledger =
      ⟨noteWritten note, some ⟨.isDirectory, "/w/v".toList⟩⟩ := by cbv
  rw [Run.Plan.carryOut, if_neg (by decide), Run.Plan.write, hr]
  simp only [hn, Ledger.save_eq (l := refusedPlan.newLedger) rfl, hl]

theorem run_refused : ∃ errors, Program.run before clock refusedWords =
    { exit := .ok 1, errors, tree := noteWritten (Note.merge [] refusedPlan.sectionText) } := by
  have ha : Arguments.ofTexts refusedWords =
      .ok (some ⟨{ request "p" with settings := refusedSettings }, none⟩) := by decide +kernel
  have hs : Program.settle before ⟨{ request "p" with settings := refusedSettings }, none⟩ =
      .ok (refusedSettings, []) := rfl
  rw [Program.run, ha]
  simp only [Program.runArguments, hs, Run.run, plan_refused, carryOut_refusedPlan]
  exact ⟨_, rfl⟩

end TwoProjects

theorem fileAt?_of_reported_failure_two_projects :
    (Program.run TwoProjects.before TwoProjects.clock TwoProjects.refusedWords).exit = .ok 1 ∧
      ∃ p : Run.Plan, p.LeftUndone TwoProjects.before
        (Program.run TwoProjects.before TwoProjects.clock TwoProjects.refusedWords).tree := by
  obtain ⟨errors, hr⟩ := TwoProjects.run_refused
  have he : (Program.run TwoProjects.before TwoProjects.clock TwoProjects.refusedWords).exit =
      .ok 1 := by rw [hr]
  refine ⟨he, ?_⟩
  rcases fileAt?_of_reported_failure he with hf | ⟨_, _, _, p, -, -, -, -, hp | ⟨-, hcut⟩⟩
  · -- the note is there afterwards and was not there before
    have hn := hf TwoProjects.noteLocation
    rw [hr] at hn
    have hb : TwoProjects.before.fileAt? TwoProjects.noteLocation = none := by decide
    rw [hb] at hn
    exact absurd ((FileTree.fileAt?_set_file _ _ (by decide)).symm.trans hn) (by simp)
  · exact ⟨p, hp⟩
  · -- every report is printed
    exact absurd rfl hcut

/-- The note is kept although the ledger was refused. -/
theorem reported_failure_changes_note_two_projects :
    (Program.run TwoProjects.before TwoProjects.clock TwoProjects.refusedWords).exit = .ok 1 ∧
      TwoProjects.before.fileAt? TwoProjects.noteLocation = none ∧
      (Program.run TwoProjects.before TwoProjects.clock TwoProjects.refusedWords).tree.fileAt?
          TwoProjects.noteLocation =
        some (Utf8.encode (Note.merge [] TwoProjects.refusedPlan.sectionText)) ∧
      ¬∀ loc, (Program.run TwoProjects.before TwoProjects.clock
        TwoProjects.refusedWords).tree.fileAt? loc = TwoProjects.before.fileAt? loc := by
  obtain ⟨errors, hr⟩ := TwoProjects.run_refused
  rw [hr]
  have hb : TwoProjects.before.fileAt? TwoProjects.noteLocation = none := by decide
  have ha := FileTree.fileAt?_set_file (TwoProjects.before.set TwoProjects.vault .directory)
    (Utf8.encode (Note.merge [] TwoProjects.refusedPlan.sectionText))
    (List.cons_ne_nil "w".toList ["v".toList, "n.md".toList])
  refine ⟨rfl, hb, ha, fun h => ?_⟩
  have hn := h TwoProjects.noteLocation
  rw [hb] at hn
  exact absurd (ha.symm.trans hn) (Option.some_ne_none _)

end CommentTasks
