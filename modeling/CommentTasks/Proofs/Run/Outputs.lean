import CommentTasks.Proofs.CommandLine.Outcome
import CommentTasks.Proofs.Run.Import
import CommentTasks.Proofs.Run.Report

/-!
# The outputs of a run agree

A run that succeeds has one list of tasks that it adds: the tasks that were found whose digest is
neither in the ledger nor the digest of an earlier one. The section of the note, the new entries of
the ledger and the printed report are all made from this list, and nothing is written if it is
empty.
-/

namespace CommentTasks

namespace News

/-- The tasks whose digest is neither known nor the digest of a task before them, where a task is
taken together with all tasks before it. -/
def firstOfDigest (known : List Text) (tasks : List Task) : List Task :=
  ((tasks.zip tasks.inits).filter fun x => x.1.digest ∉ known ++ x.2.map Task.digest).map Prod.fst

/-- The order of the known digests does not matter. -/
theorem firstOfDigest_congr {known known' : List Text} (h : ∀ d, d ∈ known ↔ d ∈ known')
    (tasks : List Task) : firstOfDigest known tasks = firstOfDigest known' tasks := by
  unfold firstOfDigest
  congr 1
  apply List.filter_congr
  intro x _
  simp only [List.mem_append, h]

/-- After the first task its digest is known. -/
theorem firstOfDigest_cons (known : List Text) (t : Task) (rest : List Task) :
    firstOfDigest known (t :: rest) =
      if t.digest ∈ known then firstOfDigest known rest
      else t :: firstOfDigest (t.digest :: known) rest := by
  have hz : (t :: rest).zip (t :: rest).inits =
      (t, []) :: (rest.zip rest.inits).map (Prod.map id (t :: ·)) := by
    rw [List.inits_cons, List.zip_cons_cons, List.zip_map_right]
  have hrest : (((rest.zip rest.inits).map (Prod.map id (t :: ·))).filter
      fun x => x.1.digest ∉ known ++ x.2.map Task.digest).map Prod.fst =
        firstOfDigest (t.digest :: known) rest := by
    rw [List.filter_map, List.map_map, firstOfDigest]
    congr 1
    apply List.filter_congr
    intro x _
    have hp : (x.1.digest ∈ known ++ t.digest :: x.2.map Task.digest) ↔
        x.1.digest ∈ t.digest :: (known ++ x.2.map Task.digest) := List.perm_middle.mem_iff
    simp only [Function.comp, Prod.map, id, List.map_cons, hp, List.cons_append]
  rw [firstOfDigest, hz]
  split
  · next h =>
    rw [List.filter_cons_of_neg (by simpa using h), hrest]
    apply firstOfDigest_congr
    intro d
    rw [List.mem_cons, or_iff_right_of_imp]
    rintro rfl
    exact h
  · next h =>
    rw [List.filter_cons_of_pos (by simpa using h), List.map_cons, hrest]

/-- The tasks that a run adds are those of a new digest. -/
theorem unknownTasks_eq_firstOfDigest (known : List Text) (tasks : List Task) :
    unknownTasks known tasks = firstOfDigest known tasks := by
  induction tasks generalizing known with
  | nil => rfl
  | cons t rest ih =>
    rw [unknownTasks, firstOfDigest_cons, ih, ih]
    simp only [List.contains_eq_mem, decide_eq_true_eq]

/-- The entries of the ledger are the digests of the tasks with their stamps. -/
theorem map_entry_eq_zip (ns : List News) :
    ns.map entry = ((ns.map News.task).map Task.digest).zip (ns.map News.stamp) := by
  rw [List.map_map, List.zip_map']
  rfl

/-- The lines of a section are made from the tasks alone. -/
theorem sectionLines_eq (stamp : Text) (ns : List News) : sectionLines stamp ns =
    [headingText stamp, []] ++
      (ns.map News.task).flatMap fun t => [t.summaryLine, t.locationLine t.digest, []] := by
  rw [List.flatMap_map]
  rfl

end News

namespace Report

/-- The document that reports these tasks for a note. -/
def document (note : PathName) (tasks : List Task) : Json Text :=
  .object [("note".toList, .string (forwardSlashes note.toText)),
    ("appended".toList, .int tasks.length),
    ("tasks".toList, .array (tasks.map fun t =>
      .object (t.members ++ [("hash".toList, .string t.digest)])))]

theorem toJson_eq_document (r : Report) : r.toJson = document r.note (r.news.map News.task) := by
  rw [document, List.map_map, List.length_map]
  rfl

end Report

/-- All that the program puts out for a plan over the files `t` is made from the tasks `new`. -/
structure Outcome.MadeFrom (o : Outcome) (new : List Task) (t : FileTree) (p : Run.Plan)
    (asJson : Bool) : Prop where
  /-- The digests are pairwise distinct, and none is in the ledger. -/
  nodup : (p.ledger.digests ++ new.map Task.digest).Nodup
  /-- Nothing is written if there are no tasks. -/
  unchanged : new = [] → o.tree = t
  /-- The note gets a section with two lines and an empty one for each task, then the ledger gets an
  entry for each. -/
  written : new ≠ [] → ∃ existing u l l' stamps, ∃ ledger : Ledger,
    t.readDocument p.note = .ok existing ∧
    t.Wrote p.note (Utf8.encode (Note.merge existing (Note.sectionText ([headingText p.stamp, []] ++
      new.flatMap fun task => [task.summaryLine, task.locationLine task.digest, []])))) l u ∧
    stamps.length = new.length ∧
    ledger.entries = p.ledger.entries ++ (new.map Task.digest).zip stamps ∧
    u.Wrote p.ledgerPath (Utf8.encode ledger.toText) l' o.tree ∧
    Ledger.load o.tree p.ledgerPath = .ok ledger
  /-- The report that is printed as a document is read back. -/
  document : asJson = true → Json.parseWithin none o.output = .ok (Report.document p.note new).wide
  /-- A reader that refuses long integers reads it as well, if there are none. -/
  short_document (limit : Option Nat) : asJson = true → Json.Short limit new.length →
    (∀ task ∈ new, Json.Short limit task.line) →
      Json.parseWithin limit o.output = .ok (Report.document p.note new).wide
  /-- The report that is printed as a sentence counts the tasks. -/
  sentence : asJson = false → o.output = (if new = [] then "No new comment tasks found.".toList
    else "Appended ".toList ++ Text.ofNat new.length ++ " task(s) to ".toList ++
      forwardSlashes p.note.toText) ++ ['\n']

namespace Run

variable {t t' : FileTree} {clock : Clock} {r : Request} {p : Plan} {found : List Task}

/-- A plan with news that is carried out has put their tasks in the note and in the ledger. -/
theorem written_of_carryOut (hp : plan t clock r = .ok p) (hn : p.news ≠ [])
    (hc : p.carryOut t = (t', .ok ())) : ∃ existing u l l' stamps, ∃ ledger : Ledger,
    t.readDocument p.note = .ok existing ∧
    t.Wrote p.note (Utf8.encode (Note.merge existing (Note.sectionText ([headingText p.stamp, []] ++
      (p.news.map News.task).flatMap fun task =>
        [task.summaryLine, task.locationLine task.digest, []])))) l u ∧
    stamps.length = (p.news.map News.task).length ∧
    ledger.entries =
      p.ledger.entries ++ ((p.news.map News.task).map Task.digest).zip stamps ∧
    u.Wrote p.ledgerPath (Utf8.encode ledger.toText) l' t' ∧
    Ledger.load t' p.ledgerPath = .ok ledger := by
  obtain ⟨existing, u, l, ⟨he, -, hw⟩, hsaved⟩ := Plan.carryOut_eq_ok hn hc
  obtain ⟨whole, l', hw'⟩ := Ledger.wrote_of_save hsaved
  rw [Plan.sectionText, News.sectionLines_eq] at hw
  refine ⟨existing, u, l, l', p.news.map News.stamp, p.newLedger, he, hw, ?_, ?_, hw', ?_⟩
  · rw [List.length_map, List.length_map]
  · rw [entries_newLedger hp, News.map_entry_eq_zip]
  · apply Ledger.load_eq_ok_iff.2
    exact ⟨_, Ledger.readDocument_of_wrote hw', Ledger.ofText_toText _ _ whole⟩

/-- What a plan puts out that is carried out and reported is made from the tasks of its news. -/
theorem madeFrom_of_carryOut {o : Outcome} {asJson : Bool} (hp : plan t clock r = .ok p)
    (hc : p.carryOut t = (o.tree, .ok ())) (ho : o.output = p.report.toText asJson) :
    o.MadeFrom (p.news.map News.task) t p asJson := by
  have hempty : p.news.map News.task = [] ↔ p.news = [] := List.map_eq_nil_iff
  have hdocument (limit : Option Nat) (hj : asJson = true)
      (hn : Json.Short limit (p.news.map News.task).length)
      (hline : ∀ task ∈ p.news.map News.task, Json.Short limit task.line) :
      Json.parseWithin limit o.output =
        .ok (Report.document p.note (p.news.map News.task)).wide := by
    have hd : p.report.toJson = Report.document p.note (p.news.map News.task) :=
      p.report.toJson_eq_document
    rw [ho, hj, ← hd]
    apply Report.parseWithin_toText
    · rwa [List.length_map] at hn
    · intro n hm
      exact hline _ (List.mem_map_of_mem hm)
  constructor
  · obtain ⟨-, -, -, -, -, found, hf, -⟩ := plan_eq_ok_iff.1 hp
    rw [news_of_plan hp hf]
    exact News.nodup_digests_unknownTasks p.ledger.nodup found
  · intro hn
    rw [p.carryOut_of_no_news (hempty.1 hn)] at hc
    exact (Prod.mk.inj hc).1.symm
  · intro hn
    exact written_of_carryOut hp (fun he => hn (hempty.2 he)) hc
  · intro hj
    exact hdocument none hj (Json.short_none _) fun _ _ => Json.short_none _
  · exact hdocument
  · intro hj
    rw [ho, hj]
    simp only [hempty, List.length_map]
    rfl

end Run

/-- **The outputs of a run agree.** If the program succeeds, then it has added the tasks of the
project whose digest is neither in the ledger nor the digest of an earlier one, in the order in
which they were found; and the section of the note, the ledger and what is printed are made from
them. -/
theorem outputs_agree {t : FileTree} {clock : Clock} {words : List Text} {a : Arguments}
    (ha : Arguments.ofTexts words = .ok (some a))
    (h : (Program.run t clock words).exit = .ok 0) :
    ∃ settings warning p found,
      Program.settle t a = .ok (settings, warning) ∧
      Run.plan t clock { a.request with settings } = .ok p ∧
      Run.scanned t { a.request with settings } = .ok found ∧
      Ledger.load t p.ledgerPath = .ok p.ledger ∧
      (Program.run t clock words).MadeFrom (News.firstOfDigest p.ledger.digests found) t p
        a.request.asJson := by
  have hrun : Program.run t clock words = Program.runArguments t clock a := by
    rw [Program.run, ha]
  rw [hrun] at h ⊢
  obtain ⟨settings, warning, report, hs, hr, ho⟩ := Program.exists_report_of_exit_eq_zero h
  obtain ⟨p, hp, hc, rfl⟩ := Run.run_eq_ok_iff.1 hr
  obtain ⟨-, -, -, hl, -, found, hf, -⟩ := Run.plan_eq_ok_iff.1 hp
  refine ⟨settings, warning, p, found, hs, hp, hf, hl, ?_⟩
  rw [← News.unknownTasks_eq_firstOfDigest, ← Run.news_of_plan hp hf]
  exact Run.madeFrom_of_carryOut hp hc ho

namespace TwoProjects

/-- The command line of the first run, which asks for a document. -/
def words : List Text :=
  ["scan".toList, "p".toList, "v".toList, "n.md".toList, "--exts".toList, "c".toList,
    "--json".toList]

def arguments : Arguments := { request := { request "p" with asJson := true } }

theorem ofTexts_words : Arguments.ofTexts words = .ok (some arguments) := by
  decide +kernel

theorem plan_arguments : Run.plan before clock arguments.request = .ok firstPlan :=
  plan_first

theorem exit_words : (Program.run before clock words).exit = .ok 0 := by
  have hs : Program.settle before arguments = .ok (arguments.request.settings, []) := rfl
  have hr : Run.run before clock arguments.request = (after, .ok firstPlan.report) :=
    Run.run_eq_ok_iff.2 ⟨firstPlan, plan_arguments, carryOut_firstPlan, rfl⟩
  rw [Program.run, ofTexts_words]
  simp only [Program.runArguments_eq_ended hs]
  rw [hr]
  rfl

end TwoProjects

/-- The three comments of the first project have one digest, and only the first of them is
reported. -/
theorem outputs_agree_two_projects :
    Arguments.ofTexts TwoProjects.words = .ok (some TwoProjects.arguments) ∧
      (Program.run TwoProjects.before TwoProjects.clock TwoProjects.words).exit = .ok 0 ∧
      Json.parseWithin none
          (Program.run TwoProjects.before TwoProjects.clock TwoProjects.words).output =
        .ok (Report.document TwoProjects.firstPlan.note [TwoProjects.task]).wide := by
  refine ⟨TwoProjects.ofTexts_words, TwoProjects.exit_words, ?_⟩
  obtain ⟨settings, warning, p, found, hs, hp, hf, -, hm⟩ :=
    outputs_agree TwoProjects.ofTexts_words TwoProjects.exit_words
  obtain ⟨rfl, rfl⟩ := Prod.mk.inj (Except.ok.inj hs)
  cases TwoProjects.plan_arguments.symm.trans hp
  cases TwoProjects.scanned_first.symm.trans hf
  have hnew : News.firstOfDigest TwoProjects.firstPlan.ledger.digests
      [TwoProjects.task, TwoProjects.fixme, TwoProjects.low] = [TwoProjects.task] := by
    decide +kernel
  rw [← hnew]
  exact hm.document rfl

end CommentTasks
