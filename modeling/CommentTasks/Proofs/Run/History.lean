import CommentTasks.Proofs.Run.News

/-!
# Histories of a ledger file

Runs that succeed, one after the other, with one ledger file that nothing else writes. Between the
runs everything else may change: the projects, the notes, the settings and the clock. What one run
does to the ledger is `Turn.step`, and what all runs have done is told by induction.
-/

namespace CommentTasks

/-- A run that succeeds: the files before and after it, what it was asked for and what it
reported. -/
structure Turn where
  before : FileTree
  clock : Clock
  request : Request
  after : FileTree
  report : Report
  ran : Run.run before clock request = (after, .ok report)

namespace Turn

/-- What the ledger file of the run reads as in a tree, unless it cannot be read. -/
def documentIn (turn : Turn) (t : FileTree) : Option Text :=
  match Run.ledgerPath turn.before turn.request with
  | .ok path => (t.readDocument path).toOption
  | .error _ => none

/-- The document that the run finds in its ledger file. -/
def found (turn : Turn) : Option Text := turn.documentIn turn.before

/-- The document that the run leaves in its ledger file. -/
def left (turn : Turn) : Option Text := turn.documentIn turn.after

/-- The directory of the project of the run. -/
def project (turn : Turn) : Except RunError PathName :=
  Run.directory turn.before turn.request.project

/-- The tasks that the run finds in its project, in order. -/
def scanned (turn : Turn) : Except RunError (List Task) := Run.scanned turn.before turn.request

/-- The run finds the task in its project. -/
def Scans (turn : Turn) (task : Task) : Prop := ∃ tasks, turn.scanned = .ok tasks ∧ task ∈ tasks

/-- The tasks that the run adds to its note, in order. -/
def added (turn : Turn) : List Task := turn.report.news.map News.task

/-- The digests and stamps of the tasks that the run adds to its note. -/
def entries (turn : Turn) : List (Text × Text) := turn.report.news.map News.entry

/-- The plan that the run has carried out. -/
theorem exists_plan (turn : Turn) : ∃ p,
    Run.plan turn.before turn.clock turn.request = .ok p ∧
      p.carryOut turn.before = (turn.after, .ok ()) ∧ p.report = turn.report :=
  Run.run_eq_ok_iff.1 turn.ran

end Turn

/-- The document is that of a ledger, if there is room for its brackets. -/
def Holds (document : Option Text) (l : Ledger) : Prop :=
  ∃ text, document = some text ∧ ∀ path, Ledger.ofText {} path text = .ok l

theorem Holds.unique {document : Option Text} {l l' : Ledger} (h : Holds document l)
    (h' : Holds document l') : l = l' := by
  obtain ⟨text, rfl, hl⟩ := h
  obtain ⟨_, ht, hl'⟩ := h'
  cases ht
  exact Except.ok.inj ((hl []).symm.trans (hl' []))

theorem holds_empty : Holds (some []) .empty := ⟨[], rfl, fun _ => rfl⟩

theorem holds_of_load {t : FileTree} {path : PathName} {l : Ledger} (h : Ledger.load t path = .ok l) :
    Holds (t.readDocument path).toOption l := by
  obtain ⟨text, hr, hl⟩ := Ledger.load_eq_ok_iff.1 h
  rw [hr]
  exact ⟨text, rfl, fun _ => Ledger.ofText_unbounded hl⟩

namespace Turn

variable {turn : Turn} {p : Run.Plan} {l : Ledger}

theorem documentIn_eq (hp : Run.plan turn.before turn.clock turn.request = .ok p) (t : FileTree) :
    turn.documentIn t = (t.readDocument p.ledgerPath).toOption := by
  obtain ⟨-, -, hl, -⟩ := Run.plan_eq_ok_iff.1 hp
  rw [documentIn, hl]

/-- The run has planned with the ledger of the document that it found. -/
theorem ledger_eq (hp : Run.plan turn.before turn.clock turn.request = .ok p)
    (h : Holds turn.found l) : p.ledger = l := by
  rw [found, documentIn_eq hp] at h
  obtain ⟨-, -, -, hl, -⟩ := Run.plan_eq_ok_iff.1 hp
  exact (holds_of_load hl).unique h

/-- The tasks that the run adds are those that are new to the ledger. -/
theorem exists_added_eq (h : Holds turn.found l) : ∃ tasks, turn.scanned = .ok tasks ∧
    turn.added = News.unknownTasks l.digests tasks := by
  obtain ⟨p, hp, -, hr⟩ := turn.exists_plan
  obtain ⟨-, -, -, -, -, tasks, hs, -⟩ := Run.plan_eq_ok_iff.1 hp
  refine ⟨tasks, hs, ?_⟩
  rw [added, ← hr, ← ledger_eq hp h]
  exact Run.news_of_plan hp hs

theorem scans_of_mem_added {task : Task} (h : task ∈ turn.added) : turn.Scans task := by
  obtain ⟨p, hp, -, hr⟩ := turn.exists_plan
  obtain ⟨-, -, -, -, -, tasks, hs, -⟩ := Run.plan_eq_ok_iff.1 hp
  rw [added, ← hr] at h
  refine ⟨tasks, hs, (News.unknownTasks_sublist p.ledger.digests tasks).mem ?_⟩
  rw [← Run.news_of_plan hp hs]
  exact h

theorem keys_entries (turn : Turn) : Keyed.keys turn.entries = turn.added.map Task.digest :=
  News.keys_map_entry turn.report.news

/-- **What one run does to the ledger**: the news go to the end, and afterwards the ledger has the
digests of all tasks that were found. -/
theorem step (h : Holds turn.found l) :
    ∃ l', Holds turn.left l' ∧ l'.entries = l.entries ++ turn.entries ∧
      ∀ d, d ∈ l'.digests ↔ d ∈ l.digests ∨ ∃ task, turn.Scans task ∧ task.digest = d := by
  obtain ⟨p, hp, hc, hr⟩ := turn.exists_plan
  obtain ⟨tasks, hs, ha⟩ := exists_added_eq h
  have he : p.newLedger.entries = l.entries ++ turn.entries := by
    rw [Run.entries_newLedger hp, ledger_eq hp h, entries, ← hr]
    rfl
  refine ⟨p.newLedger, ?_, he, fun d => ?_⟩
  · rw [left, documentIn_eq hp]
    by_cases hn : p.news = []
    · -- nothing is written, and the ledger stays what it was
      have hkept : p.newLedger = l := by
        rw [Run.Plan.newLedger, hn, List.map_nil, Ledger.markAll_nil, ledger_eq hp h]
      rw [p.carryOut_of_no_news hn] at hc
      rw [hkept, ← (Prod.mk.inj hc).1, ← documentIn_eq hp]
      exact h
    · obtain ⟨_, u, _, -, hsaved⟩ := Run.Plan.carryOut_eq_ok hn hc
      obtain ⟨whole, _, hw⟩ := Ledger.wrote_of_save hsaved
      rw [Ledger.readDocument_of_wrote hw]
      exact ⟨_, rfl, fun path => Ledger.ofText_toText _ path whole⟩
  · have hd : p.newLedger.digests = l.digests ++ turn.added.map Task.digest := by
      rw [Ledger.digests, he, Keyed.keys, List.map_append, ← Keyed.keys, ← Keyed.keys, keys_entries]
      rfl
    rw [hd, ha, News.mem_digests_unknownTasks]
    refine or_congr_right ⟨?_, ?_⟩
    · rintro ⟨task, ht, rfl⟩
      exact ⟨task, ⟨tasks, hs, ht⟩, rfl⟩
    · rintro ⟨task, ⟨tasks', hs', ht⟩, rfl⟩
      cases hs.symm.trans hs'
      exact ⟨task, ht, rfl⟩

end Turn

/-- Runs that succeed, each of which finds in its ledger file what the one before has left there. -/
inductive History (start : Option Text) : List Turn → Option Text → Prop
  | nil : History start [] start
  | snoc {turns : List Turn} {document : Option Text} {turn : Turn} :
      History start turns document → turn.found = document → History start (turns ++ [turn]) turn.left

/-- One of the runs finds a task with the digest. -/
def FindsDigest (turns : List Turn) (d : Text) : Prop :=
  ∃ turn ∈ turns, ∃ task, turn.Scans task ∧ task.digest = d

namespace History

variable {start last : Option Text} {turns : List Turn} {initial : Ledger}

/-- What all runs have done to the ledger. -/
theorem ledger (h : History start turns last) (hs : Holds start initial) :
    ∃ final, Holds last final ∧ final.entries = initial.entries ++ turns.flatMap Turn.entries ∧
      ∀ d, d ∈ final.digests ↔ d ∈ initial.digests ∨ FindsDigest turns d := by
  induction h with
  | nil => exact ⟨initial, hs, by simp, by simp [FindsDigest]⟩
  | @snoc turns document turn _ hf ih =>
    obtain ⟨l, hl, he, hd⟩ := ih
    obtain ⟨l', hl', he', hd'⟩ := Turn.step (hf ▸ hl)
    refine ⟨l', hl', ?_, fun d => ?_⟩
    · rw [he', he, List.append_assoc, List.flatMap_append, List.flatMap_singleton]
    · rw [hd', hd, or_assoc]
      simp only [FindsDigest, List.mem_append, List.mem_singleton, or_and_right, exists_or,
        exists_eq_left]

/-- Every run begins where a history ends. -/
theorem before {earlier later : List Turn} {turn : Turn}
    (h : History start (earlier ++ turn :: later) last) :
    History start earlier turn.found := by
  generalize ht : earlier ++ turn :: later = turns at h
  induction h generalizing later with
  | nil => simp at ht
  | @snoc turns document turn' h' hf ih =>
    -- the last run is the one in question, or one that came later
    rcases List.eq_nil_or_concat later with rfl | ⟨later, turn'', rfl⟩
    · obtain ⟨rfl, hturn⟩ := List.append_inj' ht rfl
      rw [List.singleton_inj.1 hturn, hf]
      exact h'
    · rw [List.concat_eq_append, ← List.cons_append, ← List.append_assoc] at ht
      exact ih (List.append_inj' ht rfl).1

end History

theorem keys_flatMap_entries (turns : List Turn) :
    Keyed.keys (turns.flatMap Turn.entries) = (turns.flatMap Turn.added).map Task.digest := by
  induction turns with
  | nil => rfl
  | cons turn turns ih =>
    rw [List.flatMap_cons, List.flatMap_cons, List.map_append, ← ih, ← Turn.keys_entries]
    exact List.map_append

end CommentTasks
