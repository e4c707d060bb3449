import CommentTasks.Proofs.Run.History
import CommentTasks.Proofs.Task.Identity
import Mathlib

/-!
# Importing every task once

Over a history of runs with one ledger file no digest is added to a note twice, and a task is left
out only for one of the same identity that was added before. The identity is the file, the line and
the label, so a task may be left out for one of another project, keyword or metadata: `TwoProjects`
is such a history.
-/

namespace CommentTasks

/-! ### Two projects with one vault -/

namespace TwoProjects

set_option maxRecDepth 100000

/-- Three comments on one line, which differ in the keyword or in the metadata alone. -/
def source : Text := "/* TODO x */ /* FIXME x */ /* TODO x @p(low) */\n".toList

def projectPath (name : String) : PathName := .absolute ["w".toList, name.toList]

def sourcePath (name : String) : PathName := .absolute ["w".toList, name.toList, "a.c".toList]

def vault : Location := ["w".toList, "v".toList]

def noteLocation : Location := ["w".toList, "v".toList, "n.md".toList]

def ledgerLocation : Location := ["w".toList, "v".toList, Ledger.standardFileName]

/-- Two projects in the working directory, each with one file. -/
def before : FileTree :=
  ⟨[(["w".toList], .directory), (["w".toList, "p".toList], .directory),
    (["w".toList, "p".toList, "a.c".toList], .file (Utf8.encode source)),
    (["w".toList, "q".toList], .directory),
    (["w".toList, "q".toList, "a.c".toList], .file (Utf8.encode "/* TODO x */\n".toList))],
    ["w".toList], {}, by decide⟩

def clock : Clock := fun _ => ⟨0⟩

def stamp : Text := "0001-01-01T00:00:00.000Z".toList

def request (project : String) : Request :=
  { command := some "scan".toList, project := some project.toList, vault := some "v".toList,
    note := some "n.md".toList, settings := { extensions := some "c".toList } }

def task : Task := ⟨⟨"TODO".toList, "x".toList, {}⟩, "a.c".toList, 1⟩

/-- The task with another keyword. -/
def fixme : Task := { task with keyword := "FIXME".toList }

/-- The task with other metadata. -/
def low : Task := { task with metadata := { priority := some "low".toList } }

/-- The plan of a run before which the ledger is `ledger`. -/
def plan (ledger : Ledger) (news : List News) : Run.Plan where
  note := .absolute noteLocation
  ledgerPath := .absolute ledgerLocation
  ledger := ledger
  stamp := stamp
  news := news

/-- What the run over the first project plans. -/
def firstPlan : Run.Plan := plan .empty [⟨task, stamp⟩]

/-- The files after a note and a ledger were written. -/
def written (note ledger : Text) : FileTree :=
  ((before.set vault .directory).set noteLocation (.file (Utf8.encode note))).set ledgerLocation
    (.file (Utf8.encode ledger))

/-- The files after the first run. -/
def after : FileTree := written (Note.merge [] firstPlan.sectionText) firstPlan.newLedger.toText

theorem carryOut_firstPlan : firstPlan.carryOut before = (after, .ok ()) := by
  have hr : before.readDocument firstPlan.note = .ok [] := by cbv
  have hn (note : Text) : before.writeDocument firstPlan.note note =
      ⟨(before.set vault .directory).set noteLocation (.file (Utf8.encode note)), none⟩ := by cbv
  have hl (note ledger : Text) : FileTree.writeDocument
      ((before.set vault .directory).set noteLocation (.file (Utf8.encode note)))
        firstPlan.ledgerPath ledger = ⟨written note ledger, none⟩ := by cbv
  rw [Run.Plan.carryOut, if_neg (by decide), Run.Plan.write, hr]
  simp only [hn, Ledger.save_eq (l := firstPlan.newLedger) rfl, hl]
  rfl

theorem scanned_first : Run.scanned before (request "p") = .ok [task, fixme, low] := by
  have hd : Run.directory before (request "p").project = .ok (projectPath "p") := by cbv
  have hp : before.isFile (projectPath "p").toText = .ok false := by cbv
  have hf : before.walk (Settings.extensionTexts (request "p").settings.extensions)
      (projectPath "p") = .ok [sourcePath "p"] := by cbv
  have hb : before.readBytes (sourcePath "p").toText = .ok (Utf8.encode source) := by cbv
  have hc : decodeSource (Utf8.encode source) = some source := by decide +kernel
  have hk : Keywords.ofTexts? Keywords.standard = some .usual := rfl
  have ht : tasksIn .usual "a.c".toList source = [task, fixme, low] := by decide +kernel
  have hs : shownPath (projectPath "p") (sourcePath "p") = "a.c".toList := by decide
  exact Run.scanned_of_single_file hd (Run.keywords_standard rfl rfl) hk hp hf hb hc hs ht

/-- The second project holds the task as well, whatever was written. -/
theorem scanned_second (note ledger : Text) :
    Run.scanned (written note ledger) (request "q") = .ok [task] := by
  have hd : Run.directory (written note ledger) (request "q").project =
      .ok (projectPath "q") := by cbv
  have hp : (written note ledger).isFile (projectPath "q").toText = .ok false := by cbv
  have hf : (written note ledger).walk
      (Settings.extensionTexts (request "q").settings.extensions) (projectPath "q") =
        .ok [sourcePath "q"] := by cbv
  have hb : (written note ledger).readBytes (sourcePath "q").toText =
      .ok (Utf8.encode "/* TODO x */\n".toList) := by cbv
  have hc : decodeSource (Utf8.encode "/* TODO x */\n".toList) = some "/* TODO x */\n".toList := by
    decide +kernel
  have hk : Keywords.ofTexts? Keywords.standard = some .usual := rfl
  have ht : tasksIn .usual "a.c".toList "/* TODO x */\n".toList = [task] := by decide +kernel
  have hs : shownPath (projectPath "q") (sourcePath "q") = "a.c".toList := by decide
  exact Run.scanned_of_single_file hd (Run.keywords_standard rfl rfl) hk hp hf hb hc hs ht

theorem load_before : Ledger.load before firstPlan.ledgerPath = .ok .empty := by
  have hr : before.readDocument firstPlan.ledgerPath = .ok [] := by cbv
  rw [Ledger.load_eq_ok_iff]
  exact ⟨[], hr, rfl⟩

theorem locate_ledger (note ledger : Text) :
    (written note ledger).locate firstPlan.ledgerPath.toText =
      .ok (.taken ledgerLocation (.file (Utf8.encode ledger))) := by
  cbv

theorem load_after : Ledger.load after firstPlan.ledgerPath = .ok firstPlan.newLedger := by
  have hr := FileTree.readDocument_of_locate (locate_ledger (Note.merge [] firstPlan.sectionText)
    firstPlan.newLedger.toText) rfl (Utf8.decode_encode _)
  rw [Utf8.unifyLineEnds_of_not_mem (Ledger.return_not_mem_toText _)] at hr
  rw [Ledger.load_eq_ok_iff]
  exact ⟨_, hr, Ledger.ofText_toText _ _ rfl⟩

theorem plan_first : Run.plan before clock (request "p") = .ok firstPlan := by
  have hn : Run.notePath before (request "p") = .ok firstPlan.note := by cbv
  have hl : Run.ledgerPath before (request "p") = .ok firstPlan.ledgerPath := by cbv
  have hc : Run.stamp clock 0 = .ok stamp := by decide +kernel
  have hnews : Run.news clock .empty [task, fixme, low] = .ok [⟨task, stamp⟩] := by decide +kernel
  exact Run.plan_eq_ok_iff.2 ⟨rfl, hn, hl, load_before, hc, _, scanned_first, hnews⟩

/-- The run over the first project. -/
def first : Turn where
  before := before
  clock := clock
  request := request "p"
  after := after
  report := firstPlan.report
  ran := Run.run_eq_ok_iff.2 ⟨firstPlan, plan_first, carryOut_firstPlan, rfl⟩

/-- What a run over the second project plans, whatever was written. -/
theorem plan_second {note ledger : Text} {l : Ledger} {news : List News}
    (hload : Ledger.load (written note ledger) firstPlan.ledgerPath = .ok l)
    (hnews : Run.news clock l [task] = .ok news) :
    Run.plan (written note ledger) clock (request "q") = .ok (plan l news) := by
  have hn : Run.notePath (written note ledger) (request "q") = .ok firstPlan.note := by cbv
  have hl : Run.ledgerPath (written note ledger) (request "q") = .ok firstPlan.ledgerPath := by cbv
  have hc : Run.stamp clock 0 = .ok stamp := by decide +kernel
  exact Run.plan_eq_ok_iff.2 ⟨rfl, hn, hl, hload, hc, _, scanned_second _ _, hnews⟩

/-- The plan of the run over the second project, which finds nothing new. -/
def secondPlan : Run.Plan := plan firstPlan.newLedger []

theorem plan_second_after : Run.plan after clock (request "q") = .ok secondPlan := by
  have hnews : Run.news clock firstPlan.newLedger [task] = .ok [] := by decide +kernel
  exact plan_second load_after hnews

/-- The run over the second project, with the ledger that the first run has left. -/
def second : Turn where
  before := after
  clock := clock
  request := request "q"
  after := after
  report := secondPlan.report
  ran := Run.run_eq_ok_iff.2
    ⟨secondPlan, plan_second_after, Run.Plan.carryOut_of_no_news rfl after, rfl⟩

/-- The two runs are a history from no ledger at all. -/
theorem history : History (some []) [first, second] second.left := by
  have hf : first.found = some [] := by
    have hr : before.readDocument firstPlan.ledgerPath = .ok [] := by cbv
    rw [Turn.found, Turn.documentIn_eq plan_first]
    exact congrArg Except.toOption hr
  have hs : second.found = first.left := by
    rw [Turn.found, Turn.left, Turn.documentIn_eq plan_second_after, Turn.documentIn_eq plan_first]
    rfl
  exact .snoc (.snoc .nil hf) hs

end TwoProjects

/-! ### Nothing is imported twice -/

variable {start last : Option Text} {turns : List Turn}

/-- **Every digest is imported once.** After any history the ledger has its first entries, and
behind them those of the tasks that were added, in order. No digest is there twice, and the digests
are those that were there at first and those of all tasks that any run has found. So they are the
same after any other history, in another order as well, whose runs find the same. -/
theorem digests_imported_once {initial : Ledger} (hs : Holds start initial)
    (h : History start turns last) :
    ∃ final, Holds last final ∧
      final.entries = initial.entries ++ turns.flatMap Turn.entries ∧
      final.digests = initial.digests ++ (turns.flatMap Turn.added).map Task.digest ∧
      (initial.digests ++ (turns.flatMap Turn.added).map Task.digest).Nodup ∧
      (∀ d, d ∈ final.digests ↔ d ∈ initial.digests ∨ FindsDigest turns d) ∧
      ∀ turns' last' final', History start turns' last' → Holds last' final' →
        (∀ d, FindsDigest turns' d ↔ FindsDigest turns d) →
          ∀ d, d ∈ final'.digests ↔ d ∈ final.digests := by
  obtain ⟨final, hl, he, hd⟩ := h.ledger hs
  have hk : final.digests = initial.digests ++ (turns.flatMap Turn.added).map Task.digest := by
    rw [Ledger.digests, he, Keyed.keys, List.map_append, ← Keyed.keys, ← Keyed.keys,
      keys_flatMap_entries]
    rfl
  refine ⟨final, hl, he, hk, hk ▸ final.nodup, hd, ?_⟩
  intro turns' last' final' h' hl' hf d
  obtain ⟨other, ho, -, hd'⟩ := h'.ledger hs
  cases ho.unique hl'
  rw [hd, hd', hf]

theorem digests_imported_once_two_projects :
    Holds (some []) .empty ∧
      History (some []) [TwoProjects.first, TwoProjects.second] TwoProjects.second.left ∧
      ∃ final, Holds TwoProjects.second.left final ∧
        final.digests = ["ac4e61e7".toList] := by
  obtain ⟨final, hl, -, hd, -⟩ :=
    digests_imported_once holds_empty TwoProjects.history
  refine ⟨holds_empty, TwoProjects.history, final, hl, hd.trans ?_⟩
  decide +kernel

/-! ### Nothing is lost -/

/-- Tasks that the runs find have one digest only if they have one identity. -/
def DigestsSeparate (turns : List Turn) : Prop :=
  ∀ turn ∈ turns, ∀ turn' ∈ turns, ∀ a b, turn.Scans a → turn'.Scans b → a.digest = b.digest →
    a.identity = b.identity

/-- **No task is lost for a task of another identity.** A task that a run finds is added by it, or a
task of the same identity was added by an earlier run, or by this run for an earlier comment. If the
paths have no colon, the two agree in the path, the line and the label. -/
theorem found_task_added_or_known {earlier later : List Turn} {turn : Turn} {found rest : List Task}
    {task : Task} (h : History (some []) (earlier ++ turn :: later) last)
    (hd : DigestsSeparate (earlier ++ turn :: later))
    (hs : turn.scanned = .ok (found ++ task :: rest)) :
    task ∈ turn.added ∨ ∃ same : Task,
      (same ∈ earlier.flatMap Turn.added ∨ same ∈ found ∧ same ∈ turn.added) ∧
      same.identity = task.identity ∧
      (':' ∉ same.path → ':' ∉ task.path →
        same.path = task.path ∧ same.line = task.line ∧ same.label = task.label) := by
  obtain ⟨l, hl, he, -⟩ := h.before.ledger holds_empty
  obtain ⟨tasks, hs', ha⟩ := Turn.exists_added_eq hl
  cases hs.symm.trans hs'
  have hturn : turn ∈ earlier ++ turn :: later := List.mem_append_right _ List.mem_cons_self
  have htask : turn.Scans task :=
    ⟨_, hs, List.mem_append_right _ List.mem_cons_self⟩
  -- what has the digest of the task and was added has its identity
  have same {other : Turn} {a : Task} (ho : other ∈ earlier ++ turn :: later)
      (hm : a ∈ other.added) (hdigest : a.digest = task.digest) :
      a.identity = task.identity ∧ (':' ∉ a.path → ':' ∉ task.path →
        a.path = task.path ∧ a.line = task.line ∧ a.label = task.label) := by
    have hi := hd other ho turn hturn a task (Turn.scans_of_mem_added hm) htask hdigest
    exact ⟨hi, fun hp hp' => identityText_injective hp hp' hi⟩
  rcases News.mem_unknownTasks_or l.digests found task rest with hn | hn | ⟨a, hf, hn, hdigest⟩
  · exact .inl (ha ▸ hn)
  · have hk : task.digest ∈ (earlier.flatMap Turn.added).map Task.digest := by
      rw [← keys_flatMap_entries]
      rw [Ledger.digests, he] at hn
      exact hn
    obtain ⟨a, hm, hdigest⟩ := List.mem_map.1 hk
    obtain ⟨other, ho, hadded⟩ := List.mem_flatMap.1 hm
    exact .inr ⟨a, .inl hm, same (List.mem_append_left _ ho) hadded hdigest⟩
  · rw [← ha] at hn
    exact .inr ⟨a, .inr ⟨hf, hn⟩, same hturn hn hdigest⟩

namespace TwoProjects

/-- All tasks of the two projects have one identity. -/
theorem identity_of_scans {turn : Turn} (ht : turn ∈ [first, second]) {a : Task}
    (ha : turn.Scans a) : a.identity = "a.c:1:x".toList := by
  have hi : ∀ a ∈ [task, fixme, low], a.identity = "a.c:1:x".toList := by decide +kernel
  obtain ⟨tasks, hs, ha⟩ := ha
  rcases List.mem_pair.1 ht with rfl | rfl
  · cases hs.symm.trans scanned_first
    exact hi a ha
  · cases hs.symm.trans (scanned_second _ _)
    exact hi a (List.mem_cons.2 (.inl (List.mem_singleton.1 ha)))

theorem digestsSeparate : DigestsSeparate [first, second] := by
  intro turn ht turn' ht' a b ha hb _
  rw [identity_of_scans ht ha, identity_of_scans ht' hb]

theorem project_ne : second.project ≠ first.project := by
  have hp : Run.directory before (some "p".toList) = .ok (projectPath "p") := by cbv
  have hq (note ledger : Text) : Run.directory (written note ledger) (some "q".toList) =
      .ok (projectPath "q") := by cbv
  show Run.directory after (some "q".toList) ≠ Run.directory before (some "p".toList)
  rw [hp, after, hq]
  decide

end TwoProjects

theorem found_task_added_or_known_two_projects :
    History (some []) ([] ++ TwoProjects.first :: [TwoProjects.second]) TwoProjects.second.left ∧
      DigestsSeparate ([] ++ TwoProjects.first :: [TwoProjects.second]) ∧
      TwoProjects.first.scanned =
        .ok ([TwoProjects.task] ++ TwoProjects.fixme :: [TwoProjects.low]) ∧
      ∃ same ∈ TwoProjects.first.added, same.identity = TwoProjects.fixme.identity := by
  have hh : History (some []) ([] ++ TwoProjects.first :: [TwoProjects.second])
    TwoProjects.second.left := TwoProjects.history
  have hs : TwoProjects.first.scanned =
    .ok ([TwoProjects.task] ++ TwoProjects.fixme :: [TwoProjects.low]) := TwoProjects.scanned_first
  refine ⟨hh, TwoProjects.digestsSeparate, hs, ?_⟩
  rcases found_task_added_or_known hh TwoProjects.digestsSeparate hs with
    h | ⟨same, h | ⟨-, h⟩, hi, -⟩
  · exact ⟨_, h, rfl⟩
  · cases h
  · exact ⟨same, h, hi⟩

/-- Every task that a run finds was added with all that is known of it, by this run or by an earlier
run over the same project. -/
def RecordsKept (turns : List Turn) : Prop :=
  ∀ earlier turn later found task rest, turns = earlier ++ turn :: later →
    turn.scanned = .ok (found ++ task :: rest) →
      task ∈ turn.added ∨ ∃ other ∈ earlier, other.project = turn.project ∧ task ∈ other.added

/-- Records with another keyword, with other metadata and of another project are left out. -/
theorem records_left_out_two_projects :
    History (some []) [TwoProjects.first, TwoProjects.second] TwoProjects.second.left ∧
      DigestsSeparate [TwoProjects.first, TwoProjects.second] ∧
      TwoProjects.first.scanned = .ok [TwoProjects.task, TwoProjects.fixme, TwoProjects.low] ∧
      TwoProjects.first.added = [TwoProjects.task] ∧
      TwoProjects.second.project ≠ TwoProjects.first.project ∧
      TwoProjects.second.scanned = .ok [TwoProjects.task] ∧ TwoProjects.second.added = [] ∧
      ¬RecordsKept [TwoProjects.first, TwoProjects.second] := by
  refine ⟨TwoProjects.history, TwoProjects.digestsSeparate, TwoProjects.scanned_first, rfl,
    TwoProjects.project_ne, TwoProjects.scanned_second _ _, rfl, fun h => ?_⟩
  rcases h [] _ [TwoProjects.second] [TwoProjects.task] TwoProjects.fixme [TwoProjects.low] rfl
    TwoProjects.scanned_first with hm | ⟨_, hm, -⟩
  · exact absurd (List.mem_singleton.1 hm) (by decide)
  · cases hm

end CommentTasks
