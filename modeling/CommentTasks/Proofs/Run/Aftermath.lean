import CommentTasks.Proofs.FileTree.Resolve
import CommentTasks.Proofs.Ledger.Saved
import CommentTasks.Proofs.Run.News
import CommentTasks.Proofs.Source.Scan

/-!
# What a run leaves for the next one

A run with news leaves the note and the ledger that it has written, in a tree that has grown by
them. Its operands name there what they named, so the run can be planned again, with the ledger that
it has written; and whatever it found the first time that ledger knows.
-/

namespace CommentTasks

/-- The extensions that the request chooses source files by. -/
abbrev Request.extensions (r : Request) : List Text := Settings.extensionTexts r.settings.extensions

namespace Run

open FileTree (Grows)

variable {t t' u : FileTree} {clock clock' : Clock} {r : Request} {p p' : Plan}
  {project vault : PathName} {found : List Task} {task : Task}

/-! ### What a run leaves -/

/-- What a plan with news leaves once it is carried out: the note at one location and the ledger at
another, or in place of the note. -/
structure Plan.Left (p : Plan) (t t' : FileTree) (noteLocation ledgerLocation : Location)
    (existing : Text) : Prop where
  read : t.readDocument p.note = .ok existing
  grows : Grows [noteLocation, ledgerLocation] t t'
  wellFormed : t'.WellFormed
  load : Ledger.load t' p.ledgerPath = .ok p.newLedger
  ledger : t'.locate p.ledgerPath.toText =
    .ok (.taken ledgerLocation (.file (Utf8.encode p.newLedger.toText)))
  note : t'.locate p.note.toText = .ok (if noteLocation = ledgerLocation then
    .taken ledgerLocation (.file (Utf8.encode p.newLedger.toText))
  else .taken noteLocation (.file (Utf8.encode (Note.merge existing p.sectionText))))

theorem Plan.exists_left (ht : t.WellFormed) (hn : p.news ≠ []) (h : p.carryOut t = (t', .ok ())) :
    ∃ l₁ l₂ existing, p.Left t t' l₁ l₂ existing := by
  obtain ⟨existing, u, l₁, noted, saved⟩ := carryOut_eq_ok hn h
  obtain ⟨whole, hd⟩ := Ledger.save_eq_whole_iff.1 saved
  obtain ⟨l₂, h₂⟩ := FileTree.wrote_of_writeDocument hd
  refine ⟨l₁, l₂, existing, noted.read, ?_, (ht.writeDocument noted.written).writeDocument hd,
    Ledger.load_of_save saved, h₂.locate, h₂.locate_of_taken noted.wrote.locate⟩
  exact (noted.wrote.grows.mono (by simp)).trans (h₂.grows.mono (by simp))

/-! ### The second plan -/

/-- With the standard keywords, the tasks that are found are those of the project. -/
theorem scanned_eq_ok_iff (hk : r.settings.keywords = none) (hf : r.settings.keywordFiles = []) :
    scanned t r = .ok found ↔ ∃ project, directory t r.project = .ok project ∧
      t.tasksOfProject .usual r.extensions project = .ok found := by
  have htexts : (Keywords.standard.map Wide.text).filterMap Wide.text? = Keywords.standard := rfl
  unfold scanned tasks
  simp only [bind_eq_ok_iff, keywords_standard hk hf, Except.ok.injEq, exists_eq_left', htexts,
    Keywords.ofTexts?_standard, mapError_eq_ok_iff]

/-- What a run has found is known to the ledger that it writes. -/
theorem mem_digests_newLedger (hp : plan t clock r = .ok p) (hs : scanned t r = .ok found)
    (h : task ∈ found) : task.digest ∈ p.newLedger.digests := by
  have hd : task.digest ∈ p.ledger.digests ++
      (News.unknownTasks p.ledger.digests found).map Task.digest :=
    News.mem_digests_unknownTasks.2 (.inr ⟨task, h, rfl⟩)
  rw [← news_of_plan hp hs, ← News.keys_map_entry] at hd
  rw [Ledger.digests, entries_newLedger hp, Keyed.keys, List.map_append]
  exact hd

/-- What the source files of the project state is known to the ledger that the run writes. -/
theorem mem_digests_of_statesAt (hp : plan t clock r = .ok p) (hs : scanned t r = .ok found)
    (hf : t.tasksOfProject .usual r.extensions project = .ok found) {l : Location}
    (h : t.StatesAt .usual r.extensions project l task) : task.digest ∈ p.newLedger.digests :=
  mem_digests_newLedger hp hs ((FileTree.mem_of_tasksOfProject hf).2 ⟨l, h⟩)

theorem Plan.newLedger_of_no_news (h : p.news = []) : p.newLedger = p.ledger := by
  rw [newLedger, h]
  rfl

/-- **A run can be planned again** once its ledger is written, if its operands name what they named.
Its news are tasks of the project that the ledger does not know. -/
theorem exists_plan_again (hp : plan t clock r = .ok p) (hk : r.settings.keywords = none)
    (hf : r.settings.keywordFiles = []) (hc : ∀ n, (clock' n).stamp?.isSome)
    (hproject : directory t' r.project = .ok project)
    (hwalk : ∃ files, t'.walk r.extensions project = .ok files)
    (hvault : ∀ vault, directory t r.vault = .ok vault → directory t' r.vault = .ok vault)
    (hload : Ledger.load t' p.ledgerPath = .ok p.newLedger) :
    ∃ p', plan t' clock' r = .ok p' ∧ p'.note = p.note ∧ p'.ledgerPath = p.ledgerPath ∧
      p'.ledger = p.newLedger ∧ ∀ n ∈ p'.news, n.task.digest ∉ p.newLedger.digests ∧
        ∃ l, t'.StatesAt .usual r.extensions project l n.task := by
  obtain ⟨hcommand, hnote, hledger, -, -, -⟩ := plan_eq_ok_iff.1 hp
  have hnote' : notePath t' r = .ok p.note := by
    unfold notePath at hnote ⊢
    split at hnote
    · obtain ⟨vault, hv, hn⟩ := map_eq_ok_iff.1 hnote
      exact map_eq_ok_iff.2 ⟨vault, hvault vault hv, hn⟩
    · cases hnote
  have hledger' : ledgerPath t' r = .ok p.ledgerPath := by
    obtain ⟨vault, hv, hl⟩ := map_eq_ok_iff.1 hledger
    exact map_eq_ok_iff.2 ⟨vault, hvault vault hv, hl⟩
  obtain ⟨stamp', hs⟩ := Option.isSome_iff_exists.1 (hc 0)
  obtain ⟨files, hwalk⟩ := hwalk
  obtain ⟨found, hfound⟩ : ∃ found, t'.tasksOfProject .usual r.extensions project = .ok found :=
    ⟨_, FileTree.tasksOfProject_eq_ok_iff.2 ⟨files, hwalk, rfl⟩⟩
  have hscanned := (scanned_eq_ok_iff hk hf).2 ⟨project, hproject, hfound⟩
  obtain ⟨ns, hns⟩ := News.exists_stampAll hc 1 (News.unknownTasks p.newLedger.digests found)
  refine ⟨⟨p.note, p.ledgerPath, p.newLedger, stamp', ns⟩,
    plan_eq_ok_iff.2 ⟨hcommand, hnote', hledger', hload, stamp_eq_ok_iff.2 hs, found, hscanned,
      news_eq_ok_iff.2 hns⟩, rfl, rfl, rfl, fun n hn => ?_⟩
  have hm : n.task ∈ News.unknownTasks p.newLedger.digests found := by
    rw [← News.map_task_of_stampAll hns]
    exact List.mem_map_of_mem hn
  exact ⟨News.digest_not_mem_known hm,
    (FileTree.mem_of_tasksOfProject hfound).1 ((News.unknownTasks_sublist _ _).mem hm)⟩

/-- A run without news has none when it is made again. -/
theorem exists_plan_again_of_no_news (hp : plan t clock r = .ok p) (hk : r.settings.keywords = none)
    (hf : r.settings.keywordFiles = []) (hc : ∀ n, (clock' n).stamp?.isSome) (hn : p.news = []) :
    ∃ p', plan t clock' r = .ok p' ∧ p'.note = p.note ∧ p'.ledger = p.newLedger ∧
      p'.news = [] := by
  obtain ⟨-, -, -, hload, -, found, hscanned, -⟩ := plan_eq_ok_iff.1 hp
  obtain ⟨project, hproject, hfound⟩ := (scanned_eq_ok_iff hk hf).1 hscanned
  obtain ⟨files, hwalk, -⟩ := FileTree.tasksOfProject_eq_ok_iff.1 hfound
  rw [← Plan.newLedger_of_no_news hn] at hload
  obtain ⟨p', hp', hnote, -, hledger, hnews⟩ := exists_plan_again hp hk hf hc hproject ⟨files, hwalk⟩
    (fun _ hv => hv) hload
  refine ⟨p', hp', hnote, hledger, List.eq_nil_iff_forall_not_mem.2 fun n hm => ?_⟩
  obtain ⟨hd, l, hs⟩ := hnews n hm
  exact hd (mem_digests_of_statesAt hp hscanned hfound hs)

/-! ### Operands that name what they named -/

theorem directory_eq_ok_iff {operand : Option Text} : directory t operand = .ok vault ↔
    ∃ text, operand = some text ∧ t.resolve (.ofText text) = .ok vault := by
  cases operand with
  | none => simp [directory]
  | some text => simp [directory]

/-- An operand names the directory that it named if there is no circle of links. -/
theorem directory_of_grows {written : List Location} {operand : Option Text} (h : Grows written t t')
    (hv : directory t operand = .ok vault)
    (hl : ∀ err, t'.locate vault.toText = .error err → err.problem ≠ .tooManyLinks) :
    directory t' operand = .ok vault := by
  obtain ⟨text, rfl, hr⟩ := directory_eq_ok_iff.1 hv
  exact directory_eq_ok_iff.2 ⟨text, rfl, h.resolve hr hl⟩

/-- A note that is given as seen from the vault shows the way to the vault. -/
theorem directory_of_relative_note {written : List Location} {place : Place} {operand : Option Text}
    {text : Text} (ht : t.WellFormed) (h : Grows written t t') (ht' : t'.WellFormed)
    (hv : directory t operand = .ok vault) (hrel : ¬(PathName.ofText text).isAbsolute)
    (hn : t'.locate (vault.append (.ofText text)).toText = .ok place) :
    directory t' operand = .ok vault := by
  refine directory_of_grows h hv fun err he => ?_
  obtain ⟨_, rfl, hr⟩ := directory_eq_ok_iff.1 hv
  have hspelled := ht.spelled_of_resolve (PathName.spelled_ofText _) hr
  have hnames := PathName.spelled_ofText text
  rw [PathName.append, if_neg hrel] at hn
  by_cases hm : (PathName.ofText text).names = []
  · rw [hm, List.append_nil] at hn
    cases he.symm.trans hn
  · obtain ⟨d, hd⟩ := ht'.locate_front ⟨hspelled.root, fun name hname =>
      (List.mem_append.1 hname).elim (hspelled.names name) (hnames.names name)⟩ hm hn
    cases he.symm.trans hd

/-- The vault is the directory that it was. -/
theorem Plan.Left.directory_vault {l₁ l₂ : Location} {existing : Text}
    (h : p.Left t t' l₁ l₂ existing) (ht : t.WellFormed) (hnote : notePath t r = .ok p.note)
    (hv : directory t r.vault = .ok vault)
    (hagain : (∀ text, r.note = some text → ¬(PathName.ofText text).isAbsolute) ∨
      ∃ vault, directory t' r.vault = .ok vault) :
    directory t' r.vault = .ok vault := by
  rcases hagain with hrel | ⟨vault', hv'⟩
  · unfold notePath at hnote
    split at hnote
    · next text htext =>
      obtain ⟨vault', hv', hp⟩ := map_eq_ok_iff.1 hnote
      cases hv.symm.trans hv'
      have hl := h.note
      rw [← hp] at hl
      exact directory_of_relative_note ht h.grows h.wellFormed hv (hrel text htext) hl
    · cases hnote
  · obtain ⟨text, ho, hr⟩ := directory_eq_ok_iff.1 hv
    obtain ⟨text', ho', hr'⟩ := directory_eq_ok_iff.1 hv'
    cases ho.symm.trans ho'
    rw [hv', h.grows.eq_of_resolve hr hr']

/-- A plan with news has found them in source files. -/
theorem sourceFiles_ne_nil_of_news {ks : Keywords} {extensions : List Text}
    (hp : plan t clock r = .ok p) (hs : scanned t r = .ok found)
    (hf : t.tasksOfProject ks extensions project = .ok found) (hn : p.news ≠ []) :
    t.sourceFiles extensions project ≠ [] := by
  intro he
  obtain ⟨files, hwalk, hfound⟩ := FileTree.tasksOfProject_eq_ok_iff.1 hf
  obtain ⟨-, -, hfiles⟩ := FileTree.walk_eq_ok_iff.1 hwalk
  rw [← hfiles, he, List.flatMap_nil] at hfound
  have hnews := news_of_plan hp hs
  rw [← hfound, News.unknownTasks_nil] at hnews
  exact hn (List.map_eq_nil_iff.1 hnews)

end Run

end CommentTasks
