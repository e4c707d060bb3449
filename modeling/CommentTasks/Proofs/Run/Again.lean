import CommentTasks.Proofs.Ledger.Reading
import CommentTasks.Proofs.Run.Aftermath

/-!
# A run that is made again

A run that is made again on the tree that it has left knows all that it found the first time. So
what is new the second time is read from what the first run has written, and if that states no task,
the second run changes nothing. A message may hold a comment of its own, which is then read from the
note.
-/

namespace CommentTasks

namespace Run

variable {t t' : FileTree} {clock clock' : Clock} {r : Request} {p : Plan} {project : PathName}
  {task : Task} {l : Location}

/-! ### What is read from what was written -/

/-- A path leads to a file that the plan writes. -/
def Plan.WritesAt (p : Plan) (t' : FileTree) (l : Location) : Prop :=
  ∃ path ∈ [p.note, p.ledgerPath], ∃ bytes, t'.locate path.toText = .ok (.taken l (.file bytes))

/-- What the plan writes states no task of its own: no line that tells where a comment is reads as a
line comment that states one, and no block comment in the section or in the ledger does. -/
structure Plan.StatesNone (p : Plan) : Prop where
  locations : ∀ n ∈ p.news, ∀ path,
    lineTasks .usual path (n.task.locationLine n.task.digest) = []
  sectionBlocks : ∀ d ∈ Delimiters.all, ∀ path, blockTasks .usual d path p.sectionText = []
  ledgerBlocks : ∀ d ∈ Delimiters.all, ∀ path, blockTasks .usual d path p.newLedger.toText = []

/-- The note, if there is one, is settled. -/
def Plan.NoteSettled (p : Plan) (t : FileTree) : Prop :=
  ∀ l text, t.locate p.note.toText = .ok (.taken l (.file (Utf8.encode text))) → Note.Settled text

/-- What holds no opening delimiter states no task in a block comment. -/
theorem Plan.statesNone_of_no_opening
    (hl : ∀ n ∈ p.news, ∀ line ∈ linesOf (n.task.locationLine n.task.digest),
      lineBody? .usual line = none)
    (ho : ∀ d ∈ Delimiters.all, Text.breakOn? d.opening p.sectionText = none ∧
      Text.breakOn? d.opening p.newLedger.toText = none) : p.StatesNone :=
  ⟨fun n hn _ => lineTasks_eq_nil_iff.2 (hl n hn),
    fun d hd _ => blockTasks_of_no_opening (ho d hd).1,
    fun d hd _ => blockTasks_of_no_opening (ho d hd).2⟩

theorem Plan.head?_sectionText (p : Plan) : p.sectionText.head? = some '#' := by
  have hne : headingText p.stamp ≠ [] := List.cons_ne_nil _ _
  rw [sectionText, News.sectionLines, List.cons_append, Note.sectionText_cons hne]
  rfl

theorem Plan.endLine_sectionText (p : Plan) : Note.endLine p.sectionText = p.sectionText := by
  have hm : headingText p.stamp ∈ News.sectionLines p.stamp p.news := List.mem_cons_self
  exact Note.endLine_sectionText hm (List.cons_ne_nil _ _)

theorem newline_not_mem_stamp_of_plan (hp : plan t clock r = .ok p) : '\n' ∉ p.stamp := by
  obtain ⟨-, -, -, -, hs, -⟩ := plan_eq_ok_iff.1 hp
  exact newline_not_mem_stamp (stamp_eq_ok_iff.1 hs)

theorem Plan.StatesNone.tasksIn_sectionText (h : p.StatesNone) (hs : '\n' ∉ p.stamp) (path : Text) :
    tasksIn .usual path p.sectionText = [] :=
  tasksIn_eq_nil_iff.2 ⟨lineTasks_sectionText hs fun n hn => h.locations n hn path,
    fun d hd => h.sectionBlocks d hd path⟩

theorem Plan.StatesNone.tasksIn_newLedger (h : p.StatesNone) (path : Text) :
    tasksIn .usual path p.newLedger.toText = [] :=
  tasksIn_eq_nil_iff.2 ⟨Ledger.lineTasks_toText _, fun d hd => h.ledgerBlocks d hd path⟩

section

variable {l₁ l₂ : Location} {existing content shown : Text} {bytes : Bytes}

theorem Plan.Left.writesAt (h : p.Left t t' l₁ l₂ existing) (hl : l ∈ [l₁, l₂]) : p.WritesAt t' l := by
  rcases List.mem_pair.1 hl with rfl | rfl
  · have hn := h.note
    split at hn
    · next he => exact ⟨p.note, by simp, _, he ▸ hn⟩
    · exact ⟨p.note, by simp, _, hn⟩
  · exact ⟨p.ledgerPath, by simp, _, h.ledger⟩

/-- The files hold the ledger and the note. -/
theorem Plan.Left.bytes_eq (h : p.Left t t' l₁ l₂ existing) (hl : l ∈ [l₁, l₂])
    (he : t'.entry? l = some (.file bytes)) : bytes = Utf8.encode p.newLedger.toText ∨
      l = l₁ ∧ bytes = Utf8.encode (Note.merge existing p.sectionText) := by
  have hledger := FileTree.entry?_of_locateWith_file h.ledger
  rcases List.mem_pair.1 hl with rfl | rfl
  · have hn := h.note
    split at hn
    · next heq =>
      subst heq
      cases he.symm.trans hledger
      exact .inl rfl
    · cases he.symm.trans (FileTree.entry?_of_locateWith_file hn)
      exact .inr ⟨rfl, rfl⟩
  · cases he.symm.trans hledger
    exact .inl rfl

/-- The note was a file where it is now, or there was no note. -/
theorem Plan.Left.existing_cases (h : p.Left t t' l₁ l₂ existing) : existing = [] ∨
    ∃ text, t.locate p.note.toText = .ok (.taken l₁ (.file (Utf8.encode text))) ∧
      existing = Utf8.unifyLineEnds text := by
  rcases FileTree.readDocument_cases h.read with hnone | ⟨l, text, hl, -, ht⟩
  · exact .inl hnone
  · obtain ⟨place, hplace, hloc⟩ := h.grows.locateWith hl
    have hn := h.note
    have hl₁ : l = l₁ := by
      cases hplace.symm.trans hn
      refine Eq.trans hloc.symm ?_
      split
      · next he => exact he.symm
      · rfl
    exact .inr ⟨text, hl₁ ▸ hl, ht⟩

/-- **What is read from what was written was there**, if the note was settled and what the plan
writes states no task. -/
theorem Plan.Left.exists_old (h : p.Left t t' l₁ l₂ existing) (hs : '\n' ∉ p.stamp)
    (hnone : p.StatesNone) (hsettled : p.NoteSettled t) (hl : l ∈ [l₁, l₂])
    (he : t'.entry? l = some (.file bytes)) (hd : decodeSource bytes = some content)
    (hm : task ∈ tasksIn .usual shown content) :
    ∃ old content', t.entry? l = some (.file old) ∧ decodeSource old = some content' ∧
      task ∈ tasksIn .usual shown content' := by
  have hsection := hnone.tasksIn_sectionText hs shown
  have hhead : p.sectionText.head? ≠ some markChar := by
    rw [p.head?_sectionText]
    decide
  rcases h.bytes_eq hl he with rfl | ⟨rfl, rfl⟩
  · rw [Ledger.decodeSource_toText hd, hnone.tasksIn_newLedger] at hm
    cases hm
  · rw [decodeSource_encode (looksLikeText_of_decodeSource hd)] at hd
    cases hd
    rcases h.existing_cases with rfl | ⟨text, htext, rfl⟩
    · have hmerge : Note.merge [] p.sectionText = p.sectionText := p.endLine_sectionText
      rw [hmerge, dropWhile_mark_of_head hhead, hsection] at hm
      cases hm
    · have ht := hsettled _ text htext
      exact ⟨_, _, FileTree.entry?_of_locateWith_file htext, decodeSource_encode ht.readable,
        ht.mem_tasksIn_of_merge p.endLine_sectionText hhead hsection hm⟩

end

/-- **What is new the second time is read from what was written**, and there is nothing new if what
the plan writes states no task and the note was settled. -/
theorem Plan.Left.writesAt_of_statesAt {l₁ l₂ : Location} {existing : Text} {extensions : List Text}
    (h : p.Left t t' l₁ l₂ existing) (ht : t.WellFormed) (hp : project.Spelled)
    (hne : t.sourceFiles extensions project ≠ []) (hlead : t.SourcesLead extensions project)
    (hstamp : '\n' ∉ p.stamp) (hnew : ∀ l, ¬t.StatesAt .usual extensions project l task)
    (hs : t'.StatesAt .usual extensions project l task) :
    p.WritesAt t' l ∧ ¬(p.StatesNone ∧ p.NoteSettled t) := by
  rcases h.grows.statesAt_cases ht h.wellFormed hp hne hlead hs with
    hold | ⟨hl, bytes, content, shown, he, hd, hm, hback⟩
  · exact absurd hold (hnew l)
  · refine ⟨h.writesAt hl, fun ⟨hnone, hsettled⟩ => hnew l ?_⟩
    obtain ⟨old, content', he', hd', hm'⟩ := h.exists_old hstamp hnone hsettled hl he hd hm
    exact hback old content' he' hd' hm'

/-- A run with news is planned again on the tree that it has left. -/
theorem Plan.Left.exists_plan_again {l₁ l₂ : Location} {existing : Text}
    (h : p.Left t t' l₁ l₂ existing) (ht : t.WellFormed) (hp : plan t clock r = .ok p)
    (hk : r.settings.keywords = none) (hf : r.settings.keywordFiles = [])
    (hc : ∀ n, (clock' n).stamp?.isSome) (hn : p.news ≠ [])
    (hvault : (∀ text, r.note = some text → ¬(PathName.ofText text).isAbsolute) ∨
      ∃ vault, directory t' r.vault = .ok vault)
    (hlead : ∀ project, directory t r.project = .ok project → t.SourcesLead r.extensions project)
    (hdeep : ∀ project, directory t' r.project = .ok project → t'.isTooDeep project = false) :
    ∃ p', plan t' clock' r = .ok p' ∧ p'.note = p.note ∧ p'.ledger = p.newLedger ∧
      ∀ n ∈ p'.news, ¬(p.StatesNone ∧ p.NoteSettled t) ∧ ∃ project l,
        directory t' r.project = .ok project ∧ p.WritesAt t' l ∧
          t'.StatesAt .usual r.extensions project l n.task := by
  obtain ⟨-, hnote, -, -, -, found, hscanned, -⟩ := plan_eq_ok_iff.1 hp
  obtain ⟨project, hproject, hfound⟩ := (scanned_eq_ok_iff hk hf).1 hscanned
  -- there are source files, so the project is there, and it is where it was
  have hne := sourceFiles_ne_nil_of_news hp hscanned hfound hn
  obtain ⟨place₀, hplace₀⟩ := FileTree.exists_locate_of_sourceFiles hne
  obtain ⟨place, hplace, -⟩ := h.grows.locateWith hplace₀
  have hproject' : directory t' r.project = .ok project :=
    directory_of_grows h.grows hproject fun err he => nomatch hplace.symm.trans he
  have hspelled : project.Spelled := by
    obtain ⟨_, -, hr⟩ := directory_eq_ok_iff.1 hproject
    exact ht.spelled_of_resolve (PathName.spelled_ofText _) hr
  obtain ⟨p', hp', hnote', -, hledger, hnews⟩ := Run.exists_plan_again hp hk hf hc hproject'
    ⟨_, FileTree.walk_eq_ok_iff.2
      ⟨fun err he => (nomatch hplace.symm.trans he), hdeep project hproject', rfl⟩⟩
    (fun vault hv => h.directory_vault ht hnote hv hvault) h.load
  refine ⟨p', hp', hnote', hledger, fun n hm => ?_⟩
  obtain ⟨hd, l, hs⟩ := hnews n hm
  obtain ⟨hw, hno⟩ := h.writesAt_of_statesAt ht hspelled hne (hlead project hproject)
    (newline_not_mem_stamp_of_plan hp)
    (fun l hs => hd (mem_digests_of_statesAt hp hscanned hfound hs)) hs
  exact ⟨hno, project, l, hproject', hw, hs⟩

end Run

/-- **A run that is made again** on the tree that it has left, with the standard keywords, finds new
tasks only in what it has written itself. It finds none, and changes nothing, if what was written
states no task of its own and the note, if there was one, was settled. That holds wherever the vault
is, as long as the path to it does not become a circle of links, and whichever files the project
has, as long as none of them is a link that led through something missing, and its directories are
not nested too deep for a walk. -/
theorem run_again {t t' : FileTree} {clock clock' : Clock} {r : Request} {p : Run.Plan}
    {report : Report} (ht : t.WellFormed) (hp : Run.plan t clock r = .ok p)
    (h : Run.run t clock r = (t', .ok report)) (hk : r.settings.keywords = none)
    (hf : r.settings.keywordFiles = []) (hc : ∀ n, (clock' n).stamp?.isSome)
    (hvault : (∀ text, r.note = some text → ¬(PathName.ofText text).isAbsolute) ∨
      ∃ vault, Run.directory t' r.vault = .ok vault)
    (hlead : ∀ project, Run.directory t r.project = .ok project →
      t.SourcesLead r.extensions project)
    (hdeep : ∀ project, Run.directory t' r.project = .ok project → t'.isTooDeep project = false) :
    ∃ p', Run.plan t' clock' r = .ok p' ∧ p'.note = p.note ∧ p'.ledger = p.newLedger ∧
      (∀ n ∈ p'.news, ∃ project l, Run.directory t' r.project = .ok project ∧ p.WritesAt t' l ∧
        t'.StatesAt .usual r.extensions project l n.task) ∧
      (p.StatesNone → p.NoteSettled t → Run.run t' clock' r = (t', .ok ⟨p.note, []⟩)) := by
  obtain ⟨p₀, hp₀, hcarry, -⟩ := Run.run_eq_ok_iff.1 h
  cases hp.symm.trans hp₀
  have quiet {p' : Run.Plan} (hp' : Run.plan t' clock' r = .ok p') (hnote : p'.note = p.note)
      (hn : p'.news = []) : Run.run t' clock' r = (t', .ok ⟨p.note, []⟩) :=
    Run.run_eq_ok_iff.2 ⟨p', hp', p'.carryOut_of_no_news hn t', by rw [Run.Plan.report, hnote, hn]⟩
  by_cases hn : p.news = []
  · -- the first run has written nothing, and what it found was known before
    rw [p.carryOut_of_no_news hn] at hcarry
    cases hcarry
    obtain ⟨p', hp', hnote, hledger, hnone⟩ := Run.exists_plan_again_of_no_news hp hk hf hc hn
    exact ⟨p', hp', hnote, hledger, by simp [hnone], fun _ _ => quiet hp' hnote hnone⟩
  · obtain ⟨l₁, l₂, existing, hleft⟩ := Run.Plan.exists_left ht hn hcarry
    obtain ⟨p', hp', hnote, hledger, hnews⟩ :=
      hleft.exists_plan_again ht hp hk hf hc hn hvault hlead hdeep
    refine ⟨p', hp', hnote, hledger, fun n hm => (hnews n hm).2, fun hnone hsettled => ?_⟩
    exact quiet hp' hnote (List.eq_nil_iff_forall_not_mem.2 fun n hm =>
      (hnews n hm).1 ⟨hnone, hsettled⟩)

/-! ### A vault in its project -/

namespace NestedVault

set_option maxRecDepth 100000

def project : PathName := .absolute ["w".toList, "p".toList]

def sourcePath : PathName := .absolute ["w".toList, "p".toList, "a.c".toList]

def noteLocation : Location := ["w".toList, "p".toList, "v".toList, "n.md".toList]

def ledgerLocation : Location := ["w".toList, "p".toList, "v".toList, Ledger.standardFileName]

def notePath : PathName := .absolute noteLocation

def ledgerPath : PathName := .absolute ledgerLocation

/-- A project with one file, and in it a vault with a note. -/
def noted (source note : Text) : FileTree :=
  ⟨[(["w".toList], .directory), (["w".toList, "p".toList], .directory),
    (["w".toList, "p".toList, "a.c".toList], .file (Utf8.encode source)),
    (["w".toList, "p".toList, "v".toList], .directory), (noteLocation, .file (Utf8.encode note))],
    ["w".toList], {}, by simp [Keyed.keys, noteLocation]⟩

/-- The note before the first run. -/
def oldNote : Text := "# Tasks\r\n".toList

def before (source : Text) : FileTree := noted source oldNote

def clock : Clock := fun _ => ⟨0⟩

def stamp : Text := "0001-01-01T00:00:00.000Z".toList

/-- The vault is a directory of the project, and all settings are standard. -/
def request : Request :=
  { command := some "scan".toList, project := some "p".toList, vault := some "p/v".toList,
    note := some "n.md".toList }

theorem stamp_clock (n : Nat) : (clock n).stamp?.isSome := by
  show (Moment.stamp? ⟨0⟩).isSome
  decide +kernel

theorem relative_note (text : Text) (h : request.note = some text) :
    ¬(PathName.ofText text).isAbsolute := by
  cases h
  decide

/-- The plan of a run with the given news and no ledger before it. -/
def plan (news : List News) : Run.Plan where
  note := notePath
  ledgerPath := ledgerPath
  ledger := .empty
  stamp := stamp
  news := news

/-- The files after a note and a ledger were written. -/
def written (source note ledger : Text) : FileTree :=
  (noted source note).set ledgerLocation (.file (Utf8.encode ledger))

/-- The note after a run. -/
def newNote (news : List News) : Text :=
  Note.merge (Utf8.unifyLineEnds oldNote) (plan news).sectionText

/-- The files after a run. -/
def after (source : Text) (news : List News) : FileTree :=
  written source (newNote news) (plan news).newLedger.toText

variable {source : Text} {news : List News} {found : List Task}

theorem wellFormed_noted (note : Text) : (noted source note).WellFormed := by
  refine FileTree.wellFormed_of_entries (fun x hx => ⟨?_, ?_⟩) rfl
  · simp only [noted, List.mem_cons, List.not_mem_nil, or_false] at hx
    rcases hx with rfl | rfl | rfl | rfl | rfl <;> rfl
  · have hnames : ∀ l ∈ [["w".toList], ["w".toList, "p".toList],
        ["w".toList, "p".toList, "a.c".toList], ["w".toList, "p".toList, "v".toList], noteLocation],
        ∀ name ∈ l, IsName name := by decide
    exact hnames x.1 (List.mem_map_of_mem hx)

theorem locate_note_noted (note : Text) : (noted source note).locate notePath.toText =
    .ok (.taken noteLocation (.file (Utf8.encode note))) := by
  cbv

theorem locate_ledger_noted (note : Text) : (noted source note).locate ledgerPath.toText =
    .ok (.free ledgerLocation) := by
  cbv

theorem locate_project_noted (note : Text) : (noted source note).locate project.toText =
    .ok (.taken ["w".toList, "p".toList] .directory) := by
  cbv

theorem locate_note (note ledger : Text) : (written source note ledger).locate notePath.toText =
    .ok (.taken noteLocation (.file (Utf8.encode note))) := by
  cbv

theorem locate_project (note ledger : Text) : (written source note ledger).locate project.toText =
    .ok (.taken ["w".toList, "p".toList] .directory) := by
  cbv

theorem writeDocument_note (note new : Text) :
    (noted source note).writeDocument notePath new = ⟨noted source new, none⟩ :=
  (wellFormed_noted note).writeDocument_of_accepts (PathName.spelled_absolute (by decide))
    ⟨.inl ⟨_, locate_note_noted note⟩, rfl, rfl⟩

theorem writeDocument_ledger (note new : Text) :
    (noted source note).writeDocument ledgerPath new = ⟨written source note new, none⟩ :=
  (wellFormed_noted note).writeDocument_of_accepts (PathName.spelled_absolute (by decide))
    ⟨.inr (locate_ledger_noted note), rfl, rfl⟩

theorem isTorn_newLedger (news : List News) : (plan news).newLedger.isTorn = false :=
  Ledger.isTorn_markAll _ _

theorem carryOut_plan (hn : news ≠ []) :
    (plan news).carryOut (before source) = (after source news, .ok ()) := by
  have hr : (before source).readDocument (plan news).note = .ok (Utf8.unifyLineEnds oldNote) :=
    FileTree.readDocument_of_locate (locate_note_noted oldNote) rfl (Utf8.decode_encode oldNote)
  have hw (new : Text) : (before source).writeDocument (plan news).note new =
    ⟨noted source new, none⟩ := writeDocument_note oldNote new
  have hl (note new : Text) : (noted source note).writeDocument (plan news).ledgerPath new =
    ⟨written source note new, none⟩ := writeDocument_ledger note new
  have hn' : (plan news).news ≠ [] := hn
  rw [Run.Plan.carryOut, if_neg hn', Run.Plan.write, hr]
  simp only [hw, Ledger.save_eq (isTorn_newLedger news), hl]
  rfl

theorem sourceFiles_before : (before source).sourceFiles
    request.extensions project = [sourcePath, notePath] := by
  cbv

theorem walk_before : (before source).walk request.extensions project =
    .ok [sourcePath, notePath] := by
  cbv

theorem directory_before : Run.directory (before source) request.project = .ok project := by
  cbv

theorem readBytes_before : (before source).readBytes sourcePath.toText = .ok (Utf8.encode source) := by
  cbv

/-- What the note states before the first run. -/
theorem tasksOfFile_oldNote : (before source).tasksOfFile .usual project notePath = [] := by
  have hb : (before source).readBytes notePath.toText = .ok (Utf8.encode oldNote) :=
    FileTree.readBytes_eq_ok_iff.2 ⟨_, locate_note_noted oldNote, rfl⟩
  have hd : decodeSource (Utf8.encode oldNote) = some oldNote := by decide +kernel
  have hm : tasksIn .usual "v/n.md".toList oldNote = [] := by decide +kernel
  have hs : shownPath project notePath = "v/n.md".toList := by decide
  exact FileTree.tasksOfFile_eq hb hd hs hm

theorem plan_before (hc : decodeSource (Utf8.encode source) = some source)
    (ht : tasksIn .usual "a.c".toList source = found)
    (hnews : Run.news clock .empty found = .ok news) :
    Run.plan (before source) clock request = .ok (plan news) := by
  have hn : Run.notePath (before source) request = .ok notePath := by cbv
  have hl : Run.ledgerPath (before source) request = .ok ledgerPath := by cbv
  have hr : (before source).readDocument ledgerPath = .ok [] := by cbv
  have hload : Ledger.load (before source) ledgerPath = .ok .empty :=
    Ledger.load_eq_ok_iff.2 ⟨[], hr, rfl⟩
  have hstamp : Run.stamp clock 0 = .ok stamp := by decide +kernel
  have hp : (before source).locate project.toText =
    .ok (.taken ["w".toList, "p".toList] .directory) := locate_project_noted oldNote
  have hfrom : (before source).shownFrom project = project := by rw [FileTree.shownFrom, hp]
  have hsource : (before source).tasksOfFile .usual project sourcePath = found := by
    have hs : shownPath project sourcePath = "a.c".toList := by decide
    exact FileTree.tasksOfFile_eq readBytes_before hc hs ht
  have hfound : (before source).tasksOfProject .usual
      request.extensions project = .ok found := by
    refine FileTree.tasksOfProject_eq_ok_iff.2 ⟨_, walk_before, ?_⟩
    rw [hfrom, List.flatMap_cons, List.flatMap_singleton, hsource,
      tasksOfFile_oldNote, List.append_nil]
  exact Run.plan_eq_ok_iff.2 ⟨rfl, hn, hl, hload, hstamp, found,
    (Run.scanned_eq_ok_iff rfl rfl).2 ⟨project, directory_before, hfound⟩, hnews⟩

theorem directory_written (note ledger : Text) :
    Run.directory (written source note ledger) request.project = .ok project := by
  cbv

theorem ledgerPath_written (note ledger : Text) :
    Run.ledgerPath (written source note ledger) request = .ok ledgerPath := by
  cbv

/-- A message without a comment in it. -/
def plain : Text := "// TODO a\n".toList

def plainNews : List News := [⟨⟨⟨"TODO".toList, "a".toList, {}⟩, "a.c".toList, 1⟩, stamp⟩]

theorem plan_plain : Run.plan (before plain) clock request = .ok (plan plainNews) := by
  have hc : decodeSource (Utf8.encode plain) = some plain := by decide +kernel
  have ht : tasksIn .usual "a.c".toList plain = plainNews.map News.task := by decide +kernel
  have hnews : Run.news clock .empty (plainNews.map News.task) = .ok plainNews := by decide +kernel
  exact plan_before hc ht hnews

theorem run_plain : Run.run (before plain) clock request =
    (after plain plainNews, .ok (plan plainNews).report) :=
  Run.run_eq_ok_iff.2 ⟨_, plan_plain, carryOut_plan (List.cons_ne_nil _ _), rfl⟩

theorem statesNone_plain : (plan plainNews).StatesNone := by
  refine Run.Plan.statesNone_of_no_opening ?_ ?_
  · decide +kernel
  · decide +kernel

theorem settled_oldNote : Note.Settled oldNote := by
  refine ⟨by decide +kernel, fun a b h => ?_, ?_⟩
  · -- the carriage return is a blank at the end
    have hn : '\r' ∉ Text.trimRight oldNote := by decide
    exact absurd (h ▸ List.mem_append_right _ List.mem_cons_self) hn
  · have ho : ∀ d ∈ Delimiters.all, Text.breakOn? d.opening (Text.trimRight oldNote) = none := by
      decide
    exact fun d hd => .plain (ho d hd)

theorem sourcesLead_before : (before source).SourcesLead
    request.extensions project := by
  intro file hf err he
  rw [sourceFiles_before] at hf
  have hb : (before source).readBytes sourcePath.toText = .ok (Utf8.encode source) :=
    readBytes_before
  obtain ⟨l, hl, -⟩ := FileTree.readBytes_eq_ok_iff.1 hb
  rcases List.mem_pair.1 hf with rfl | rfl
  · cases hl.symm.trans he
  · cases (locate_note_noted oldNote).symm.trans he

end NestedVault

/-- The vault lies in the project, so the note and the ledger are read as source files. -/
theorem run_again_nested_vault :
    Run.plan (NestedVault.before NestedVault.plain) NestedVault.clock NestedVault.request =
        .ok (NestedVault.plan NestedVault.plainNews) ∧
      Run.run (NestedVault.before NestedVault.plain) NestedVault.clock NestedVault.request =
        (NestedVault.after NestedVault.plain NestedVault.plainNews,
          .ok (NestedVault.plan NestedVault.plainNews).report) ∧
      Run.run (NestedVault.after NestedVault.plain NestedVault.plainNews) NestedVault.clock
          NestedVault.request =
        (NestedVault.after NestedVault.plain NestedVault.plainNews,
          .ok ⟨NestedVault.notePath, []⟩) := by
  have hlead (project : PathName) (hp : Run.directory (NestedVault.before NestedVault.plain)
      NestedVault.request.project = .ok project) :
      (NestedVault.before NestedVault.plain).SourcesLead
        NestedVault.request.extensions project := by
    cases NestedVault.directory_before.symm.trans hp
    exact NestedVault.sourcesLead_before
  obtain ⟨p', -, -, -, -, h⟩ := run_again (NestedVault.wellFormed_noted NestedVault.oldNote)
    NestedVault.plan_plain NestedVault.run_plain rfl rfl NestedVault.stamp_clock
    (.inl NestedVault.relative_note) hlead
    fun project _ => FileTree.isTooDeep_of_unbounded rfl project
  refine ⟨NestedVault.plan_plain, NestedVault.run_plain,
    h NestedVault.statesNone_plain fun l text hl => ?_⟩
  have hplace := Except.ok.inj ((NestedVault.locate_note_noted NestedVault.oldNote).symm.trans hl)
  have htext := Entry.file.inj (Place.taken.inj hplace).2
  rw [← Except.ok.inj ((Utf8.decode_eq_ok_iff.2 htext).symm.trans (Utf8.decode_encode text))]
  exact NestedVault.settled_oldNote

/-- A run that is made again right away finds nothing new and changes nothing, wherever the vault
is. -/
def NothingNewAgain : Prop :=
  ∀ (t t' : FileTree) (clock clock' : Clock) (r : Request) (p : Run.Plan) (report : Report),
    t.WellFormed → r.settings.keywords = none → r.settings.keywordFiles = [] →
    r.settings.extensions = none → Run.plan t clock r = .ok p → p.note ≠ p.ledgerPath →
    Run.run t clock r = (t', .ok report) → (∀ n, (clock' n).stamp?.isSome) →
    ∃ report', Run.run t' clock' r = (t', .ok report') ∧ report'.news = []

namespace NestedVault

set_option maxRecDepth 100000

/-- A message with a comment in it. -/
def nested : Text := "// TODO a /* TODO b */\n".toList

def nestedNews : List News :=
  [⟨⟨⟨"TODO".toList, "a /* TODO b */".toList, {}⟩, "a.c".toList, 1⟩, stamp⟩,
    ⟨⟨⟨"TODO".toList, "b".toList, {}⟩, "a.c".toList, 1⟩, stamp⟩]

/-- The comment in the message, as it is read from the note. -/
def copied : Task := ⟨⟨"TODO".toList, "b".toList, {}⟩, "v/n.md".toList, 5⟩

theorem plan_nested : Run.plan (before nested) clock request = .ok (plan nestedNews) := by
  have hc : decodeSource (Utf8.encode nested) = some nested := by decide +kernel
  have ht : tasksIn .usual "a.c".toList nested = nestedNews.map News.task := by decide +kernel
  have hnews : Run.news clock .empty (nestedNews.map News.task) = .ok nestedNews := by
    decide +kernel
  exact plan_before hc ht hnews

theorem run_nested : Run.run (before nested) clock request =
    (after nested nestedNews, .ok (plan nestedNews).report) :=
  Run.run_eq_ok_iff.2 ⟨_, plan_nested, carryOut_plan (List.cons_ne_nil _ _), rfl⟩

/-- The note states the comment in the message. -/
theorem statesAt_copied : (after nested nestedNews).StatesAt .usual
    request.extensions project noteLocation copied := by
  have hlocate : (after nested nestedNews).locate notePath.toText =
    .ok (.taken noteLocation (.file (Utf8.encode (newNote nestedNews)))) := locate_note _ _
  have hproject : (after nested nestedNews).locate project.toText =
    .ok (.taken ["w".toList, "p".toList] .directory) := locate_project _ _
  have hd : decodeSource (Utf8.encode (newNote nestedNews)) = some (newNote nestedNews) := by
    decide +kernel
  have hm : copied ∈ tasksIn .usual "v/n.md".toList (newNote nestedNews) := by decide +kernel
  have hfile : notePath ∈ (after nested nestedNews).sourceFiles
      request.extensions project :=
    FileTree.mem_sourceFiles_iff.2 (.inr ⟨_, ["v".toList, "n.md".toList], _, hproject,
      ⟨List.cons_ne_nil _ _, FileTree.entry?_of_locateWith_file hlocate, rfl, by decide +kernel, by decide⟩,
      rfl⟩)
  have hshown : shownPath ((after nested nestedNews).shownFrom project) notePath =
      "v/n.md".toList := by
    rw [FileTree.shownFrom, hproject]
    decide
  exact ⟨rfl, _, hfile, _, _, hlocate, hd, hshown ▸ hm⟩

theorem exists_left_nested : ∃ l₁ l₂ existing, (plan nestedNews).Left (before nested)
    (after nested nestedNews) l₁ l₂ existing :=
  Run.Plan.exists_left (wellFormed_noted oldNote) (List.cons_ne_nil _ _)
    (carryOut_plan (List.cons_ne_nil _ _))

theorem exists_plan_nested : ∃ p, Run.plan (after nested nestedNews) clock request = .ok p := by
  obtain ⟨l₁, l₂, existing, hleft⟩ := exists_left_nested
  obtain ⟨-, hnote, -⟩ := Run.plan_eq_ok_iff.1 plan_nested
  have hproject : Run.directory (after nested nestedNews) request.project = .ok project :=
    directory_written _ _
  have hlocate : (after nested nestedNews).locate project.toText =
    .ok (.taken ["w".toList, "p".toList] .directory) := locate_project _ _
  obtain ⟨p, hp, -⟩ := Run.exists_plan_again plan_nested rfl rfl stamp_clock hproject
    ⟨_, FileTree.walk_eq_ok_iff.2 ⟨fun err he => (nomatch hlocate.symm.trans he),
      FileTree.isTooDeep_of_unbounded rfl project, rfl⟩⟩
    (fun vault hv => hleft.directory_vault (wellFormed_noted oldNote) hnote hv
      (.inl relative_note)) hleft.load
  exact ⟨p, hp⟩

/-- It finds a task then that the ledger does not know. -/
theorem news_ne_nil_nested {p : Run.Plan}
    (hp : Run.plan (after nested nestedNews) clock request = .ok p) : p.news ≠ [] := by
  obtain ⟨l₁, l₂, existing, hleft⟩ := exists_left_nested
  obtain ⟨-, -, hledger, hload, -, found, hscanned, -⟩ := Run.plan_eq_ok_iff.1 hp
  have hknown : p.ledger = (plan nestedNews).newLedger := by
    have hpath : Run.ledgerPath (after nested nestedNews) request = .ok ledgerPath :=
      ledgerPath_written _ _
    rw [← Except.ok.inj (hpath.symm.trans hledger)] at hload
    exact Except.ok.inj (hload.symm.trans hleft.load)
  obtain ⟨project', hd, hfound⟩ := (Run.scanned_eq_ok_iff rfl rfl).1 hscanned
  have hproject : Run.directory (after nested nestedNews) request.project = .ok project :=
    directory_written _ _
  cases hproject.symm.trans hd
  have hm := (FileTree.mem_of_tasksOfProject hfound).2 ⟨_, statesAt_copied⟩
  have hnew : copied.digest ∉ (plan nestedNews).newLedger.digests := by decide +kernel
  intro hn
  have hdigest := Run.mem_digests_newLedger hp hscanned hm
  rw [Run.Plan.newLedger_of_no_news hn, hknown] at hdigest
  exact hnew hdigest

end NestedVault

/-- A comment in the message of a task is read from the note as a task of its own. -/
theorem run_again_finds_nested_comment :
    NestedVault.request.settings = {} ∧
      Run.run (NestedVault.before NestedVault.nested) NestedVault.clock NestedVault.request =
        (NestedVault.after NestedVault.nested NestedVault.nestedNews,
          .ok (NestedVault.plan NestedVault.nestedNews).report) ∧
      (∃ p, Run.plan (NestedVault.after NestedVault.nested NestedVault.nestedNews)
        NestedVault.clock NestedVault.request = .ok p ∧ p.news ≠ []) ∧
      ¬NothingNewAgain := by
  obtain ⟨p, hp⟩ := NestedVault.exists_plan_nested
  have hnews := NestedVault.news_ne_nil_nested hp
  refine ⟨rfl, NestedVault.run_nested, ⟨p, hp, hnews⟩, fun h => ?_⟩
  obtain ⟨report, hr, hn⟩ := h _ _ _ _ _ _ _ (NestedVault.wellFormed_noted NestedVault.oldNote) rfl
    rfl rfl NestedVault.plan_nested (by decide) NestedVault.run_nested NestedVault.stamp_clock
  obtain ⟨p', hp', -, rfl⟩ := Run.run_eq_ok_iff.1 hr
  cases hp.symm.trans hp'
  exact hnews hn

end CommentTasks
