import CommentTasks.Proofs.Except
import CommentTasks.Proofs.Ledger.File
import CommentTasks.Run.Basic

/-!
# What a run plans and does

A plan is determined by what the run reads: the ledger, the tasks of the project and the clock. A
run that succeeds has carried its plan out.
-/

namespace CommentTasks.Run

/-- The tasks that a run finds in its project, new or not. -/
def scanned (t : FileTree) (r : Request) : Except RunError (List Task) := do
  let project ← directory t r.project
  tasks t (← keywords t r.settings) (Settings.extensionTexts r.settings.extensions) project

/-- Where a run keeps its ledger. -/
def ledgerPath (t : FileTree) (r : Request) : Except RunError PathName :=
  (directory t r.vault).map (Settings.ledgerPath r.settings.ledger)

/-- Where a run keeps its note. -/
def notePath (t : FileTree) (r : Request) : Except RunError PathName :=
  match r.note with
  | some text => (directory t r.vault).map fun vault => vault.append (.ofText text)
  | none => .error .noNote

variable {t : FileTree} {clock : Clock} {r : Request} {p : Plan}

/-- **What a plan is made of.** -/
theorem plan_eq_ok_iff : plan t clock r = .ok p ↔
    r.command = some command ∧ notePath t r = .ok p.note ∧ ledgerPath t r = .ok p.ledgerPath ∧
      Ledger.load t p.ledgerPath = .ok p.ledger ∧ stamp clock 0 = .ok p.stamp ∧
      ∃ found, scanned t r = .ok found ∧ news clock p.ledger found = .ok p.news := by
  unfold plan scanned ledgerPath notePath
  by_cases hc : r.command = some command
  · rw [if_neg (not_not_intro hc)]
    cases hn : r.note with
    | none =>
      simp only [bind_eq_ok_iff]
      constructor
      · rintro ⟨_, -, _, -, h⟩; cases h
      · rintro ⟨-, h, -⟩; cases h
    | some text =>
      simp only [bind_eq_ok_iff, mapError_eq_ok_iff, map_eq_ok_iff, pure_eq_ok_iff]
      constructor
      · rintro ⟨project, hp, vault, hv, ks, hk, l, hl, s, hs, found, hf, ns, hns, rfl⟩
        exact ⟨hc, ⟨vault, hv, rfl⟩, ⟨vault, hv, rfl⟩, hl, hs, found, ⟨project, hp, ks, hk, hf⟩, hns⟩
      · rintro ⟨-, ⟨vault, hv, hnote⟩, ⟨vault', hv', hpath⟩, hl, hs, found,
          ⟨project, hp, ks, hk, hf⟩, hns⟩
        -- the vault of the note is the vault of the ledger
        obtain rfl : vault = vault' := Except.ok.inj (hv.symm.trans hv')
        rw [← hpath] at hl
        refine ⟨project, hp, vault, hv, ks, hk, _, hl, _, hs, found, hf, _, hns, ?_⟩
        rw [hnote, hpath]
  · rw [if_pos hc]
    constructor
    · intro h; cases h
    · intro h; exact absurd h.1 hc

theorem keywords_standard {s : Settings} (hk : s.keywords = none) (hf : s.keywordFiles = []) :
    keywords t s = .ok (Keywords.standard.map .text) := by
  rw [keywords, hk, hf]
  rfl

/-- The tasks of a project that is a directory with one source file. -/
theorem scanned_of_single_file {project file : PathName} {texts : List Text} {ks : Keywords}
    {bytes : Bytes} {shown content : Text} {found : List Task}
    (hd : directory t r.project = .ok project)
    (hk : keywords t r.settings = .ok (texts.map .text)) (hks : Keywords.ofTexts? texts = some ks)
    (hp : t.isFile project.toText = .ok false)
    (hf : t.walk (Settings.extensionTexts r.settings.extensions) project = .ok [file])
    (hb : t.readBytes file.toText = .ok bytes) (hc : decodeSource bytes = some content)
    (hs : shownPath project file = shown) (ht : tasksIn ks shown content = found) :
    scanned t r = .ok found := by
  have ht : t.tasksOfFile ks project file = found := FileTree.tasksOfFile_eq hb hc hs ht
  have htexts : (texts.map Wide.text).filterMap Wide.text? = texts := by
    rw [List.filterMap_map]
    exact List.filterMap_some
  unfold scanned tasks FileTree.tasksOfProject
  simp only [hd, hk, htexts, hks, hp, hf, bind, Except.bind, pure, Except.pure, mapError_ok,
    Bool.false_eq_true, if_false, List.flatMap_singleton, ht]

/-- **A run that succeeds has carried out its plan.** -/
theorem run_eq_ok_iff {t' : FileTree} {report : Report} : run t clock r = (t', .ok report) ↔
    ∃ p, plan t clock r = .ok p ∧ p.carryOut t = (t', .ok ()) ∧ p.report = report := by
  unfold run
  cases plan t clock r with
  | error e => simp
  | ok p =>
    cases hc : p.carryOut t with
    | mk u outcome => cases outcome <;> simp [hc]

/-- A run that fails has no plan, or has not carried it out. -/
theorem run_eq_error {t' : FileTree} {e : RunError} (h : run t clock r = (t', .error e)) :
    t' = t ∨ ∃ p, plan t clock r = .ok p ∧ p.carryOut t = (t', .error e) := by
  unfold run at h
  cases hp : plan t clock r with
  | error e' =>
    rw [hp] at h
    exact .inl (Prod.mk.inj h).1.symm
  | ok p =>
    simp only [hp] at h
    split at h
    · cases h
    · next u e' hc =>
      cases h
      exact .inr ⟨p, rfl, hc⟩

theorem stamp_eq_ok_iff {reading : Nat} {text : Text} :
    stamp clock reading = .ok text ↔ (clock reading).stamp? = some text :=
  mapError_eq_ok_iff.trans Moment.stamp_eq_ok_iff

/-- What the news of a plan are: tasks that were found and are not in the ledger, with stamps. -/
theorem news_eq_ok_iff {ledger : Ledger} {found : List Task} {ns : List News} :
    news clock ledger found = .ok ns ↔
      News.stampAll clock 1 (News.unknownTasks ledger.digests found) = .ok ns :=
  mapError_eq_ok_iff

namespace Plan

theorem carryOut_of_no_news (h : p.news = []) (t : FileTree) : p.carryOut t = (t, .ok ()) :=
  if_pos h

/-- The note is written: what it said before, and the section behind it. -/
structure Noted (p : Plan) (t u : FileTree) (existing : Text) (l : Location) : Prop where
  read : t.readDocument p.note = .ok existing
  written : t.writeDocument p.note (Note.merge existing p.sectionText) = ⟨u, none⟩
  wrote : t.Wrote p.note (Utf8.encode (Note.merge existing p.sectionText)) l u

/-- What writing a plan may come to: it is refused before a file is opened, it is cut short in the
note, it fails in the ledger, or it is done. -/
inductive Writes (p : Plan) (t : FileTree) : FileTree × Except RunError Unit → Prop
  | refused {v : FileTree} {e : RunError} (h : t.AddsDirectories v) : Writes p t (v, .error e)
  | notePart {v : FileTree} {existing : Text} {l : Location} {taken : Nat} {problem : AccessError}
    (read : t.readDocument p.note = .ok existing)
    (failed : t.writeDocument p.note (Note.merge existing p.sectionText) = ⟨v, some problem⟩)
    (h : t.Wrote p.note ((Utf8.encode (Note.merge existing p.sectionText)).take taken) l v) :
    Writes p t (v, .error (.access problem))
  | ledger {u v : FileTree} {existing : Text} {l : Location} {problem : AccessError}
    (noted : p.Noted t u existing l) (failed : p.newLedger.save u p.ledgerPath = ⟨v, some problem⟩) :
    Writes p t (v, .error (.access problem))
  | done {u v : FileTree} {existing : Text} {l : Location} (noted : p.Noted t u existing l)
    (saved : p.newLedger.save u p.ledgerPath = ⟨v, none⟩) : Writes p t (v, .ok ())

/-- **What writing can do.** -/
theorem writes_write (p : Plan) (t : FileTree) : Writes p t (p.write t) := by
  unfold write
  split
  · exact .refused (.refl t)
  · next existing he =>
    have hw := t.writing_writeBytesDeep p.note (Utf8.encode (Note.merge existing p.sectionText))
    generalize hc : t.writeDocument p.note (Note.merge existing p.sectionText) = change
    rw [show t.writeBytesDeep p.note (Utf8.encode (Note.merge existing p.sectionText)) = change
      from hc] at hw
    cases hw with
    | refused h => exact .refused h
    | part h => exact .notePart he hc h
    | @whole u l h =>
      have hn : p.Noted t u existing l := ⟨he, hc, h⟩
      simp only
      split
      · next v problem hs => exact .ledger hn hs
      · next v hs => exact .done hn hs

/-- Writing a plan fails when the note cannot be read, when it cannot be written, or when the ledger
cannot be saved behind it. -/
theorem write_eq_error_iff {v : FileTree} {e : RunError} : p.write t = (v, .error e) ↔
    (∃ problem, t.readDocument p.note = .error problem ∧ v = t ∧ e = .note problem) ∨
      (∃ existing problem, t.readDocument p.note = .ok existing ∧
        t.writeDocument p.note (Note.merge existing p.sectionText) = ⟨v, some problem⟩ ∧
          e = .access problem) ∨
      ∃ u existing l problem, p.Noted t u existing l ∧
        p.newLedger.save u p.ledgerPath = ⟨v, some problem⟩ ∧ e = .access problem := by
  constructor
  · intro h
    unfold write at h
    split at h
    · next problem hr =>
      cases h
      exact .inl ⟨problem, hr, rfl, rfl⟩
    · next existing hr =>
      split at h
      · next u problem hw =>
        cases h
        exact .inr (.inl ⟨existing, problem, hr, hw, rfl⟩)
      · next u hw =>
        obtain ⟨l, hl⟩ := FileTree.wrote_of_writeDocument hw
        split at h
        · next w problem hs =>
          cases h
          exact .inr (.inr ⟨u, existing, l, problem, ⟨hr, hw, hl⟩, hs, rfl⟩)
        · cases h
  · rintro (⟨problem, hr, rfl, rfl⟩ | ⟨existing, problem, hr, hw, rfl⟩ |
      ⟨u, existing, l, problem, hn, hs, rfl⟩)
    · rw [write, hr]
    · rw [write, hr]
      simp only [hw]
    · rw [write, hn.read]
      simp only [hn.written, hs]

/-- A plan with news that is carried out has written the note, then the ledger. -/
theorem carryOut_eq_ok {t' : FileTree} (hn : p.news ≠ []) (h : p.carryOut t = (t', .ok ())) :
    ∃ existing u l, p.Noted t u existing l ∧ p.newLedger.save u p.ledgerPath = ⟨t', none⟩ := by
  rw [carryOut, if_neg hn] at h
  have hw := p.writes_write t
  rw [h] at hw
  cases hw with
  | done noted saved => exact ⟨_, _, _, noted, saved⟩

/-- A plan that is not carried out has news, and could not be written. -/
theorem carryOut_eq_error {t' : FileTree} {e : RunError} (h : p.carryOut t = (t', .error e)) :
    p.news ≠ [] ∧ Writes p t (t', .error e) := by
  unfold carryOut at h
  split at h
  · cases h
  · next hn =>
    rw [← h]
    exact ⟨hn, p.writes_write t⟩

end Plan

end CommentTasks.Run
