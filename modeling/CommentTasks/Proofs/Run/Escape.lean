import CommentTasks.CommandLine.Program
import CommentTasks.Proofs.FileTree.Depth
import CommentTasks.Proofs.Run.Fails
import CommentTasks.Proofs.Run.News
import CommentTasks.Proofs.Source.Scan

/-!
# Errors of a run that are not expected

Most errors of a run are expected, and are reported. These are the others: an operand that says
nothing or leads into a circle of links, an error of the reader of YAML documents that is not
expected, and whatever is nested more deeply than calls can be: links, brackets, values that are
shown, the directories of the project, and those that are to be made.
-/

namespace CommentTasks

namespace Run

/-- The operand for a directory leads nowhere: it says nothing, or it leads into a circle of links
or through links that are nested too deep. -/
inductive LeadsNowhere (t : FileTree) : Option Text → RunError → Prop
  | unsaid : LeadsNowhere t none .noDirectory
  | circle {text link : Text} (h : t.resolve (.ofText text) = .error (.loop link)) :
    LeadsNowhere t (some text) (.resolve (.loop link))
  | tooDeep {text : Text} (h : t.resolve (.ofText text) = .error .tooDeep) :
    LeadsNowhere t (some text) (.resolve .tooDeep)

/-- The error of a keyword file is not expected. -/
inductive UnexpectedIn : KeywordFileError → Prop
  | json : UnexpectedIn (.json .tooDeep)
  | shown : UnexpectedIn (.unshown .tooDeep)
  | yaml {message : Text} : UnexpectedIn (.yamlReader false message)

/-- There are keywords to look for. -/
def HasKeywords (ks : List Wide) : Prop :=
  Keywords.ofTexts? (ks.filterMap Wide.text?) ≠ none ∨ ks.all (·.text?.isSome) = false

/-- What is read for a plan fails with an error that is not expected. -/
inductive EscapesAt (t : FileTree) (clock : Clock) (s : Settings) (project vault : PathName) :
    RunError → Prop
  /-- A keyword file or what is shown of it is nested too deep, or the reader of YAML documents fails
  in its own way. -/
  | keywordFile {before after : List Text} {path : Text} {problem : KeywordFileError}
    (hf : s.keywordFiles = before ++ path :: after)
    (hb : ∀ other ∈ before, ∃ ks, KeywordFile.load t other = .ok ks)
    (h : KeywordFile.load t path = .error problem) (hu : UnexpectedIn problem) :
    EscapesAt t clock s project vault (.keywordFile problem)
  /-- The ledger or what is shown of it is nested too deep. -/
  | ledger {ks : List Wide} (hk : keywords t s = .ok ks)
    (h : Ledger.load t (Settings.ledgerPath s.ledger vault) = .error .tooDeep) :
    EscapesAt t clock s project vault (.ledger .tooDeep)
  /-- The directories of the project are nested too deep. -/
  | walk {ks : List Wide} {l : Ledger} (hk : keywords t s = .ok ks)
    (hl : Ledger.load t (Settings.ledgerPath s.ledger vault) = .ok l)
    (hc : (clock 0).InCalendar) (hks : HasKeywords ks)
    (hp : ∃ isThere, t.isFile project.toText = .ok isThere) (h : t.isTooDeep project = true) :
    EscapesAt t clock s project vault (.access ⟨.tooDeep, project.toText⟩)

/-- Too many directories are missing above the note, or above the ledger once the note is
written. -/
inductive Plan.EscapesIn (p : Plan) (t : FileTree) : RunError → Prop
  | note {existing written : Text} (hr : t.readDocument p.note = .ok existing)
    (h : t.IsBelowTooMany p.note written) : p.EscapesIn t (.access ⟨.tooDeep, written⟩)
  | ledger {existing written : Text} {u : FileTree} {l : Location} (hn : p.Noted t u existing l)
    (h : u.IsBelowTooMany p.ledgerPath written) : p.EscapesIn t (.access ⟨.tooDeep, written⟩)

/-- The run fails with an error that is not expected. -/
inductive Escapes (t : FileTree) (clock : Clock) (r : Request) : RunError → Prop
  | project {e : RunError} (hc : r.command = some command) (h : LeadsNowhere t r.project e) :
    Escapes t clock r e
  | vault {project : PathName} {e : RunError} (hc : r.command = some command)
    (hp : directory t r.project = .ok project) (h : LeadsNowhere t r.vault e) :
    Escapes t clock r e
  | note {project vault : PathName} (hc : r.command = some command)
    (hp : directory t r.project = .ok project) (hv : directory t r.vault = .ok vault)
    (h : r.note = none) : Escapes t clock r .noNote
  | placed {project vault : PathName} {e : RunError} (hp : Placed t r project vault)
    (h : EscapesAt t clock r.settings project vault e) : Escapes t clock r e
  | write {p : Plan} {e : RunError} (hp : plan t clock r = .ok p) (hn : p.news ≠ [])
    (h : p.EscapesIn t e) : Escapes t clock r e

variable {t : FileTree} {clock : Clock} {r : Request} {e : RunError}

/-! ### Operands and keyword files -/

theorem directory_error_iff {operand : Option Text} :
    (directory t operand = .error e ∧ Program.isReported e = false) ↔ LeadsNowhere t operand e := by
  constructor
  · rintro ⟨h, hu⟩
    cases operand with
    | none =>
      cases h
      exact .unsaid
    | some text =>
      obtain ⟨problem, hp, rfl⟩ := mapError_eq_error_iff.1 h
      cases problem with
      | loop link => exact .circle hp
      | nullByte => cases hu
      | tooDeep => exact .tooDeep hp
  · rintro (_ | h | h)
    · exact ⟨rfl, rfl⟩
    · exact ⟨mapError_eq_error_iff.2 ⟨_, h, rfl⟩, rfl⟩
    · exact ⟨mapError_eq_error_iff.2 ⟨_, h, rfl⟩, rfl⟩

/-- The keywords of the keyword files fail with the first file that does. -/
theorem fileKeywords_eq_error_iff {paths : List Text} : fileKeywords t paths = .error e ↔
    ∃ before path after problem, paths = before ++ path :: after ∧
      (∀ other ∈ before, ∃ ks, KeywordFile.load t other = .ok ks) ∧
      KeywordFile.load t path = .error problem ∧ e = .keywordFile problem := by
  induction paths with
  | nil =>
    constructor
    · intro h
      cases h
    · rintro ⟨before, path, after, problem, h, -⟩
      cases before <;> cases h
  | cons path rest ih =>
    unfold fileKeywords
    rw [bind_eq_error_iff, mapError_eq_error_iff]
    constructor
    · rintro (⟨problem, h, rfl⟩ | ⟨ks, hk, h⟩)
      · exact ⟨[], path, rest, problem, rfl, List.forall_mem_nil _, h, rfl⟩
      · have hrest : fileKeywords t rest = .error e := by
          rcases bind_eq_error_iff.1 h with h | ⟨_, _, h⟩
          · exact h
          · cases h
        obtain ⟨before, other, after, problem, hs, hb, h, he⟩ := ih.1 hrest
        refine ⟨path :: before, other, after, problem, congrArg (path :: ·) hs, ?_, h, he⟩
        intro x hx
        rcases List.mem_cons.1 hx with rfl | hx
        · exact ⟨ks, mapError_eq_ok_iff.1 hk⟩
        · exact hb x hx
    · rintro ⟨before, other, after, problem, hs, hb, h, rfl⟩
      cases before with
      | nil =>
        cases hs
        exact .inl ⟨problem, h, rfl⟩
      | cons b before =>
        obtain ⟨rfl, hs'⟩ := List.cons.inj hs
        obtain ⟨ks, hk⟩ := hb path List.mem_cons_self
        have hrest := ih.2 ⟨before, other, after, problem, hs',
          fun x hx => hb x (List.mem_cons_of_mem _ hx), h, rfl⟩
        exact .inr ⟨ks, mapError_eq_ok_iff.2 hk, bind_eq_error_iff.2 (.inl hrest)⟩

theorem keywords_eq_error_iff {s : Settings} :
    keywords t s = .error e ↔ fileKeywords t s.keywordFiles = .error e := by
  unfold keywords
  rw [bind_eq_error_iff]
  constructor
  · rintro (h | ⟨_, _, h⟩)
    · exact h
    · cases h
  · intro h
    exact .inl h

theorem unexpectedIn_iff {problem : KeywordFileError} :
    UnexpectedIn problem ↔ Program.isReported (.keywordFile problem) = false := by
  constructor
  · rintro (_ | _ | _) <;> rfl
  · intro h
    cases problem with
    | unshown why =>
      cases why with
      | tooDeep => exact .shown
      | tooManyDigits => cases h
    | json e =>
      cases e with
      | tooDeep => exact .json
      | _ => cases h
    | yamlReader isExpected message =>
      cases isExpected with
      | false => exact .yaml
      | true => cases h
    | _ => cases h

theorem ledger_error_iff {problem : LedgerError} :
    Program.isReported (.ledger problem) = false ↔ problem = .tooDeep := by
  cases problem <;> simp [Program.isReported]

theorem access_error_iff {err : AccessError} :
    Program.isReported (.access err) = false ↔ err.problem = .tooDeep := by
  simp [Program.isReported]

/-! ### The clock -/

/-- The clock is read when it shows a moment in the calendar. -/
theorem exists_stamp_iff {reading : Nat} :
    (∃ text, stamp clock reading = .ok text) ↔ (clock reading).InCalendar := by
  simp only [stamp_eq_ok_iff, Moment.stamp?]
  split <;> simp [*]

/-- A clock that shows a moment outside the calendar is reported. -/
theorem isReported_of_stamp {reading : Nat} (h : stamp clock reading = .error e) :
    Program.isReported e = true := by
  obtain ⟨year, -, rfl⟩ := mapError_eq_error_iff.1 h
  rfl

theorem isReported_of_news {ledger : Ledger} {found : List Task}
    (h : news clock ledger found = .error e) : Program.isReported e = true := by
  obtain ⟨year, -, rfl⟩ := mapError_eq_error_iff.1 h
  rfl

/-! ### The project -/

/-- A walk that fails with an error that is not expected has come to directories that are nested too
deep. -/
theorem walk_error_iff {exts : List Text} {project : PathName} {err : AccessError} :
    (t.walk exts project = .error err ∧ err.problem = .tooDeep) ↔
      (∃ isThere, t.isFile project.toText = .ok isThere) ∧ t.isTooDeep project = true ∧
        err = ⟨.tooDeep, project.toText⟩ := by
  rw [FileTree.walk_eq_error_iff]
  constructor
  · rintro ⟨h | h, hdeep⟩
    · exact absurd hdeep (FileTree.holds_error h)
    · exact h
  · rintro ⟨hp, hdeep, rfl⟩
    exact ⟨.inr ⟨hp, hdeep, rfl⟩, rfl⟩

/-- What a search for tasks fails with is what the walk fails with, if there are keywords. -/
theorem tasks_eq_access_iff {ks : List Wide} {exts : List Text} {project : PathName}
    {err : AccessError} : tasks t ks exts project = .error (.access err) ↔
      HasKeywords ks ∧ t.walk exts project = .error err := by
  have haccess {α : Type} {x : Except AccessError α} :
      x.mapError RunError.access = .error (.access err) ↔ x = .error err := by
    simp [mapError_eq_error_iff]
  unfold tasks HasKeywords
  cases Keywords.ofTexts? (ks.filterMap Wide.text?) with
  | some known => simp [haccess, FileTree.tasksOfProject_eq_error_iff]
  | none =>
    cases ks.all (·.text?.isSome) with
    | true => simp
    | false => simp [map_eq_error_iff, haccess]

/-- A search for tasks fails since a path is refused or there are no keywords. -/
theorem tasks_error_cases {ks : List Wide} {exts : List Text} {project : PathName}
    (h : tasks t ks exts project = .error e) : e = .noKeywords ∨ ∃ err, e = .access err := by
  unfold tasks at h
  split at h
  · obtain ⟨err, -, rfl⟩ := mapError_eq_error_iff.1 h
    exact .inr ⟨err, rfl⟩
  · split at h
    · cases h
      exact .inl rfl
    · obtain ⟨err, -, rfl⟩ := mapError_eq_error_iff.1 (map_eq_error_iff.1 h)
      exact .inr ⟨err, rfl⟩

/-- **When a search for tasks fails with an error that is not expected.** -/
theorem tasks_error_iff {ks : List Wide} {exts : List Text} {project : PathName} :
    (tasks t ks exts project = .error e ∧ Program.isReported e = false) ↔
      HasKeywords ks ∧ (∃ isThere, t.isFile project.toText = .ok isThere) ∧
        t.isTooDeep project = true ∧ e = .access ⟨.tooDeep, project.toText⟩ := by
  constructor
  · rintro ⟨h, hu⟩
    rcases tasks_error_cases h with rfl | ⟨err, rfl⟩
    · cases hu
    · obtain ⟨hks, hw⟩ := tasks_eq_access_iff.1 h
      obtain ⟨hp, hdeep, rfl⟩ := walk_error_iff.1 ⟨hw, access_error_iff.1 hu⟩
      exact ⟨hks, hp, hdeep, rfl⟩
  · rintro ⟨hks, hp, hdeep, rfl⟩
    exact ⟨tasks_eq_access_iff.2 ⟨hks, (walk_error_iff.2 ⟨hp, hdeep, rfl⟩).1⟩,
      access_error_iff.2 rfl⟩

/-! ### Reading and writing -/

variable {s : Settings} {project vault : PathName}

/-- **When what is read for a plan fails with an error that is not expected**, step by step. -/
theorem escapesAt_iff : FailsAt t clock s project vault e ∧ Program.isReported e = false ↔
    EscapesAt t clock s project vault e := by
  constructor
  · rintro ⟨h, hu⟩
    cases h with
    | keywords h =>
      obtain ⟨before, path, after, problem, hf, hb, hload, rfl⟩ :=
        fileKeywords_eq_error_iff.1 (keywords_eq_error_iff.1 h)
      exact .keywordFile hf hb hload (unexpectedIn_iff.2 hu)
    | ledger hk h =>
      obtain rfl := ledger_error_iff.1 hu
      exact .ledger hk h
    | stamp hk hl h => cases (isReported_of_stamp h).symm.trans hu
    | tasks hk hl hs h =>
      obtain ⟨hks, hp, hdeep, rfl⟩ := tasks_error_iff.1 ⟨h, hu⟩
      exact .walk hk hl (exists_stamp_iff.1 ⟨_, hs⟩) hks hp hdeep
    | news hk hl hs ht h => cases (isReported_of_news h).symm.trans hu
  · intro h
    cases h with
    | keywordFile hf hb h hu =>
      have hk := fileKeywords_eq_error_iff.2 ⟨_, _, _, _, hf, hb, h, rfl⟩
      exact ⟨.keywords (keywords_eq_error_iff.2 hk), unexpectedIn_iff.1 hu⟩
    | ledger hk h => exact ⟨.ledger hk h, rfl⟩
    | walk hk hl hc hks hp h =>
      obtain ⟨first, hs⟩ := exists_stamp_iff.2 hc
      obtain ⟨ht, hu⟩ := tasks_error_iff.2 ⟨hks, hp, h, rfl⟩
      exact ⟨.tasks hk hl hs ht, hu⟩

/-- Saving a ledger ends for want of room where writing a file does. -/
theorem save_tooDeep_iff {l : Ledger} {path : PathName} {written : Text} :
    (l.save t path).IsTooDeep written ↔ t.IsBelowTooMany path written := by
  unfold Ledger.save
  split
  · have hempty : (t.writeBytesDeep path []).IsTooDeep written ↔ t.IsBelowTooMany path written :=
      FileTree.writeBytesDeep_tooDeep_iff
    rw [← hempty, FileTree.writeUnencodable]
    cases t.writeBytesDeep path [] with
    | mk u problem => cases problem <;> simp [FileTree.Change.IsTooDeep]
  · exact FileTree.writeBytesDeep_tooDeep_iff

/-- **When writing a plan fails with an error that is not expected.** -/
theorem Plan.escapesIn_iff {p : Plan} :
    ((∃ t', p.write t = (t', .error e)) ∧ Program.isReported e = false) ↔ p.EscapesIn t e := by
  constructor
  · rintro ⟨⟨t', h⟩, hu⟩
    rcases write_eq_error_iff.1 h with ⟨problem, hr, rfl, rfl⟩ |
      ⟨existing, ⟨problem, written⟩, hr, hw, rfl⟩ | ⟨u, existing, l, ⟨problem, written⟩, hn, hs, rfl⟩
    · cases hu
    · obtain rfl : problem = .tooDeep := access_error_iff.1 hu
      exact .note hr (FileTree.writeBytesDeep_tooDeep_iff.1 (congrArg FileTree.Change.refused hw))
    · obtain rfl : problem = .tooDeep := access_error_iff.1 hu
      exact .ledger hn (save_tooDeep_iff.1 (congrArg FileTree.Change.refused hs))
  · intro h
    cases h with
    | note hr h =>
      obtain ⟨u, hw⟩ := (FileTree.writeBytesDeep_tooDeep_iff.2 h).exists_eq
      exact ⟨⟨u, write_eq_error_iff.2 (.inr (.inl ⟨_, _, hr, hw, rfl⟩))⟩, access_error_iff.2 rfl⟩
    | ledger hn h =>
      obtain ⟨v, hs⟩ := (save_tooDeep_iff.2 h).exists_eq
      exact ⟨⟨v, write_eq_error_iff.2 (.inr (.inr ⟨_, _, _, _, hn, hs, rfl⟩))⟩,
        access_error_iff.2 rfl⟩

/-- A run fails in its plan, or in writing the news of it. -/
theorem run_eq_error_iff : (∃ t', run t clock r = (t', .error e)) ↔ Fails t clock r e ∨
    ∃ p, plan t clock r = .ok p ∧ p.news ≠ [] ∧ ∃ t', p.write t = (t', .error e) := by
  rw [← plan_eq_error_iff]
  unfold run
  cases hp : plan t clock r with
  | error problem => simp
  | ok p =>
    by_cases hn : p.news = []
    · simp [hn, p.carryOut_of_no_news hn]
    · have hc : p.carryOut t = p.write t := if_neg hn
      simp only [hc]
      cases hw : p.write t with
      | mk u result => cases result <;> simp [hn, hw]

/-- **When a run fails with an error that is not expected.** -/
theorem escapes_iff :
    ((∃ t', run t clock r = (t', .error e)) ∧ Program.isReported e = false) ↔
      Escapes t clock r e := by
  rw [run_eq_error_iff]
  constructor
  · rintro ⟨h | ⟨p, hp, hn, h⟩, hu⟩
    · cases h with
      | command h => cases hu
      | project hc h => exact .project hc (directory_error_iff.1 ⟨h, hu⟩)
      | vault hc hp h => exact .vault hc hp (directory_error_iff.1 ⟨h, hu⟩)
      | note hc hp hv h => exact .note hc hp hv h
      | placed hp h => exact .placed hp (escapesAt_iff.1 ⟨h, hu⟩)
    · exact .write hp hn (Plan.escapesIn_iff.1 ⟨h, hu⟩)
  · intro h
    cases h with
    | project hc h =>
      obtain ⟨h, hu⟩ := directory_error_iff.2 h
      exact ⟨.inl (.project hc h), hu⟩
    | vault hc hp h =>
      obtain ⟨h, hu⟩ := directory_error_iff.2 h
      exact ⟨.inl (.vault hc hp h), hu⟩
    | note hc hp hv h => exact ⟨.inl (.note hc hp hv h), rfl⟩
    | placed hp h =>
      obtain ⟨h, hu⟩ := escapesAt_iff.2 h
      exact ⟨.inl (.placed hp h), hu⟩
    | write hp hn h =>
      obtain ⟨h, hu⟩ := Plan.escapesIn_iff.2 h
      exact ⟨.inr ⟨_, hp, hn, h⟩, hu⟩

end Run

end CommentTasks
