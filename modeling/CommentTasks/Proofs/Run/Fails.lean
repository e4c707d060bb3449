import CommentTasks.Proofs.Run.Plan

/-!
# How a run fails before it writes

A plan is made in steps, each of which may fail: the operands are looked at, then the keywords, the
ledger and the clock are read, and then the tasks are found and stamped. The first step that fails
is the one whose error the run has.
-/

namespace CommentTasks.Run

/-- The operands of a run lead to a project, to a vault and to a note. -/
structure Placed (t : FileTree) (r : Request) (project vault : PathName) : Prop where
  command : r.command = some command
  project : directory t r.project = .ok project
  vault : directory t r.vault = .ok vault
  note : r.note ≠ none

/-- The step that fails once the operands lead somewhere, with the steps in front of it. -/
inductive FailsAt (t : FileTree) (clock : Clock) (s : Settings) (project vault : PathName) :
    RunError → Prop
  | keywords {e : RunError} (h : keywords t s = .error e) : FailsAt t clock s project vault e
  | ledger {ks : List Wide} {e : LedgerError} (hk : keywords t s = .ok ks)
    (h : Ledger.load t (Settings.ledgerPath s.ledger vault) = .error e) :
    FailsAt t clock s project vault (.ledger e)
  | stamp {ks : List Wide} {l : Ledger} {e : RunError} (hk : keywords t s = .ok ks)
    (hl : Ledger.load t (Settings.ledgerPath s.ledger vault) = .ok l)
    (h : stamp clock 0 = .error e) : FailsAt t clock s project vault e
  | tasks {ks : List Wide} {l : Ledger} {first : Text} {e : RunError} (hk : keywords t s = .ok ks)
    (hl : Ledger.load t (Settings.ledgerPath s.ledger vault) = .ok l)
    (hs : stamp clock 0 = .ok first)
    (h : tasks t ks (Settings.extensionTexts s.extensions) project = .error e) :
    FailsAt t clock s project vault e
  | news {ks : List Wide} {l : Ledger} {first : Text} {found : List Task} {e : RunError}
    (hk : keywords t s = .ok ks)
    (hl : Ledger.load t (Settings.ledgerPath s.ledger vault) = .ok l)
    (hs : stamp clock 0 = .ok first)
    (ht : tasks t ks (Settings.extensionTexts s.extensions) project = .ok found)
    (h : news clock l found = .error e) : FailsAt t clock s project vault e

/-- The step of a plan that fails, with the steps in front of it. -/
inductive Fails (t : FileTree) (clock : Clock) (r : Request) : RunError → Prop
  | command (h : r.command ≠ some command) : Fails t clock r (.unsupportedCommand r.command)
  | project {e : RunError} (hc : r.command = some Run.command)
    (h : directory t r.project = .error e) : Fails t clock r e
  | vault {project : PathName} {e : RunError} (hc : r.command = some Run.command)
    (hp : directory t r.project = .ok project) (h : directory t r.vault = .error e) :
    Fails t clock r e
  | note {project vault : PathName} (hc : r.command = some Run.command)
    (hp : directory t r.project = .ok project) (hv : directory t r.vault = .ok vault)
    (h : r.note = none) : Fails t clock r .noNote
  | placed {project vault : PathName} {e : RunError} (hp : Placed t r project vault)
    (h : FailsAt t clock r.settings project vault e) : Fails t clock r e

variable {t : FileTree} {clock : Clock} {r : Request} {e : RunError}

/-- A plan whose operands lead somewhere fails with what is read. -/
theorem plan_eq_error_iff_of_placed {project vault : PathName} (hp : Placed t r project vault) :
    plan t clock r = .error e ↔ FailsAt t clock r.settings project vault e := by
  obtain ⟨text, hn⟩ := Option.ne_none_iff_exists'.1 hp.note
  unfold plan
  rw [if_neg (not_not_intro hp.command), hp.project, hp.vault, hn]
  show (keywords t r.settings >>= _) = _ ↔ _
  simp only [bind_eq_error_iff, mapError_eq_error_iff, mapError_eq_ok_iff]
  constructor
  · rintro (h | ⟨ks, hk, ⟨problem, h, rfl⟩ | ⟨l, hl, h | ⟨s, hs, h | ⟨found, ht, h | ⟨ns, -, h⟩⟩⟩⟩⟩)
    · exact .keywords h
    · exact .ledger hk h
    · exact .stamp hk hl h
    · exact .tasks hk hl hs h
    · exact .news hk hl hs ht h
    · cases h
  · intro h
    cases h with
    | keywords h => exact .inl h
    | ledger hk h => exact .inr ⟨_, hk, .inl ⟨_, h, rfl⟩⟩
    | stamp hk hl h => exact .inr ⟨_, hk, .inr ⟨_, hl, .inl h⟩⟩
    | tasks hk hl hs h => exact .inr ⟨_, hk, .inr ⟨_, hl, .inr ⟨_, hs, .inl h⟩⟩⟩
    | news hk hl hs ht h => exact .inr ⟨_, hk, .inr ⟨_, hl, .inr ⟨_, hs, .inr ⟨_, ht, .inl h⟩⟩⟩⟩

/-- **How a plan fails**: with the first of its steps that does. -/
theorem plan_eq_error_iff : plan t clock r = .error e ↔ Fails t clock r e := by
  constructor
  · intro h
    by_cases hc : r.command = some command
    · cases hp : directory t r.project with
      | error problem =>
        rw [plan, if_neg (not_not_intro hc), hp] at h
        cases h
        exact .project hc hp
      | ok project =>
        cases hv : directory t r.vault with
        | error problem =>
          rw [plan, if_neg (not_not_intro hc), hp, hv] at h
          cases h
          exact .vault hc hp hv
        | ok vault =>
          by_cases hn : r.note = none
          · rw [plan, if_neg (not_not_intro hc), hp, hv, hn] at h
            cases h
            exact .note hc hp hv hn
          · exact .placed ⟨hc, hp, hv, hn⟩ ((plan_eq_error_iff_of_placed ⟨hc, hp, hv, hn⟩).1 h)
    · rw [plan, if_pos hc] at h
      cases h
      exact .command hc
  · intro h
    cases h with
    | command h =>
      rw [plan, if_pos h]
      rfl
    | project hc h =>
      rw [plan, if_neg (not_not_intro hc), h]
      rfl
    | vault hc hp h =>
      rw [plan, if_neg (not_not_intro hc), hp, h]
      rfl
    | note hc hp hv h =>
      rw [plan, if_neg (not_not_intro hc), hp, hv, h]
      rfl
    | placed hp h => exact (plan_eq_error_iff_of_placed hp).2 h

end CommentTasks.Run
