import CommentTasks.Proofs.Run.Plan

/-!
# What is new

The new tasks of a run have digests of their own, and together with the ledger they have the digests
of all tasks that were found: a task is left out only for the ledger or for an earlier new task.
-/

namespace CommentTasks

namespace News

/-- No digest is new twice, and none that is known is new. -/
theorem nodup_digests_unknownTasks {known : List Text} (h : known.Nodup) (tasks : List Task) :
    (known ++ (unknownTasks known tasks).map Task.digest).Nodup := by
  induction tasks generalizing known with
  | nil => simpa using h
  | cons t rest ih =>
    unfold unknownTasks
    split
    · exact ih h
    · next ht =>
      -- the new digest is put in front of the known ones, which is a permutation
      have ht : t.digest ∉ known := by simpa using ht
      have hp := ih (List.nodup_cons.2 ⟨ht, h⟩)
      rw [List.map_cons]
      exact List.perm_middle.nodup_iff.2 hp

/-- A task is new, or known, or has the digest of a new task before it. -/
theorem mem_unknownTasks_or (known : List Text) (before : List Task) (t : Task) (rest : List Task) :
    t ∈ unknownTasks known (before ++ t :: rest) ∨ t.digest ∈ known ∨
      ∃ a ∈ before, a ∈ unknownTasks known (before ++ t :: rest) ∧ a.digest = t.digest := by
  induction before generalizing known with
  | nil =>
    rw [List.nil_append, unknownTasks]
    -- nothing stands before the task, so only the ledger can know it
    split
    · next ht => exact .inr (.inl (by simpa using ht))
    · exact .inl List.mem_cons_self
  | cons b before ih =>
    rw [List.cons_append, unknownTasks]
    split
    · rcases ih known with h | h | ⟨a, ha, hn, hd⟩
      · exact .inl h
      · exact .inr (.inl h)
      · exact .inr (.inr ⟨a, List.mem_cons_of_mem _ ha, hn, hd⟩)
    · -- the first task is new, and its digest is known from here on
      rcases ih (b.digest :: known) with h | h | ⟨a, ha, hn, hd⟩
      · exact .inl (List.mem_cons_of_mem _ h)
      · rcases List.mem_cons.1 h with h | h
        · exact .inr (.inr ⟨b, List.mem_cons_self, List.mem_cons_self, h.symm⟩)
        · exact .inr (.inl h)
      · exact .inr (.inr ⟨a, List.mem_cons_of_mem _ ha, List.mem_cons_of_mem _ hn, hd⟩)

theorem mem_digests_unknownTasks {known : List Text} {tasks : List Task} {d : Text} :
    d ∈ known ++ (unknownTasks known tasks).map Task.digest ↔
      d ∈ known ∨ ∃ t ∈ tasks, t.digest = d := by
  rw [List.mem_append, List.mem_map]
  constructor
  · rintro (h | ⟨t, ht, hd⟩)
    · exact .inl h
    · exact .inr ⟨t, (unknownTasks_sublist known tasks).mem ht, hd⟩
  · rintro (h | ⟨t, ht, rfl⟩)
    · exact .inl h
    · obtain ⟨before, rest, rfl⟩ := List.append_of_mem ht
      rcases mem_unknownTasks_or known before t rest with h | h | ⟨a, -, ha, hd⟩
      · exact .inr ⟨t, h, rfl⟩
      · exact .inl h
      · exact .inr ⟨a, ha, hd⟩

theorem map_task_of_stampAll {clock : Clock} {reading : Nat} {tasks : List Task} {ns : List News}
    (h : stampAll clock reading tasks = .ok ns) : ns.map News.task = tasks := by
  induction tasks generalizing reading ns with
  | nil => cases h; rfl
  | cons t rest ih =>
    unfold stampAll at h
    obtain ⟨s, hs, h⟩ := bind_eq_ok_iff.1 h
    obtain ⟨more, hm, h⟩ := bind_eq_ok_iff.1 h
    cases h
    rw [List.map_cons, ih hm]

theorem exists_stampAll {clock : Clock} (hc : ∀ n, (clock n).stamp?.isSome) (reading : Nat)
    (tasks : List Task) : ∃ ns, stampAll clock reading tasks = .ok ns := by
  induction tasks generalizing reading with
  | nil => exact ⟨[], rfl⟩
  | cons task rest ih =>
    obtain ⟨s, hs⟩ := Option.isSome_iff_exists.1 (hc reading)
    obtain ⟨more, hm⟩ := ih (reading + 1)
    refine ⟨⟨task, s⟩ :: more, ?_⟩
    unfold stampAll
    rw [Moment.stamp_eq_ok_iff.2 hs, hm]
    rfl

theorem keys_map_entry (ns : List News) :
    Keyed.keys (ns.map entry) = (ns.map News.task).map Task.digest := by
  rw [Keyed.keys, List.map_map, List.map_map]
  rfl

end News

namespace Run

variable {t : FileTree} {clock : Clock} {r : Request} {p : Plan} {found : List Task}

/-- The news of a plan are the tasks that are new to its ledger. -/
theorem news_of_plan (hp : plan t clock r = .ok p) (hf : scanned t r = .ok found) :
    p.news.map News.task = News.unknownTasks p.ledger.digests found := by
  obtain ⟨-, -, -, -, -, found', hf', hn⟩ := plan_eq_ok_iff.1 hp
  cases hf.symm.trans hf'
  exact News.map_task_of_stampAll (news_eq_ok_iff.1 hn)

/-- The ledger after a run is the one before it with the news at its end. -/
theorem entries_newLedger (hp : plan t clock r = .ok p) :
    p.newLedger.entries = p.ledger.entries ++ p.news.map News.entry := by
  obtain ⟨-, -, -, -, -, found, hf, -⟩ := plan_eq_ok_iff.1 hp
  refine Ledger.entries_markAll ?_
  have hn := News.nodup_digests_unknownTasks p.ledger.nodup found
  rw [Keyed.keys, List.map_append]
  rw [← Ledger.digests, ← news_of_plan hp hf, ← News.keys_map_entry] at hn
  exact hn

end Run

end CommentTasks
