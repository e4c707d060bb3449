import CommentTasks.Proofs.FileTree.WellFormed

/-!
# Trees that grow

Writing documents makes a tree grow: directories come where nothing was, and some files get new
bytes. Every path then leads where it led before, and a path that is refused stays so, unless it
went through something that was missing. Links are never touched.
-/

namespace CommentTasks.FileTree

variable {t u v : FileTree} {l loc : Location} {follow : Bool} {hops : Nat} {names : List Text}

/-! ### One entry -/

/-- The entry may come to the location: a directory where nothing is, or a file. -/
inductive Admits (t : FileTree) (l : Location) : Entry → Prop
  | directory (h : t.entry? l = none) : Admits t l .directory
  | file (h : t.Writable l) (content : Bytes) : Admits t l (.file content)

theorem Admits.writable {e : Entry} (h : t.Admits l e) : t.Writable l := by
  cases h with
  | directory h => exact .inl h
  | file h => exact h

theorem Admits.ne_link {e : Entry} (h : t.Admits l e) (target : Text) : e ≠ .link target := by
  cases h <;> simp

@[simp] theorem location_after (place : Place) (l : Location) (e : Entry) :
    (place.after l e).location = place.location := by
  unfold Place.after
  split
  · next h => rw [h]; rfl
  · rfl

theorem walkNames_long {name : Text} {rest : List Text} (hs : t.host.refuses .search loc = none)
    (hdot : name ≠ ['.']) (hup : name ≠ "..".toList)
    (hlen : maxNameBytes < (Utf8.encode name).length) :
    t.walkNames follow hops loc (name :: rest) = .error .nameTooLong := by
  rw [walkNames, hs]
  exact (if_neg hdot).trans ((if_neg hup).trans (if_pos hlen))

/-- There is no way through a file. -/
theorem walkNames_through_file {name : Text} {rest : List Text}
    (hs : t.host.refuses .search loc = none) (hn : Leads name) {content : Bytes}
    (h : t.entry? (loc ++ [name]) = some (.file content)) (hrest : rest ≠ []) :
    t.walkNames follow hops loc (name :: rest) = .error .notDirectory := by
  simp only [walkNames_lookup hs hn, h, if_neg hrest]

theorem walkNames_no_hops {name : Text} {rest : List Text} (hs : t.host.refuses .search loc = none)
    (hn : Leads name) {target : Text} (h : t.entry? (loc ++ [name]) = some (.link target))
    (hend : ¬(rest = [] ∧ !follow)) :
    t.walkNames follow 0 loc (name :: rest) = .error .tooManyLinks := by
  simp only [walkNames_lookup hs hn, h, if_neg hend]

/-- A way that is refused stays refused, unless something was missing. -/
theorem walkNames_set_error {e : Entry} (ha : t.Admits l e) {problem : AccessProblem}
    (hp : problem ≠ .noEntry) (h : t.walkNames follow hops loc names = .error problem) :
    (t.set l e).walkNames follow hops loc names = .error problem := by
  have hl := ha.writable
  fun_induction walkNames t follow hops loc names with
  | case1 => cases h
  | case2 hops loc name rest reason hs =>
    exact (walkNames_refused (t := t.set l e) hs).trans h
  | case3 hops loc rest hs ih => exact (walkNames_dot (t := t.set l e) hs).trans (ih h)
  | case4 hops loc rest hs _ ih => exact (walkNames_up (t := t.set l e) hs).trans (ih h)
  | case5 hops loc name rest hs hdot hup hlen =>
    exact (walkNames_long (t := t.set l e) hs hdot hup hlen).trans h
  | case6 => cases h
  | case7 => exact absurd (Except.error.inj h).symm hp
  | case8 hops loc name rest hs hdot hup hlen next hn ih =>
    rw [walkNames_directory (t := t.set l e) hs ⟨hdot, hup, hlen⟩ (hl.entry?_set e hn (by simp))]
    exact ih h
  | case9 => cases h
  | case10 hops loc name rest hs hdot hup hlen next content hn hrest =>
    -- a file on the way is a file still
    have hfile : ∃ content', FileTree.entry? (t.set l e) next = some (.file content') := by
      by_cases hne : next = l
      · cases ha with
        | directory hfree => rw [hne, hfree] at hn; cases hn
        | file _ content' => exact ⟨content', by rw [hne, entry?_set_self t _ hl.ne_root]⟩
      · exact ⟨content, (entry?_set_of_ne t e hne).trans hn⟩
    obtain ⟨content', hfile⟩ := hfile
    exact (walkNames_through_file (t := t.set l e) hs ⟨hdot, hup, hlen⟩ hfile hrest).trans h
  | case11 => cases h
  | case12 loc name rest hs hdot hup hlen next target hn hend =>
    have hn' := hl.entry?_set e hn (by simp)
    exact (walkNames_no_hops (t := t.set l e) hs ⟨hdot, hup, hlen⟩ hn' hend).trans h
  | case13 loc name rest hs hdot hup hlen next target hn hend hops ih =>
    rw [walkNames_link (t := t.set l e) hs ⟨hdot, hup, hlen⟩ (hl.entry?_set e hn (by simp)) hend]
    exact ih h

theorem locateWith_set_error {e : Entry} (ha : t.Admits l e) {path : Text} {err : AccessError}
    (hp : err.problem ≠ .noEntry) (h : t.locateWith follow path = .error err) :
    (t.set l e).locateWith follow path = .error err := by
  have hw : (t.set l e).workingDirectory = t.workingDirectory := rfl
  unfold locateWith at h ⊢
  simp only [hw] at h ⊢
  split_ifs at h ⊢ with hnull hempty hlong
  · exact h
  · exact h
  · exact h
  all_goals
    obtain ⟨problem, hx, rfl⟩ := mapError_eq_error_iff.1 h
    rw [walkNames_set_error ha hp hx]
    rfl

theorem links_set {e : Entry} (ha : t.Admits l e) : (t.set l e).links = t.links := by
  have hl : t.entries.lookup l = none ∨ ∃ content, t.entries.lookup l = some (.file content) := by
    have hw := ha.writable
    unfold Writable at hw
    rwa [ entry?, if_neg ha.writable.ne_root] at hw
  unfold links FileTree.set
  simp only
  generalize t.entries = entries at hl
  induction entries with
  | nil =>
    rw [Keyed.put]
    cases ha with
    | directory => rfl
    | file => rfl
  | cons x rest ih =>
    obtain ⟨k, old⟩ := x
    by_cases hk : k = l
    · subst hk
      rw [Keyed.put, if_pos (beq_self_eq_true k)]
      -- it was a file, and neither it nor what comes is a link
      obtain ⟨content, rfl⟩ : ∃ content, old = .file content := by simpa [List.lookup_cons] using hl
      cases ha with
      | directory => rfl
      | file => rfl
    · have hk' : (l == k) = false := by simpa using fun e : l = k => hk e.symm
      rw [List.lookup_cons, hk'] at hl
      rw [Keyed.put, if_neg (by simpa using hk), List.filterMap_cons, List.filterMap_cons, ih hl]

/-! ### Growth -/

/-- The second tree is the first with entries that came to it, files only at the given locations. -/
inductive Grows (written : List Location) : FileTree → FileTree → Prop
  | refl (t : FileTree) : Grows written t t
  | set {t u : FileTree} {l : Location} {e : Entry} : Grows written t u → u.Admits l e →
      ((∃ content, e = .file content) → l ∈ written) → Grows written t (u.set l e)

namespace Grows

variable {written : List Location}

theorem trans (h : Grows written t u) (h' : Grows written u v) : Grows written t v := by
  induction h' with
  | refl => exact h
  | set _ ha hw ih => exact ih.set ha hw

theorem mono {more : List Location} (h : Grows written t u) (hw : written ⊆ more) :
    Grows more t u := by
  induction h with
  | refl => exact .refl t
  | set _ ha hl ih => exact ih.set ha fun he => hw (hl he)

theorem workingDirectory (h : Grows written t u) : u.workingDirectory = t.workingDirectory := by
  induction h with
  | refl => rfl
  | set _ _ _ ih => exact ih

theorem host (h : Grows written t u) : u.host = t.host := by
  induction h with
  | refl => rfl
  | set _ _ _ ih => exact ih

theorem links (h : Grows written t u) : u.links = t.links := by
  induction h with
  | refl => rfl
  | set _ ha _ ih => rw [links_set ha, ih]

/-- **What may stand where**: what stood there, a new directory, or a file that was written. -/
theorem entry?_cases (h : Grows written t u) (l : Location) :
    u.entry? l = t.entry? l ∨ (t.entry? l = none ∧ u.entry? l = some .directory) ∨
      (l ∈ written ∧ t.Writable l ∧ ∃ content, u.entry? l = some (.file content)) := by
  induction h with
  | refl => exact .inl rfl
  | @set u l' e _ ha hw ih =>
    by_cases hl : l = l'
    · subst hl
      rw [entry?_set_self u e ha.writable.ne_root]
      cases ha with
      | directory hfree =>
        rcases ih with ih | ⟨-, ih⟩ | ⟨-, -, content, ih⟩
        · exact .inr (.inl ⟨ih ▸ hfree, rfl⟩)
        · cases hfree.symm.trans ih
        · cases hfree.symm.trans ih
      | file hwr content =>
        refine .inr (.inr ⟨hw ⟨content, rfl⟩, ?_, content, rfl⟩)
        rcases ih with ih | ⟨ih, -⟩ | ⟨-, ih, -⟩
        · unfold Writable at hwr ⊢
          rwa [ih] at hwr
        · exact .inl ih
        · exact ih
    · rw [entry?_set_of_ne u e hl]
      exact ih

/-- The same links stand in both trees. -/
theorem entry?_eq_link_iff (h : Grows written t u) {target : Text} :
    u.entry? l = some (.link target) ↔ t.entry? l = some (.link target) := by
  rcases h.entry?_cases l with he | ⟨hn, hd⟩ | ⟨-, hw, content, hf⟩
  · rw [he]
  · rw [hn, hd]; simp
  · rw [hf]
    rcases hw with hw | ⟨_, hw⟩ <;> rw [hw] <;> simp

/-- Every path leads where it led. -/
theorem locateWith (h : Grows written t u) {path : Text} {place : Place}
    (hp : t.locateWith follow path = .ok place) :
    ∃ place', u.locateWith follow path = .ok place' ∧ place'.location = place.location := by
  induction h with
  | refl => exact ⟨place, hp, rfl⟩
  | set _ ha _ ih =>
    obtain ⟨place', hp', hl⟩ := ih
    exact ⟨_, locateWith_set ha.writable ha.ne_link hp', by rw [location_after, hl]⟩

/-- A path that is refused stays refused, unless something was missing. -/
theorem locateWith_error (h : Grows written t u) {path : Text} {err : AccessError}
    (hp : t.locateWith follow path = .error err) (hne : err.problem ≠ .noEntry) :
    u.locateWith follow path = .error err := by
  induction h with
  | refl => exact hp
  | set _ ha _ ih => exact locateWith_set_error ha hne ih

end Grows

theorem AddsDirectories.grows (h : AddsDirectories t u) (written : List Location) :
    Grows written t u := by
  induction h with
  | refl => exact .refl _
  | add _ hl ih => exact ih.set (.directory hl) (by simp)

theorem Wrote.grows {path : PathName} {content : Bytes} (h : Wrote t path content l v) :
    Grows [l] t v := by
  obtain ⟨⟨u, place, hd, -, -, hl, rfl⟩, -⟩ := h
  exact (hd.grows [l]).set (.file hl content) fun _ => List.mem_singleton_self l

end CommentTasks.FileTree
