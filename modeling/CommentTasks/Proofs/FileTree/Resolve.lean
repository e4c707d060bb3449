import CommentTasks.FileTree.Resolve
import CommentTasks.Proofs.FileTree.Growth

/-!
# Real locations of paths

The real location of a path depends on the links of the tree alone, so it stays what it was when a
tree grows. Its names are names that paths can be spelled with.
-/

namespace CommentTasks.FileTree

variable {t u : FileTree} {loc : Location} {names : List Text}

/-- The legs of a way only look at links. -/
theorem followLegs_congr (hlink : ∀ l, u.linkAt? l = t.linkAt? l)
    (hdepth : u.host.depths.links = t.host.depths.links)
    (fresh : List Location) (known : List (Location × Location)) (loc : Location) (legs : List Leg) :
    u.followLegs fresh known loc legs = t.followLegs fresh known loc legs := by
  fun_induction followLegs t fresh known loc legs with
  | case1 => rw [followLegs]
  | case2 fresh known loc link rest ih => rw [followLegs, ih]
  | case3 fresh known loc name rest hname ih => rw [followLegs, if_pos hname, ih]
  | case4 fresh known loc rest hname ih => rw [followLegs, if_neg hname, if_pos rfl, ih]
  | case5 fresh known loc name rest hname hup target hn hfresh _ hdeep =>
    rw [followLegs, if_neg hname, if_neg hup]
    simp only [hlink, hdepth, hn, dif_pos hfresh, if_pos hdeep]
  | case6 fresh known loc name rest hname hup target hn hfresh _ hdeep ih =>
    rw [followLegs, if_neg hname, if_neg hup]
    simp only [hlink, hdepth, hn, dif_pos hfresh, if_neg hdeep]
    exact ih
  | case7 fresh known loc name rest hname hup target hn hfresh location hk ih =>
    rw [followLegs, if_neg hname, if_neg hup]
    simp only [hlink, hn, dif_neg hfresh, hk]
    exact ih
  | case8 fresh known loc name rest hname hup target hn hfresh hk =>
    rw [followLegs, if_neg hname, if_neg hup]
    simp only [hlink, hn, dif_neg hfresh, hk]
  | case9 fresh known loc name rest hname hup hn ih =>
    rw [followLegs, if_neg hname, if_neg hup]
    simp only [hlink, hn]
    exact ih

theorem resolve_eq_ok_iff {p q : PathName} : t.resolve p = .ok q ↔
    ¬p.toText.contains '\x00' ∧ (∃ l, t.realLocation? p = some l ∧ q = .absolute l) ∧
      ∀ err, t.locate q.toText = .error err → err.problem ≠ .tooManyLinks := by
  unfold resolve
  split
  · next hnull => exact ⟨nofun, fun h => absurd hnull h.1⟩
  · next hnull =>
    split
    · next hdeep => simp [hdeep]
    · next l hl =>
      simp only [hl, Option.some.injEq, exists_eq_left']
      split
      · next text hq =>
        refine ⟨nofun, ?_⟩
        rintro ⟨-, rfl, h⟩
        exact absurd rfl (h _ hq)
      · next hq =>
        constructor
        · intro h
          cases h
          refine ⟨hnull, rfl, ?_⟩
          rintro ⟨problem, text⟩ he rfl
          exact hq text he
        · rintro ⟨-, rfl, -⟩
          rfl

theorem Grows.linkAt? {written : List Location} (h : Grows written t u) (l : Location) :
    u.linkAt? l = t.linkAt? l := by
  unfold FileTree.linkAt? canLookUp
  rw [h.host]
  split
  · have hiff (target : Text) :
        u.entry? l = some (.link target) ↔ t.entry? l = some (.link target) := h.entry?_eq_link_iff
    split
    · next target hu => rw [(hiff target).1 hu]
    · next hu =>
      split
      · next target ht => exact absurd ((hiff target).2 ht) (hu target)
      · rfl
  · rfl

/-- **The real location of a path is what it was.** -/
theorem Grows.realLocation? {written : List Location} (h : Grows written t u) (p : PathName) :
    u.realLocation? p = t.realLocation? p := by
  rw [FileTree.realLocation?, FileTree.realLocation?, h.links, h.workingDirectory,
    followLegs_congr h.linkAt? (by rw [h.host])]

/-- So the path without links is what it was, unless its links now come back to themselves. -/
theorem Grows.resolve {written : List Location} (h : Grows written t u) {p q : PathName}
    (hp : t.resolve p = .ok q)
    (hq : ∀ err, u.locate q.toText = .error err → err.problem ≠ .tooManyLinks) :
    u.resolve p = .ok q := by
  obtain ⟨hnull, ⟨l, hl, rfl⟩, -⟩ := resolve_eq_ok_iff.1 hp
  exact resolve_eq_ok_iff.2 ⟨hnull, ⟨l, by rw [h.realLocation?, hl], rfl⟩, hq⟩

theorem Grows.eq_of_resolve {written : List Location} (h : Grows written t u) {p q q' : PathName}
    (hp : t.resolve p = .ok q) (hq : u.resolve p = .ok q') : q' = q := by
  obtain ⟨-, ⟨l, hl, rfl⟩, -⟩ := resolve_eq_ok_iff.1 hp
  obtain ⟨-, ⟨l', hl', rfl⟩, -⟩ := resolve_eq_ok_iff.1 hq
  rw [h.realLocation?, hl] at hl'
  cases hl'
  rfl

/-! ### Names -/

theorem mem_of_mem_normalNames {name : Text} (h : name ∈ normalNames names) : name ∈ names := by
  have along (names done : List Text) (h : name ∈ names.foldl (fun done n =>
      if n = "..".toList then done.dropLast else done ++ [n]) done) : name ∈ done ∨ name ∈ names := by
    induction names generalizing done with
    | nil => exact .inl h
    | cons n rest ih =>
      rw [List.foldl_cons] at h
      rcases ih _ h with h | h
      · split at h
        · exact .inl ((List.dropLast_sublist _).mem h)
        · rcases List.mem_append.1 h with h | h
          · exact .inl h
          · exact .inr (List.mem_singleton.1 h ▸ List.mem_cons_self)
      · exact .inr (List.mem_cons_of_mem _ h)
  exact (along names [] h).resolve_left List.not_mem_nil

theorem mem_legNames {name : Text} {legs : List Leg} : name ∈ legNames legs ↔ .to name ∈ legs := by
  unfold legNames
  rw [List.mem_filterMap]
  constructor
  · rintro ⟨n | link, hm, hl⟩
    · cases hl
      exact hm
    · cases hl
  · exact fun hm => ⟨_, hm, rfl⟩

/-- What the names of a location and of its legs are, the names of the real location are. -/
theorem mem_followLegs {fresh : List Location} {known : List (Location × Location)} {legs : List Leg}
    {real : Location} (hloc : ∀ name ∈ loc, name ≠ [] ∧ '/' ∉ name)
    (hknown : ∀ x ∈ known, ∀ name ∈ x.2, name ≠ [] ∧ '/' ∉ name)
    (hlegs : ∀ name, .to name ∈ legs → '/' ∉ name) (h : t.followLegs fresh known loc legs = some real) :
    ∀ name ∈ real, name ≠ [] ∧ '/' ∉ name := by
  have rest {leg : Leg} {legs : List Leg} (h : ∀ name, .to name ∈ leg :: legs → '/' ∉ name) :
      ∀ name, .to name ∈ legs → '/' ∉ name := fun name hm => h name (List.mem_cons_of_mem _ hm)
  fun_induction followLegs t fresh known loc legs with
  | case1 => exact Option.some.inj h ▸ hloc
  | case2 fresh known loc link _ ih =>
    refine ih hloc (fun x hx => ?_) (rest hlegs) h
    rcases List.mem_cons.1 hx with rfl | hx
    · exact hloc
    · exact hknown x hx
  | case3 fresh known loc name _ hname ih => exact ih hloc hknown (rest hlegs) h
  | case4 fresh known loc _ hname ih =>
    exact ih (fun n hn => hloc n ((List.dropLast_sublist _).mem hn)) hknown (rest hlegs) h
  | case5 => cases h
  | case6 fresh known loc name _ hname hup target hn hfresh _ _ ih =>
    refine ih ?_ hknown (fun n hm => ?_) h
    · split
      · exact fun n hn => absurd hn List.not_mem_nil
      · exact hloc
    · rcases List.mem_append.1 hm with hm | hm
      · obtain ⟨piece, hp, he⟩ := List.mem_map.1 hm
        cases he
        exact Text.not_mem_of_mem_splitOn hp
      · exact rest hlegs n (List.mem_of_ne_of_mem (by simp) hm)
  | case7 fresh known loc name _ hname hup target hn hfresh location hk ih =>
    obtain ⟨before, after, hs, -⟩ := List.lookup_eq_some_iff.1 hk
    exact ih (hknown _ (hs ▸ List.mem_append_right _ List.mem_cons_self)) hknown (rest hlegs) h
  | case8 fresh known loc name legs hname hup target hn hfresh hk =>
    intro n hm
    rw [← Option.some.inj h] at hm
    rcases List.mem_append.1 (mem_of_mem_normalNames hm) with hm | hm
    · exact hloc n hm
    · rcases List.mem_cons.1 hm with rfl | hm
      · exact ⟨fun e => hname (.inl e), hlegs n List.mem_cons_self⟩
      · obtain ⟨hm, hne⟩ := List.mem_filter.1 hm
        exact ⟨by simpa using (by simpa using hne : n ≠ [] ∧ n ≠ ['.']).1,
          rest hlegs n (mem_legNames.1 hm)⟩
  | case9 fresh known loc name _ hname hup hn ih =>
    refine ih (fun n hm => ?_) hknown (rest hlegs) h
    rcases List.mem_append.1 hm with hm | hm
    · exact hloc n hm
    · obtain rfl := List.mem_singleton.1 hm
      exact ⟨fun e => hname (.inl e), hlegs n List.mem_cons_self⟩

/-- A path without links is spelled as paths are. -/
theorem WellFormed.spelled_of_resolve (ht : t.WellFormed) {p q : PathName} (hp : p.Spelled)
    (h : t.resolve p = .ok q) : q.Spelled := by
  obtain ⟨-, ⟨l, hl, rfl⟩, -⟩ := resolve_eq_ok_iff.1 h
  refine PathName.spelled_absolute (mem_followLegs ?_ (by simp) (fun n hm => ?_) hl)
  · split
    · simp
    · exact fun n hn => ⟨(ht.names ht.workingDirectory n hn).ne_nil,
        (ht.names ht.workingDirectory n hn).slash_not_mem⟩
  · obtain ⟨m, hm, he⟩ := List.mem_map.1 hm
    cases he
    exact (hp.names n hm).2

end CommentTasks.FileTree
