import CommentTasks.Proofs.Encoding.Utf8
import CommentTasks.Proofs.Settings.Name
import Mathlib.Data.List.Basic

/-!
# Broken settings files

The settings of a file are taken over one after the other, up to the first that cannot be. So a file
that is broken somewhere is not ignored as a whole: the settings in front of that one have been
taken over.
-/

namespace CommentTasks

namespace Settings

open SettingName

variable {table : Table} {s u s' : Settings} {before : List SettingName} {first name : SettingName}
  {e : SettingsError}

/-- Taking over stops at the setting `name` after those of `before`: each of these is taken over as
if it were the only one, and all others are left alone. -/
structure StopsAt (table : Table) (s : Settings) (before : List SettingName) (name : SettingName)
    (e : SettingsError) (s' : Settings) : Prop where
  taken : ∀ n ∈ before, n.take table (n.only s) = .ok (n.only s')
  failed : name.take table s = .error e
  kept : ∀ n ∉ before, n.only s' = n.only s

theorem stopsAt_nil_iff : StopsAt table s [] name e s' ↔ name.take table s = .error e ∧ s' = s := by
  constructor
  · intro h
    exact ⟨h.failed, ext_only fun n => h.kept n List.not_mem_nil⟩
  · rintro ⟨h, rfl⟩
    exact ⟨List.forall_mem_nil _, h, fun _ _ => rfl⟩

/-- One setting more can be taken over in front. -/
theorem stopsAt_cons_iff (h : first.take table s = .ok u) (hb : first ∉ before) (hn : name ≠ first) :
    StopsAt table s (first :: before) name e s' ↔ StopsAt table u before name e s' := by
  have hother {n : SettingName} (hne : n ≠ first) : n.only u = n.only s := only_eq_of_take hne h
  have hbefore {n : SettingName} (hm : n ∈ before) : n ≠ first := fun he => hb (he ▸ hm)
  have hfailed : name.take table u = .error e ↔ name.take table s = .error e :=
    take_eq_error_iff_of_only_eq (hother hn)
  constructor
  · rintro ⟨ht, he, hk⟩
    refine ⟨?_, hfailed.2 he, ?_⟩
    · intro n hm
      rw [hother (hbefore hm)]
      exact ht n (List.mem_cons_of_mem _ hm)
    · intro n hm
      by_cases hf : n = first
      · subst hf
        obtain ⟨u', hu, ho⟩ := take_only_eq_ok_iff.1 (ht n List.mem_cons_self)
        cases h.symm.trans hu
        exact ho.symm
      · rw [hother hf]
        exact hk n (by rw [List.mem_cons, not_or]; exact ⟨hf, hm⟩)
  · rintro ⟨ht, he, hk⟩
    refine ⟨?_, hfailed.1 he, ?_⟩
    · intro n hm
      rcases List.mem_cons.1 hm with rfl | hm
      · exact take_only_eq_ok_iff.2 ⟨u, h, (hk n hb).symm⟩
      · rw [← hother (hbefore hm)]
        exact ht n hm
    · intro n hm
      rw [List.mem_cons, not_or] at hm
      rw [hk n hm.2, hother hm.1]

/-- **Where taking over stops**: at the first setting that cannot be taken over. -/
theorem takeEach_eq_error_iff {names : List SettingName} (hn : names.Nodup) :
    s.takeEach (names.map fun n => n.take table) = (s', some e) ↔
      ∃ before name after, names = before ++ name :: after ∧ StopsAt table s before name e s' := by
  induction names generalizing s with
  | nil =>
    constructor
    · intro h
      cases h
    · rintro ⟨before, name, after, h, -⟩
      cases before <;> cases h
  | cons first rest ih =>
    obtain ⟨hfirst, hrest⟩ := List.nodup_cons.1 hn
    rw [List.map_cons, takeEach]
    cases ht : first.take table s with
    | error problem =>
      constructor
      · intro h
        cases h
        exact ⟨[], first, rest, rfl, stopsAt_nil_iff.2 ⟨ht, rfl⟩⟩
      · rintro ⟨before, name, after, hs, h⟩
        cases before with
        | nil =>
          cases hs
          obtain ⟨he, rfl⟩ := stopsAt_nil_iff.1 h
          cases ht.symm.trans he
          rfl
        | cons b before =>
          -- the first setting would have been taken over
          cases hs
          obtain ⟨u, hu, -⟩ := take_only_eq_ok_iff.1 (h.taken first List.mem_cons_self)
          cases ht.symm.trans hu
    | ok u =>
      have hcons {before : List SettingName} {name : SettingName} {after : List SettingName}
          (hs : rest = before ++ name :: after) :
          StopsAt table s (first :: before) name e s' ↔ StopsAt table u before name e s' := by
        subst hs
        rw [List.mem_append, List.mem_cons, not_or, not_or] at hfirst
        exact stopsAt_cons_iff ht hfirst.1 fun h => hfirst.2.1 h.symm
      rw [ih hrest]
      constructor
      · rintro ⟨before, name, after, hs, h⟩
        exact ⟨first :: before, name, after, congrArg (first :: ·) hs, (hcons hs).2 h⟩
      · rintro ⟨before, name, after, hs, h⟩
        cases before with
        | nil =>
          cases hs
          cases ht.symm.trans h.failed
        | cons b before =>
          obtain ⟨rfl, hs'⟩ := List.cons.inj hs
          exact ⟨before, name, after, hs', (hcons hs').1 h⟩

/-- Taking over stops where each setting before can be taken over and the next one cannot. -/
theorem exists_stopsAt (hb : before.Nodup) (hn : name ∉ before)
    (ht : ∀ n ∈ before, ∃ u, n.take table s = .ok u) (he : name.take table s = .error e) :
    ∃ s', StopsAt table s before name e s' := by
  induction before generalizing s with
  | nil => exact ⟨s, stopsAt_nil_iff.2 ⟨he, rfl⟩⟩
  | cons first before ih =>
    obtain ⟨hf, hb⟩ := List.nodup_cons.1 hb
    rw [List.mem_cons, not_or] at hn
    obtain ⟨u, hu⟩ := ht first List.mem_cons_self
    have hother {n : SettingName} (hne : n ≠ first) : n.only u = n.only s := only_eq_of_take hne hu
    obtain ⟨s', hs⟩ : ∃ s', StopsAt table u before name e s' := by
      apply ih hb hn.2
      · intro n hm
        rw [exists_take_iff_of_only_eq (hother fun h => hf (h ▸ hm))]
        exact ht n (List.mem_cons_of_mem _ hm)
      · rw [take_eq_error_iff_of_only_eq (hother hn.1)]
        exact he
    exact ⟨s', (stopsAt_cons_iff hu hf hn.1).2 hs⟩

/-! ### Broken files -/

/-- What a broken file leaves: either nothing is taken over, since it is no document, or the
settings in front of the first that cannot be. -/
inductive Broken (t : FileTree) (path : PathName) (s : Settings) :
    List SettingName → SettingsError → Settings → Prop
  | unread {e : SettingsError} (h : readFile t path = .error e) : Broken t path s [] e s
  | stopped {document : Value} {before after : List SettingName} {name : SettingName}
      {e : SettingsError} {s' : Settings} (hd : readFile t path = .ok document)
      (hs : SettingName.all = before ++ name :: after)
      (h : StopsAt (tableOf t.host document) s before name e s') : Broken t path s before e s'

/-- The file holds the setting, which was not given. -/
def Supplies (t : FileTree) (path : PathName) (s : Settings) (n : SettingName) : Prop :=
  n.given s = false ∧
    ∃ document v, readFile t path = .ok document ∧ (tableOf t.host document).member? n.key = some v

variable {t : FileTree} {path : PathName}

theorem takeTable_eq (s : Settings) (table : Table) :
    s.takeTable table = s.takeEach (SettingName.all.map fun n => n.take table) := rfl

/-- **When a file is broken, and what it leaves.** -/
theorem takeFile_eq_error_iff :
    s.takeFile t path = (s', some e) ↔ ∃ before, Broken t path s before e s' := by
  unfold takeFile
  cases hd : readFile t path with
  | error problem =>
    constructor
    · intro h
      cases h
      exact ⟨[], .unread hd⟩
    · rintro ⟨before, h⟩
      cases h with
      | unread h => cases hd.symm.trans h; rfl
      | stopped h => cases hd.symm.trans h
  | ok document =>
    simp only [takeTable_eq]
    rw [takeEach_eq_error_iff (by decide)]
    constructor
    · rintro ⟨before, name, after, hs, h⟩
      exact ⟨before, .stopped hd hs h⟩
    · rintro ⟨before, h⟩
      cases h with
      | unread h => cases hd.symm.trans h
      | stopped h hs hstop =>
        cases hd.symm.trans h
        exact ⟨before, _, _, hs, hstop⟩

/-- Keyword files come last, so nothing is broken behind them. -/
theorem Broken.keywordFiles_not_mem (h : Broken t path s before e s') :
    SettingName.keywordFiles ∉ before := by
  cases h with
  | unread h => exact List.not_mem_nil
  | stopped hd hs h =>
    intro hm
    have hl : SettingName.keywordFiles ∈ SettingName.all.dropLast := by
      rw [hs, List.dropLast_append_of_ne_nil (List.cons_ne_nil _ _)]
      exact List.mem_append_left _ hm
    exact absurd hl (by decide)

/-- **A broken file is ignored as a whole** exactly if it holds none of the settings in front of the
one that cannot be taken over, apart from those that were given. -/
theorem Broken.eq_iff (h : Broken t path s before e s') :
    s' = s ↔ ∀ n ∈ before, ¬Supplies t path s n := by
  have hlast := h.keywordFiles_not_mem
  cases h with
  | unread h => exact ⟨fun _ => List.forall_mem_nil _, fun _ => rfl⟩
  | @stopped document _ after name _ _ hd hs h =>
    constructor
    · rintro rfl n hm ⟨hg, document', v, hd', hv⟩
      cases hd.symm.trans hd'
      have ht := h.taken n hm
      rw [take_eq, given_only, member?_eq_some_iff.2 ⟨hg, hv⟩] at ht
      have hput := given_of_put (fun hn => hlast (hn ▸ hm)) ht
      rw [given_only, hg] at hput
      cases hput
    · intro hsup
      apply ext_only
      intro n
      by_cases hm : n ∈ before
      · have ht := h.taken n hm
        rw [take_eq, given_only, bind_eq_ok_iff] at ht
        obtain ⟨member, hmember, ht⟩ := ht
        cases member with
        | none => exact (Except.ok.inj ht).symm
        | some v =>
          obtain ⟨hg, hv⟩ := member?_eq_some_iff.1 hmember
          exact absurd ⟨hg, document, v, hd, hv⟩ (hsup n hm)
      · exact h.kept n hm

/-- A text that was written is read as the document that it is. -/
theorem readFile_of_parse {text : Text} {document : Value}
    (hb : t.readBytes path.toText = .ok (Utf8.encode text))
    (hp : Toml.parse t.host text = .ok document) : readFile t path = .ok document := by
  unfold readFile
  rw [hb, mapError_ok]
  simp only [bind, Except.bind, Utf8.decode_encode, mapError_ok, hp]

/-- Only the access to a file, its encoding and its document are to blame if it cannot be read. -/
theorem readFile_eq_error (h : readFile t path = .error e) :
    (∃ a, e = .access a) ∨ (∃ d, e = .encoding d) ∨ ∃ wording fault, e = .toml wording fault := by
  unfold readFile at h
  rcases bind_eq_error_iff.1 h with h | ⟨bytes, -, h⟩
  · obtain ⟨a, -, rfl⟩ := mapError_eq_error_iff.1 h
    exact .inl ⟨a, rfl⟩
  rcases bind_eq_error_iff.1 h with h | ⟨text, -, h⟩
  · obtain ⟨d, -, rfl⟩ := mapError_eq_error_iff.1 h
    exact .inr (.inl ⟨d, rfl⟩)
  · obtain ⟨fault, -, rfl⟩ := mapError_eq_error_iff.1 h
    exact .inr (.inr ⟨_, fault, rfl⟩)

/-- When the brackets of a file are nested too deep. -/
theorem readFile_eq_tooDeep_iff {wording : Text} :
    readFile t path = .error (.toml wording .tooDeep) ↔
      ∃ bytes text, t.readBytes path.toText = .ok bytes ∧ Utf8.decode bytes = .ok text ∧
        Toml.parse t.host text = .error .tooDeep ∧ t.host.tomlWording text = wording := by
  unfold readFile
  simp only [bind_eq_error_iff, mapError_eq_error_iff, mapError_eq_ok_iff]
  constructor
  · rintro (⟨_, -, ⟨⟩⟩ | ⟨bytes, hb, ⟨_, -, ⟨⟩⟩ | ⟨text, ht, fault, hf, he⟩⟩)
    obtain ⟨hw, rfl⟩ := SettingsError.toml.inj he
    exact ⟨bytes, text, hb, ht, hf, hw⟩
  · rintro ⟨bytes, text, hb, ht, hf, rfl⟩
    exact .inr ⟨bytes, hb, .inr ⟨text, ht, _, hf, rfl⟩⟩

theorem exists_takeFile_toml_iff {wording : Text} {fault : Toml.Fault} :
    (∃ s', s.takeFile t path = (s', some (.toml wording fault))) ↔
      readFile t path = .error (.toml wording fault) := by
  constructor
  · rintro ⟨s', h⟩
    obtain ⟨before, hb⟩ := takeFile_eq_error_iff.1 h
    cases hb with
    | unread hr => exact hr
    | stopped hd hs hstop => exact absurd hstop.failed take_ne_toml
  · intro h
    exact ⟨s, takeFile_eq_error_iff.2 ⟨[], .unread h⟩⟩

/-- **When taking over a document stops with an error**: at a setting that fails with it, where each
setting before can be taken over. -/
theorem exists_takeFile_iff_of_ne (hr : readFile t path ≠ .error e) :
    (∃ s', s.takeFile t path = (s', some e)) ↔
      ∃ document before name after, readFile t path = .ok document ∧
        SettingName.all = before ++ name :: after ∧
        (∀ n ∈ before, ∃ u, n.take (tableOf t.host document) s = .ok u) ∧
        name.take (tableOf t.host document) s = .error e := by
  constructor
  · rintro ⟨s', h⟩
    obtain ⟨before, hb⟩ := takeFile_eq_error_iff.1 h
    cases hb with
    | unread hread => exact absurd hread hr
    | stopped hd hs hstop =>
      refine ⟨_, _, _, _, hd, hs, fun n hm => ?_, hstop.failed⟩
      obtain ⟨u, hu, -⟩ := take_only_eq_ok_iff.1 (hstop.taken n hm)
      exact ⟨u, hu⟩
  · rintro ⟨document, before, name, after, hd, hs, ht, he⟩
    have hnodup : (before ++ name :: after).Nodup := hs ▸ by decide
    obtain ⟨hbefore, -, hdisjoint⟩ := List.nodup_append.1 hnodup
    have hname : name ∉ before := fun hm => hdisjoint name hm name List.mem_cons_self rfl
    obtain ⟨s', h⟩ := exists_stopsAt hbefore hname ht he
    exact ⟨s', takeFile_eq_error_iff.2 ⟨before, .stopped hd hs h⟩⟩

theorem exists_takeFile_unshown_iff {why : Value.Unshown} :
    (∃ s', s.takeFile t path = (s', some (.unshown why))) ↔
      ∃ document before name after, readFile t path = .ok document ∧
        SettingName.all = before ++ name :: after ∧
        (∀ n ∈ before, ∃ u, n.take (tableOf t.host document) s = .ok u) ∧
        name.take (tableOf t.host document) s = .error (.unshown why) := by
  refine exists_takeFile_iff_of_ne fun h => ?_
  rcases readFile_eq_error h with ⟨_, h⟩ | ⟨_, h⟩ | ⟨_, _, h⟩ <;> cases h

/-- When the number of workers in a file is infinite and is taken over. -/
theorem exists_takeFile_infinite_iff :
    (∃ s', s.takeFile t path = (s', some .infiniteNumber)) ↔
      ∃ document negative, readFile t path = .ok document ∧
        (∀ n ∈ [SettingName.keywords, .extensions, .ledger],
          ∃ u, n.take (tableOf t.host document) s = .ok u) ∧
        s.workers = none ∧
        (tableOf t.host document).member? "jobs".toList = some (.float (.infinite negative)) := by
  have hall : SettingName.all =
      [.keywords, .extensions, .ledger] ++ .workers :: [.keywordFiles] := rfl
  have hr : readFile t path ≠ .error .infiniteNumber := by
    intro h
    rcases readFile_eq_error h with ⟨_, h⟩ | ⟨_, h⟩ | ⟨_, _, h⟩ <;> cases h
  rw [exists_takeFile_iff_of_ne hr]
  constructor
  · rintro ⟨document, before, name, after, hd, hs, ht, he⟩
    obtain ⟨rfl, hw, negative, hv⟩ := take_eq_infinite_iff.1 he
    -- the settings in front of the number of workers are the first three
    obtain ⟨rfl, -⟩ :=
      (List.append_cons_inj_of_notMem (by decide) (by decide)).1 (hall.symm.trans hs)
    exact ⟨document, negative, hd, ht, hw, hv⟩
  · rintro ⟨document, negative, hd, ht, hw, hv⟩
    exact ⟨document, _, _, _, hd, hall, ht, take_eq_infinite_iff.2 ⟨rfl, hw, negative, hv⟩⟩

end Settings

end CommentTasks
