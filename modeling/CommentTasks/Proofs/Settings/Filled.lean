import CommentTasks.Proofs.Settings.Name
import CommentTasks.Proofs.Text.Squeeze

/-!
# Settings that a table fills in

A table that is taken over as a whole fills in the settings that were not given, each from its own
member: `takeTable_map_eq_ok_iff`. A list is taken over as its items with commas between them, which
says the same as the list: `splitCommas_join_splitValue`.
-/

namespace CommentTasks

namespace SettingName

variable {n : SettingName} {s s' : Settings} {table : Settings.Table}

theorem mem_all (n : SettingName) : n ∈ all := by cases n <;> decide

theorem only_eq_empty (h : n.given s = false) : n.only s = {} := by
  cases n
  case keywordFiles =>
    have hfiles : s.keywordFiles = [] := by simpa [given] using h
    rw [only, hfiles]
  all_goals
    have hnone := Option.isNone_iff_eq_none.1 (Option.isSome_eq_false_iff.1 h)
    rw [only, hnone]

/-- What becomes of one setting: one that was given stays, and another one is filled in from its
member if the table has it. -/
theorem take_only_eq_ok (h : n.take table (n.only s) = .ok (n.only s')) :
    (n.given s = true → n.only s' = n.only s) ∧
      (n.given s = false → table.member? n.key = none → n.only s' = {}) ∧
      ∀ v, n.given s = false → table.member? n.key = some v →
        n.put table.room v {} = .ok (n.only s') := by
  rw [take_eq, given_only, bind_eq_ok_iff] at h
  obtain ⟨member, hm, h⟩ := h
  cases member with
  | none =>
    have hsame : n.only s' = n.only s := (Except.ok.inj h).symm
    refine ⟨fun _ => hsame, fun hg _ => hsame.trans (only_eq_empty hg), fun v hg hv => ?_⟩
    cases hm.symm.trans (member?_eq_some_iff.2 ⟨hg, hv⟩)
  | some v =>
    obtain ⟨hg, hv⟩ := member?_eq_some_iff.1 hm
    refine ⟨fun hg' => ?_, fun _ hv' => ?_, fun v' _ hv' => ?_⟩
    · cases hg.symm.trans hg'
    · cases hv.symm.trans hv'
    · cases hv.symm.trans hv'
      rw [← only_eq_empty hg]
      exact h

end SettingName

namespace Settings

open SettingName

variable {s s' : Settings} {table table' : Table} {room : Depth} {v : Value}
  {ms : List (Value × Value)}

/-! ### Taking over a whole table -/

/-- Settings are taken over one after the other as if each were the only one. -/
theorem takeEach_eq_ok_iff {names : List SettingName} (hn : names.Nodup) :
    s.takeEach (names.map fun n => n.take table) = (s', none) ↔
      (∀ n ∈ names, n.take table (n.only s) = .ok (n.only s')) ∧
        ∀ n ∉ names, n.only s' = n.only s := by
  induction names generalizing s with
  | nil =>
    constructor
    · intro h
      cases h
      exact ⟨List.forall_mem_nil _, fun _ _ => rfl⟩
    · rintro ⟨-, h⟩
      rw [ext_only fun n => h n List.not_mem_nil]
      rfl
  | cons first rest ih =>
    obtain ⟨hfirst, hrest⟩ := List.nodup_cons.1 hn
    rw [List.map_cons, takeEach]
    cases ht : first.take table s with
    | error problem =>
      constructor
      · intro h
        cases h
      · rintro ⟨h, -⟩
        obtain ⟨u, hu, -⟩ := take_only_eq_ok_iff.1 (h first List.mem_cons_self)
        cases ht.symm.trans hu
    | ok u =>
      have hother {n : SettingName} (hne : n ≠ first) : n.only u = n.only s := only_eq_of_take hne ht
      have hu : first.take table (first.only s) = .ok (first.only u) :=
        take_only_eq_ok_iff.2 ⟨u, ht, rfl⟩
      have hne {n : SettingName} (hm : n ∈ rest) : n ≠ first := fun he => hfirst (he ▸ hm)
      show takeEach u _ = _ ↔ _
      rw [ih hrest]
      constructor
      · rintro ⟨hr, hk⟩
        refine ⟨fun n hm => ?_, fun n hm => ?_⟩
        · rcases List.mem_cons.1 hm with rfl | hm
          · rw [hu, hk n hfirst]
          · rw [← hother (hne hm), hr n hm]
        · rw [List.mem_cons, not_or] at hm
          rw [hk n hm.2, hother hm.1]
      · rintro ⟨hr, hk⟩
        refine ⟨fun n hm => ?_, fun n hm => ?_⟩
        · rw [hother (hne hm), hr n (List.mem_cons_of_mem _ hm)]
        · by_cases hf : n = first
          · subst hf
            exact (Except.ok.inj (hu.symm.trans (hr n List.mem_cons_self))).symm
          · rw [hother hf]
            exact hk n (by rw [List.mem_cons, not_or]; exact ⟨hf, hm⟩)

theorem takeTable_eq_ok_iff :
    s.takeTable table = (s', none) ↔
      ∀ n : SettingName, n.take table (n.only s) = .ok (n.only s') := by
  rw [show s.takeTable table = s.takeEach (all.map fun n => n.take table) from rfl,
    takeEach_eq_ok_iff (by decide)]
  constructor
  · rintro ⟨h, -⟩ n
    exact h n n.mem_all
  · intro h
    exact ⟨fun n _ => h n, fun n hn => absurd n.mem_all hn⟩

/-- The settings `s'` are the settings `s`, filled in from a table: what was given stays as it is,
and each of the other settings is the value of its member, or is not given if there is no such
member. -/
structure FilledFrom (table : Table) (s s' : Settings) : Prop where
  given : ∀ n : SettingName, n.given s = true → n.only s' = n.only s
  missing : ∀ n : SettingName, n.given s = false → table.member? n.key = none → n.only s' = {}
  converted : ∀ n : SettingName, ∀ v, n.given s = false → table.member? n.key = some v →
    n.put table.room v {} = .ok (n.only s')

theorem filledFrom_of_takeTable (h : s.takeTable table = (s', none)) : FilledFrom table s s' where
  given n := (take_only_eq_ok (takeTable_eq_ok_iff.1 h n)).1
  missing n := (take_only_eq_ok (takeTable_eq_ok_iff.1 h n)).2.1
  converted n := (take_only_eq_ok (takeTable_eq_ok_iff.1 h n)).2.2

/-- **A table is taken over without an error exactly if the settings can be filled in from it.** -/
theorem takeTable_map_eq_ok_iff :
    s.takeTable ⟨.map ms, room⟩ = (s', none) ↔ FilledFrom ⟨.map ms, room⟩ s s' := by
  refine ⟨filledFrom_of_takeTable, fun h => takeTable_eq_ok_iff.2 fun n => ?_⟩
  rw [take_eq, given_only]
  cases hg : n.given s with
  | true => exact congrArg Except.ok (h.given n hg).symm
  | false =>
    have hm : member? ⟨.map ms, room⟩ false n.key = .ok (Value.member? n.key (.map ms)) := rfl
    rw [hm]
    cases hv : Value.member? n.key (.map ms) with
    | none => exact congrArg Except.ok ((only_eq_empty hg).trans (h.missing n hg hv).symm)
    | some v =>
      rw [only_eq_empty hg]
      exact h.converted n v hg hv

/-- **Members for settings that were given do not matter**, whatever their values are. -/
theorem FilledFrom.of_member?_eq (h : FilledFrom table s s') (hr : table'.room = table.room)
    (hv : ∀ n : SettingName, n.given s = false → table'.member? n.key = table.member? n.key) :
    FilledFrom table' s s' where
  given := h.given
  missing n hg hm := h.missing n hg ((hv n hg).symm.trans hm)
  converted n x hg hm := hr ▸ h.converted n x hg ((hv n hg).symm.trans hm)

/-! ### Lists -/

theorem splitCommas_nil : splitCommas [] = [] := by decide

/-- Parts stand between commas and have no blanks at their ends. -/
theorem of_mem_splitCommas {t part : Text} (h : part ∈ splitCommas t) :
    ',' ∉ part ∧ Text.trim part = part ∧ part ≠ [] := by
  obtain ⟨hm, hne⟩ := List.mem_filter.1 h
  obtain ⟨piece, hpiece, rfl⟩ := List.mem_map.1 hm
  refine ⟨fun hc => ?_, (Text.isTrimmed_trim piece).trim_eq, by simpa using hne⟩
  exact Text.not_mem_of_mem_splitOn hpiece ((Text.trim_infix piece).subset hc)

theorem splitCommas_join_splitCommas (t : Text) :
    splitCommas (Text.join "," (splitCommas t)) = splitCommas t := by
  by_cases hne : splitCommas t = []
  · rw [hne]
    exact splitCommas_nil
  · have hsplit : (Text.join "," (splitCommas t)).splitOn ',' = splitCommas t :=
      List.splitOn_intercalate ',' (fun _ hp => (of_mem_splitCommas hp).1) hne
    have htrim : (splitCommas t).map Text.trim = splitCommas t :=
      (List.map_congr_left fun _ hp => (of_mem_splitCommas hp).2.1).trans (List.map_id _)
    show (((Text.join "," (splitCommas t)).splitOn ',').map Text.trim).filter (· ≠ []) = _
    rw [hsplit, htrim, List.filter_eq_self]
    exact fun _ hp => by simpa using (of_mem_splitCommas hp).2.2

/-- What a value says as a list is said by a text with commas. -/
theorem exists_splitValue_eq (room : Depth) (v : Value) :
    ∃ t : Except Value.Unshown Text, splitValue room v = t.map splitCommas := by
  fun_cases splitValue room v with
  | case1 => exact ⟨.ok [], congrArg Except.ok splitCommas_nil.symm⟩
  | case2 items =>
    refine ⟨(items.mapM (Value.shown room)).map (Text.join ","), ?_⟩
    rw [map_map]
    rfl
  | case3 a b =>
    refine ⟨([a, b].mapM (Value.shown room)).map (Text.join ","), ?_⟩
    rw [map_map]
    rfl
  | case4 => exact ⟨v.shown room, rfl⟩

/-- **A list says the same behind commas**: its items with commas between them are split into the
items again. -/
theorem splitCommas_join_splitValue (room : Depth) (v : Value) :
    (splitValue room v).map (fun parts => splitCommas (Text.join "," parts)) =
      splitValue room v := by
  obtain ⟨t, ht⟩ := exists_splitValue_eq room v
  rw [ht, map_map]
  exact congrArg (t.map ·) (funext splitCommas_join_splitCommas)

theorem splitValue_of_listText {t : Text} (h : listText room v = .ok t) :
    splitValue room v = .ok (splitOption (some t)) := by
  obtain ⟨parts, hparts, rfl⟩ := map_eq_ok_iff.1 (mapError_eq_ok_iff.1 h)
  rw [← splitCommas_join_splitValue room v, hparts]
  rfl

theorem FilledFrom.splitValue_keywords (h : FilledFrom table s s') (hg : s.keywords = none)
    (hv : table.member? "patterns".toList = some v) :
    splitValue table.room v = .ok (splitOption s'.keywords) := by
  have hput := h.converted .keywords v (by rw [SettingName.given, hg]; rfl) hv
  obtain ⟨t, ht, hk⟩ := map_eq_ok_iff.1 hput
  rw [splitValue_of_listText ht]
  exact congrArg (fun s => Except.ok (splitOption (keywords s))) hk

theorem FilledFrom.splitValue_extensions (h : FilledFrom table s s') (hg : s.extensions = none)
    (hv : table.member? "exts".toList = some v) :
    splitValue table.room v = .ok (splitOption s'.extensions) := by
  have hput := h.converted .extensions v (by rw [SettingName.given, hg]; rfl) hv
  obtain ⟨t, ht, he⟩ := map_eq_ok_iff.1 hput
  rw [splitValue_of_listText ht]
  exact congrArg (fun s => Except.ok (splitOption (extensions s))) he

end Settings

end CommentTasks
