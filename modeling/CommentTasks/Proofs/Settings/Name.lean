import CommentTasks.Proofs.Except
import CommentTasks.Settings.File

/-!
# Single settings

Each setting of a file is taken over from its own member and into its own place, so what becomes of
it does not depend on the others.
-/

namespace CommentTasks

/-- The settings that a file may hold, in the order in which they are taken over. -/
inductive SettingName
  | keywords
  | extensions
  | ledger
  | workers
  | keywordFiles
  deriving DecidableEq, Repr

namespace SettingName

/-- All of them in order. -/
def all : List SettingName := [.keywords, .extensions, .ledger, .workers, .keywordFiles]

/-- What the setting is called in a file. -/
def key : SettingName → Text
  | .keywords => "patterns".toList
  | .extensions => "exts".toList
  | .ledger => "state".toList
  | .workers => "jobs".toList
  | .keywordFiles => "patternsFiles".toList

/-- The setting was given. -/
def given (s : Settings) : SettingName → Bool
  | .keywords => s.keywords.isSome
  | .extensions => s.extensions.isSome
  | .ledger => s.ledger.isSome
  | .workers => s.workers.isSome
  | .keywordFiles => s.keywordFiles ≠ []

/-- The one setting, without the others. -/
def only (n : SettingName) (s : Settings) : Settings :=
  match n with
  | .keywords => { keywords := s.keywords }
  | .extensions => { extensions := s.extensions }
  | .ledger => { ledger := s.ledger }
  | .workers => { workers := s.workers }
  | .keywordFiles => { keywordFiles := s.keywordFiles }

/-- Take over the one setting from a table. -/
def take (n : SettingName) (table : Settings.Table) (s : Settings) : Except SettingsError Settings :=
  match n with
  | .keywords => s.takeKeywords table
  | .extensions => s.takeExtensions table
  | .ledger => s.takeLedger table
  | .workers => s.takeWorkers table
  | .keywordFiles => s.takeKeywordFiles table

/-- The settings with a value of a table in the place of the one setting. -/
def put (n : SettingName) (room : Depth) (v : Value) (s : Settings) :
    Except SettingsError Settings :=
  match n with
  | .keywords => (Settings.listText room v).map fun t => { s with keywords := some t }
  | .extensions => (Settings.listText room v).map fun t => { s with extensions := some t }
  | .ledger => (Settings.shownText room v).map fun t => { s with ledger := some t }
  | .workers => (Settings.integerOf v).map fun i => { s with workers := some i }
  | .keywordFiles =>
    match v with
    | .list items =>
      (items.mapM (Settings.shownText room)).map fun ts => { s with keywordFiles := ts }
    | _ => .ok s

variable {n m : SettingName} {s u : Settings} {table : Settings.Table} {room : Depth} {v : Value}
  {e : SettingsError}

/-- What taking over one setting does: it puts the value in its place that stands in the table, if
there is one and none was given. -/
theorem take_eq (n : SettingName) (table : Settings.Table) (s : Settings) :
    n.take table s = Settings.member? table (n.given s) n.key >>= fun
      | some v => n.put table.room v s
      | none => .ok s := by
  cases n
  case keywordFiles =>
    refine bind_congr fun member => ?_
    cases member with
    | none => rfl
    | some v => cases v <;> rfl
  all_goals
    refine bind_congr fun member => ?_
    cases member <;> rfl

theorem ext_only (h : ∀ n : SettingName, n.only s = n.only u) : s = u := by
  have hk := congrArg Settings.keywords (h .keywords)
  have he := congrArg Settings.extensions (h .extensions)
  have hl := congrArg Settings.ledger (h .ledger)
  have hw := congrArg Settings.workers (h .workers)
  have hf := congrArg Settings.keywordFiles (h .keywordFiles)
  cases s
  cases u
  simp only [only] at hk he hl hw hf
  rw [hk, he, hl, hw, hf]

@[simp] theorem given_only (n : SettingName) (s : Settings) : n.given (n.only s) = n.given s := by
  cases n <;> rfl

theorem map_only_put (n : SettingName) (room : Depth) (v : Value) (s : Settings) :
    (n.put room v s).map n.only = n.put room v (n.only s) := by
  cases n
  case keywordFiles =>
    cases v with
    | list items => exact map_map _ _ _
    | _ => rfl
  all_goals exact map_map _ _ _

/-- A setting is taken over as if it were the only one. -/
theorem map_only_take (n : SettingName) (table : Settings.Table) (s : Settings) :
    (n.take table s).map n.only = n.take table (n.only s) := by
  rw [take_eq, take_eq, given_only]
  cases Settings.member? table (n.given s) n.key with
  | error e => rfl
  | ok member =>
    cases member with
    | none => rfl
    | some v => exact n.map_only_put table.room v s

theorem only_eq_of_put (hne : m ≠ n) (h : n.put room v s = .ok u) : m.only u = m.only s := by
  cases n
  case keywordFiles =>
    cases v
    case list items =>
      obtain ⟨ts, -, rfl⟩ := map_eq_ok_iff.1 h
      cases m <;> first | rfl | exact absurd rfl hne
    all_goals rw [Except.ok.inj h]
  all_goals
    obtain ⟨x, -, rfl⟩ := map_eq_ok_iff.1 h
    cases m <;> first | rfl | exact absurd rfl hne

/-- The other settings are left alone. -/
theorem only_eq_of_take (hne : m ≠ n) (h : n.take table s = .ok u) : m.only u = m.only s := by
  rw [take_eq, bind_eq_ok_iff] at h
  obtain ⟨member, -, h⟩ := h
  cases member with
  | none => rw [Except.ok.inj h]
  | some v => exact only_eq_of_put hne h

/-- A setting that is taken over is taken over as the only one, and the other way round. -/
theorem take_only_eq_ok_iff :
    n.take table (n.only s) = .ok u ↔ ∃ s', n.take table s = .ok s' ∧ n.only s' = u := by
  rw [← map_only_take, map_eq_ok_iff]

theorem take_only_eq_error_iff : n.take table (n.only s) = .error e ↔ n.take table s = .error e := by
  rw [← map_only_take, map_eq_error_iff]

/-- Whether a setting can be taken over depends on its own place only. -/
theorem exists_take_iff_of_only_eq (h : n.only u = n.only s) :
    (∃ u', n.take table u = .ok u') ↔ ∃ s', n.take table s = .ok s' := by
  have hall (x : Settings) : (∃ x', n.take table x = .ok x') ↔ ∃ y, n.take table (n.only x) = .ok y := by
    constructor
    · rintro ⟨x', hx⟩
      exact ⟨_, take_only_eq_ok_iff.2 ⟨x', hx, rfl⟩⟩
    · rintro ⟨y, hy⟩
      obtain ⟨x', hx, -⟩ := take_only_eq_ok_iff.1 hy
      exact ⟨x', hx⟩
  rw [hall u, hall s, h]

theorem take_eq_error_iff_of_only_eq (h : n.only u = n.only s) :
    n.take table u = .error e ↔ n.take table s = .error e := by
  rw [← take_only_eq_error_iff, h, take_only_eq_error_iff]

/-! ### What a table holds -/

theorem member?_eq_some_iff {given : Bool} {key : Text} :
    Settings.member? table given key = .ok (some v) ↔
      given = false ∧ table.member? key = some v := by
  obtain ⟨place, room⟩ := table
  cases place
  case text t =>
    have hne : Settings.member? ⟨.text t, room⟩ given key ≠ .ok (some v) := by
      simp only [Settings.member?]
      split <;> exact nofun
    exact ⟨fun h => absurd h hne, fun h => nomatch h.2⟩
  case list items =>
    have hne : Settings.member? ⟨.list items, room⟩ given key ≠ .ok (some v) := by
      simp only [Settings.member?]
      split <;> exact nofun
    exact ⟨fun h => absurd h hne, fun h => nomatch h.2⟩
  all_goals simp [Settings.member?, Settings.Table.member?, Value.member?]

theorem member?_eq_error {given : Bool} {key : Text} (h : Settings.member? table given key = .error e) :
    e = .textForTable ∨ e = .listForTable ∨ ∃ kind, e = .notATable kind := by
  obtain ⟨place, room⟩ := table
  cases place
  case text t =>
    simp only [Settings.member?] at h
    split at h <;> cases h
    exact .inl rfl
  case list items =>
    simp only [Settings.member?] at h
    split at h <;> cases h
    exact .inr (.inl rfl)
  case map ms => cases h
  all_goals
    cases h
    exact .inr (.inr ⟨_, rfl⟩)

/-- A value that is put in a place stands there, except for keyword files that are no list. -/
theorem given_of_put (hn : n ≠ .keywordFiles) (h : n.put room v s = .ok u) : n.given u = true := by
  cases n
  case keywordFiles => exact absurd rfl hn
  all_goals
    obtain ⟨x, -, rfl⟩ := map_eq_ok_iff.1 h
    rfl

theorem shownText_eq_error (h : Settings.shownText room v = .error e) : ∃ u, e = .unshown u := by
  obtain ⟨u, -, he⟩ := mapError_eq_error_iff.1 h
  exact ⟨u, he.symm⟩

theorem listText_eq_error (h : Settings.listText room v = .error e) : ∃ u, e = .unshown u := by
  obtain ⟨u, -, he⟩ := mapError_eq_error_iff.1 h
  exact ⟨u, he.symm⟩

theorem mapM_shownText_eq_error {items : List Value}
    (h : items.mapM (Settings.shownText room) = .error e) : ∃ u, e = .unshown u := by
  induction items with
  | nil => cases h
  | cons v rest ih =>
    rw [List.mapM_cons] at h
    rcases bind_eq_error_iff.1 h with h | ⟨t, -, h⟩
    · exact shownText_eq_error h
    · rcases bind_eq_error_iff.1 h with h | ⟨ts, -, h⟩
      · exact ih h
      · cases h

theorem integerOf_eq_infinite_iff : Settings.integerOf v = .error .infiniteNumber ↔
    ∃ negative, v = .float (.infinite negative) := by
  constructor
  · intro h
    unfold Settings.integerOf at h
    split at h
    case h_4 x hx =>
      cases x with
      | finite negative m e => cases h
      | infinite negative => exact ⟨negative, rfl⟩
      | nan => exact absurd rfl hx
    case h_5 t =>
      obtain ⟨_, -, h⟩ := mapError_eq_error_iff.1 h
      cases h
    all_goals cases h
  · rintro ⟨negative, rfl⟩
    rfl

/-- A value that is no number of workers is refused only if it cannot be shown. -/
theorem put_eq_error (hn : n ≠ .workers) (h : n.put room v s = .error e) :
    ∃ u, e = .unshown u := by
  cases n
  case keywords => exact listText_eq_error (map_eq_error_iff.1 h)
  case extensions => exact listText_eq_error (map_eq_error_iff.1 h)
  case ledger => exact shownText_eq_error (map_eq_error_iff.1 h)
  case workers => exact absurd rfl hn
  case keywordFiles =>
    cases v
    case list items => exact mapM_shownText_eq_error (map_eq_error_iff.1 h)
    all_goals cases h

/-- **Only the number of workers can be infinite.** -/
theorem take_eq_infinite_iff : n.take table s = .error .infiniteNumber ↔
    n = .workers ∧ s.workers = none ∧
      ∃ negative, table.member? "jobs".toList = some (.float (.infinite negative)) := by
  rw [take_eq, bind_eq_error_iff]
  constructor
  · rintro (h | ⟨member, hm, h⟩)
    · rcases member?_eq_error h with h | h | ⟨_, h⟩ <;> cases h
    · cases member with
      | none => cases h
      | some v =>
        by_cases hn : n = .workers
        · subst hn
          obtain ⟨hg, hv⟩ := member?_eq_some_iff.1 hm
          obtain ⟨negative, rfl⟩ := integerOf_eq_infinite_iff.1 (map_eq_error_iff.1 h)
          exact ⟨rfl, Option.isNone_iff_eq_none.1 (Option.isSome_eq_false_iff.1 hg), negative, hv⟩
        · obtain ⟨u, hu⟩ := put_eq_error hn h
          cases hu
  · rintro ⟨rfl, hw, negative, hv⟩
    refine .inr ⟨some (.float (.infinite negative)), member?_eq_some_iff.2 ⟨?_, hv⟩, rfl⟩
    rw [given, hw]
    rfl

theorem integerOf_ne_toml {wording : Text} {fault : Toml.Fault} :
    Settings.integerOf v ≠ .error (.toml wording fault) := by
  intro h
  unfold Settings.integerOf at h
  split at h
  case h_4 x hx => split at h <;> cases h
  case h_5 t =>
    obtain ⟨_, -, h⟩ := mapError_eq_error_iff.1 h
    cases h
  all_goals cases h

/-- A setting that cannot be taken over stands in a document. -/
theorem take_ne_toml {wording : Text} {fault : Toml.Fault} :
    n.take table s ≠ .error (.toml wording fault) := by
  rw [take_eq]
  intro h
  rcases bind_eq_error_iff.1 h with h | ⟨member, -, h⟩
  · rcases member?_eq_error h with h | h | ⟨_, h⟩ <;> cases h
  · cases member with
    | none => cases h
    | some v =>
      by_cases hn : n = .workers
      · subst hn
        exact integerOf_ne_toml (map_eq_error_iff.1 h)
      · obtain ⟨u, hu⟩ := put_eq_error hn h
        cases hu

end SettingName

end CommentTasks
