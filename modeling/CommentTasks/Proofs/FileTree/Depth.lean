import CommentTasks.FileTree.Document
import CommentTasks.Proofs.Except

/-!
# Missing directories that are nested too deep

Writing a file makes the missing directories above it, one call in another. It ends for want of room
only if there are more of them than calls can be nested: `writeBytesDeep_tooDeep_iff`.
-/

namespace CommentTasks.FileTree

variable {t v : FileTree} {path : PathName} {err : AccessError}

/-- A path is followed without nested calls. -/
theorem walkNames_ne_tooDeep {follow : Bool} {hops : Nat} {loc : Location} {names : List Text} :
    t.walkNames follow hops loc names ≠ .error .tooDeep := by
  fun_induction walkNames t follow hops loc names <;> first | assumption | exact nofun

theorem locateWith_error {follow : Bool} {written : Text} (h : t.locateWith follow written = .error err) :
    err.problem ≠ .tooDeep := by
  unfold locateWith at h
  obtain ⟨problem, hp, rfl⟩ := mapError_eq_error_iff.1 h
  rintro rfl
  split at hp
  · cases hp
  · split at hp
    · cases hp
    · split at hp
      · cases hp
      · exact walkNames_ne_tooDeep hp

theorem holds_error {kind : Entry → Bool} {written : Text} (h : t.holds kind written = .error err) :
    err.problem ≠ .tooDeep := by
  unfold holds at h
  split at h
  · cases h
  · cases h
  · next hl =>
    split at h
    · cases h
    · cases h
      exact locateWith_error hl

theorem makeDirectory_error {written : Text} (h : t.makeDirectory written = .error err) :
    err.problem ≠ .tooDeep := by
  unfold makeDirectory at h
  split at h
  · cases h
    simp
  · split at h
    · cases h
      simp
    · cases h
  · next hl =>
    cases h
    exact locateWith_error hl

theorem ensureDirectory_error (h : t.ensureDirectory path = .error err) : err.problem ≠ .tooDeep := by
  unfold ensureDirectory at h
  split at h
  · cases h
  · next e he =>
    have hmake := makeDirectory_error he
    split at h
    · cases h
      exact hmake
    · split at h
      · cases h
      · cases h
        exact hmake
      · next hl =>
        cases h
        exact holds_error hl

/-- The change was cut short for want of room, at the directory of the path. -/
def Change.IsTooDeep (c : Change) (written : Text) : Prop := c.refused = some ⟨.tooDeep, written⟩

variable {written : Text}

theorem Change.IsTooDeep.exists_eq {c : Change} (h : c.IsTooDeep written) :
    ∃ u, c = ⟨u, some ⟨.tooDeep, written⟩⟩ := by
  obtain ⟨u, _⟩ := c
  cases h
  exact ⟨u, rfl⟩

theorem not_isTooDeep_changed {x : Except AccessError FileTree}
    (h : ∀ err, x = .error err → err.problem ≠ .tooDeep) : ¬(t.changed x).IsTooDeep written := by
  intro hw
  cases x with
  | ok u => cases hw
  | error err =>
    cases Option.some.inj hw
    exact h _ rfl rfl

theorem not_isTooDeep_writeBytes {file : Text} {content : Bytes} :
    ¬(t.writeBytes file content).IsTooDeep written := by
  have hat (l : Location) : ¬(t.writeAt file l content).IsTooDeep written := by
    unfold writeAt
    split <;> rintro ⟨⟩
  unfold writeBytes
  split
  · exact hat _
  · rintro ⟨⟩
  · exact hat _
  · next hl =>
    intro hw
    cases Option.some.inj hw
    exact locateWith_error hl rfl

/-- The directory cannot be made, since the one above it is missing. -/
def LacksParent (t : FileTree) (path : PathName) : Prop :=
  ∃ written, t.makeDirectory path.toText = .error ⟨.noEntry, written⟩

/-- The directory that the names, in reverse order, lead to and those above it lack their parents,
more of them than calls can be nested: `written` is the first one that is too many. -/
def MissesTooMany (t : FileTree) (root : Text) (depth : Depth) (names : List Text) (written : Text) :
    Prop :=
  ∃ most ∈ depth, (∀ i ≤ most, i < names.length ∧ t.LacksParent ⟨root, (names.drop i).reverse⟩) ∧
    written = PathName.toText ⟨root, (names.drop most).reverse⟩

theorem missesTooMany_cons_iff {root name : Text} {depth : Depth} {above : List Text}
    (h : t.LacksParent ⟨root, (name :: above).reverse⟩) :
    t.MissesTooMany root depth (name :: above) written ↔
      depth.down? = none ∧ written = PathName.toText ⟨root, (name :: above).reverse⟩ ∨
        ∃ deeper ∈ depth.down?, t.MissesTooMany root deeper above written := by
  match depth with
  | none => simp [MissesTooMany, Depth.down?]
  | some 0 =>
    have hdown : Depth.down? (some 0) = none := rfl
    constructor
    · rintro ⟨_, ⟨⟩, -, hw⟩
      exact .inl ⟨rfl, hw⟩
    · rintro (⟨-, hw⟩ | ⟨_, ⟨⟩, -⟩)
      refine ⟨0, rfl, fun i hi => ?_, hw⟩
      obtain rfl := Nat.le_zero.1 hi
      exact ⟨Nat.succ_pos _, h⟩
  | some (n + 1) =>
    constructor
    · rintro ⟨_, ⟨⟩, hall, hw⟩
      refine .inr ⟨some n, rfl, n, rfl, fun i hi => ?_, hw⟩
      obtain ⟨hlength, hlacks⟩ := hall (i + 1) (Nat.succ_le_succ hi)
      exact ⟨Nat.lt_of_succ_lt_succ hlength, hlacks⟩
    · rintro (⟨⟨⟩, -⟩ | ⟨_, ⟨⟩, _, ⟨⟩, hall, hw⟩)
      refine ⟨n + 1, rfl, fun i hi => ?_, hw⟩
      cases i with
      | zero => exact ⟨Nat.succ_pos _, h⟩
      | succ i =>
        obtain ⟨hlength, hlacks⟩ := hall i (Nat.le_of_succ_le_succ hi)
        exact ⟨Nat.succ_lt_succ hlength, hlacks⟩

/-- Directories are nested too deep if too many of them lack their parents. -/
theorem ensureDirectoriesAlong_tooDeep_iff {root : Text} {depth : Depth} {names : List Text} :
    (t.ensureDirectoriesAlong root depth names).IsTooDeep written ↔
      t.MissesTooMany root depth names written := by
  have hnot (u : FileTree) (p : PathName) : ¬(u.changed (u.ensureDirectory p)).IsTooDeep written :=
    not_isTooDeep_changed fun _ => ensureDirectory_error
  induction names generalizing depth with
  | nil =>
    refine ⟨fun h => absurd h (hnot _ _), ?_⟩
    rintro ⟨most, -, hall, -⟩
    exact absurd (hall 0 (Nat.zero_le _)).1 (Nat.lt_irrefl 0)
  | cons name above ih =>
    unfold ensureDirectoriesAlong
    simp only
    split
    · next _ hmake =>
      rw [missesTooMany_cons_iff ⟨_, hmake⟩]
      split
      · next hdown => simp [Change.IsTooDeep, hdown, eq_comm]
      · next deeper hdown =>
        have hdeeper : (t.ensureDirectoriesAlong root deeper above).IsTooDeep written ↔
            depth.down? = none ∧ written = PathName.toText ⟨root, (name :: above).reverse⟩ ∨
              ∃ deeper ∈ depth.down?, t.MissesTooMany root deeper above written := by
          have hi := @ih deeper
          rw [hdown]
          simpa using hi
        rw [← hdeeper]
        split
        · next u hu =>
          rw [hu]
          exact ⟨fun h => absurd h (hnot _ _), nofun⟩
        · exact Iff.rfl
    · next hmake =>
      refine ⟨fun h => absurd h (hnot _ _), ?_⟩
      rintro ⟨most, -, hall, -⟩
      obtain ⟨-, _, hw⟩ := hall 0 (Nat.zero_le _)
      exact absurd hw (hmake _)

/-- The directory of the path and those above it lack their parents, more of them than calls can be
nested. -/
def IsBelowTooMany (t : FileTree) (path : PathName) (written : Text) : Prop :=
  t.MissesTooMany path.root t.host.depths.missing path.parent.names.reverse written

/-- **When writing a file ends for want of room.** -/
theorem writeBytesDeep_tooDeep_iff {content : Bytes} :
    (t.writeBytesDeep path content).IsTooDeep written ↔ t.IsBelowTooMany path written := by
  have hdirectories : (t.ensureDirectories path.parent).IsTooDeep written ↔
      t.IsBelowTooMany path written := ensureDirectoriesAlong_tooDeep_iff
  rw [← hdirectories]
  unfold writeBytesDeep
  split
  · next u hu =>
    rw [hu]
    exact ⟨fun h => absurd h not_isTooDeep_writeBytes, nofun⟩
  · exact Iff.rfl

end CommentTasks.FileTree
