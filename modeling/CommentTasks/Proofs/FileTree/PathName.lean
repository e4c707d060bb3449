import CommentTasks.FileTree.Access
import CommentTasks.Proofs.Encoding.Utf8
import CommentTasks.Proofs.Text.Words

/-!
# The names of a written path

A path that is spelled out leads along its names: writing it and following what is written goes
through the same names. What is written of the path above it is a front of it.
-/

namespace CommentTasks

namespace PathName

/-- The path is spelled as paths are: slashes alone at the front, and names without them. -/
structure Spelled (p : PathName) : Prop where
  root : ∀ c ∈ p.root, c = '/'
  names : ∀ name ∈ p.names, name ≠ [] ∧ '/' ∉ name

variable {p : PathName}

theorem mem_rootOf {t : Text} {c : Char} (h : c ∈ rootOf t) : c = '/' := by
  unfold rootOf at h
  split at h <;> simp_all

theorem spelled_ofText (t : Text) : (ofText t).Spelled := by
  refine ⟨fun c => mem_rootOf, fun name h => ?_⟩
  obtain ⟨hm, hn⟩ := List.mem_filter.1 h
  exact ⟨by simpa using (by simpa using hn : name ≠ [] ∧ name ≠ ['.']).1,
    Text.not_mem_of_mem_splitOn hm⟩

theorem spelled_absolute {names : List Text} (h : ∀ name ∈ names, name ≠ [] ∧ '/' ∉ name) :
    (absolute names).Spelled :=
  ⟨fun _ hc => List.mem_singleton.1 hc, h⟩

theorem Spelled.parent (h : p.Spelled) : p.parent.Spelled :=
  ⟨h.root, fun name hm => h.names name ((List.dropLast_sublist _).mem hm)⟩

/-! ### One more name -/

theorem names_child_ne_nil (p : PathName) (name : Text) : (p.child name).names ≠ [] := by
  simp [child]

theorem exists_eq_child (hn : p.names ≠ []) : ∃ name ∈ p.names, p = p.parent.child name :=
  ⟨p.names.getLast hn, List.getLast_mem hn, by
    rw [child, parent, List.dropLast_append_getLast hn]⟩

/-- The last name stands at the end, behind a slash unless it is the only one. -/
theorem toText_child (p : PathName) (name : Text) :
    (p.child name).toText = if p.names = [] then p.root ++ name else p.toText ++ '/' :: name := by
  have hj (names : List Text) (hn : names ≠ []) :
      Text.join "/" (names ++ [name]) = Text.join "/" names ++ '/' :: name := by
    induction names with
    | nil => exact absurd rfl hn
    | cons first rest ih =>
      cases rest with
      | nil => simp [Text.join]
      | cons second rest =>
        have hc (more : List Text) : Text.join "/" (first :: second :: more) =
            first ++ '/' :: Text.join "/" (second :: more) := by simp [Text.join]
        rw [List.cons_append, List.cons_append, hc, hc, ← List.cons_append, ih (List.cons_ne_nil _ _)]
        simp
  rw [toText, if_neg (fun e => p.names_child_ne_nil name e.2)]
  simp only [child]
  split
  · next hn => rw [hn, List.nil_append, Text.join, List.intercalate_singleton]
  · next hn => rw [hj p.names hn, toText, if_neg (fun e => hn e.2), List.append_assoc]

/-- What is written of the path above is a front of what is written, unless it is a dot. -/
theorem toText_parent_isPrefix (p : PathName) :
    p.parent.toText = ['.'] ∨ p.parent.toText <+: p.toText := by
  by_cases hn : p.names = []
  · have hp : p.parent = p := by
      obtain ⟨root, names⟩ := p
      subst hn
      rfl
    rw [hp]
    exact .inr List.prefix_rfl
  · obtain ⟨name, -, hp⟩ := exists_eq_child hn
    generalize p.parent = above at hp
    subst hp
    rw [toText_child]
    split
    · next ha =>
      unfold toText
      split
      · exact .inl rfl
      · rw [ha]
        exact .inr ⟨name, by simp [Text.join]⟩
    · exact .inr (List.prefix_append _ _)

theorem head?_toText (h : p.Spelled) : p.toText.head? = some '/' ↔ p.root ≠ [] := by
  unfold toText
  split
  · next he => simp [he.1]
  · next he =>
    cases hr : p.root with
    | cons c r => simp [h.root c (by simp [hr])]
    | nil =>
      -- no name begins with a slash
      cases hns : p.names with
      | nil => exact absurd ⟨hr, hns⟩ he
      | cons name rest =>
        obtain ⟨hne, hs⟩ := h.names name (by simp [hns])
        cases name with
        | nil => exact absurd rfl hne
        | cons c r =>
          have hc : c ≠ '/' := fun e => hs (e ▸ List.mem_cons_self)
          simp [Text.join, List.intercalate_cons_cons_left, hc]

/-! ### Names and steps -/

theorem steps_of_mem {t name : Text} (h : name ∈ FileTree.steps t) : name ≠ [] ∧ '/' ∉ name := by
  unfold FileTree.steps at h
  rcases List.mem_append.1 h with h | h
  · obtain ⟨hm, hn⟩ := List.mem_filter.1 h
    exact ⟨by simpa using hn, Text.not_mem_of_mem_splitOn hm⟩
  · split at h
    · obtain rfl := List.mem_singleton.1 h
      exact ⟨by decide, by decide⟩
    · cases h

theorem filter_splitOn_append {root : Text} (h : ∀ c ∈ root, c = '/') (t : Text) :
    ((root ++ t).splitOn '/').filter (· ≠ []) = (t.splitOn '/').filter (· ≠ []) := by
  induction root with
  | nil => rfl
  | cons c r ih =>
    obtain rfl := h c List.mem_cons_self
    have ih := ih fun c hc => h c (List.mem_cons_of_mem _ hc)
    unfold List.splitOn at ih ⊢
    rw [List.cons_append, List.splitOnP_cons_eq_if_modifyHead, if_pos (by simp),
      List.filter_cons_of_neg (by simp), ih]

theorem steps_toText_of_names_eq_nil (h : p.Spelled) (hn : p.names = []) :
    FileTree.steps p.toText = [['.']] := by
  unfold toText
  rw [hn]
  split
  · rfl
  · next hr =>
    have hr : p.root ≠ [] := fun e => hr ⟨e, rfl⟩
    have hl : (p.root ++ Text.join "/" []).getLast? = some '/' := by
      rw [Text.join, List.intercalate_nil, List.append_nil, List.getLast?_eq_some_getLast hr,
        h.root _ (List.getLast_mem hr)]
    have hs := filter_splitOn_append h.root []
    rw [List.append_nil, List.splitOn_nil] at hs
    rw [FileTree.steps, if_pos hl, Text.join, List.intercalate_nil, List.append_nil, hs]
    rfl

/-- **A path is followed along its names.** -/
theorem steps_toText (h : p.Spelled) (hn : p.names ≠ []) : FileTree.steps p.toText = p.names := by
  have hl : p.toText.getLast? ≠ some '/' := by
    obtain ⟨name, hm, hp⟩ := exists_eq_child hn
    obtain ⟨hne, hs⟩ := h.names name hm
    have hfront : ∃ front, p.toText = front ++ name := by
      rw [hp, toText_child]
      split
      · exact ⟨_, rfl⟩
      · exact ⟨p.parent.toText ++ ['/'], by simp⟩
    obtain ⟨front, hf⟩ := hfront
    rw [hf, List.getLast?_append, List.getLast?_eq_some_getLast hne]
    exact fun e => hs (Option.some.inj e ▸ List.getLast_mem hne)
  have hns : p.names.filter (· ≠ []) = p.names :=
    List.filter_eq_self.2 fun name hm => by simpa using (h.names name hm).1
  rw [FileTree.steps, if_neg hl, List.append_nil, toText, if_neg (fun e => hn e.2),
    filter_splitOn_append h.root]
  exact (congrArg (List.filter _) (List.splitOn_intercalate '/' (fun n hm => (h.names n hm).2) hn)).trans
    hns

theorem steps_toText_ne_nil (h : p.Spelled) : FileTree.steps p.toText ≠ [] := by
  by_cases hn : p.names = []
  · rw [steps_toText_of_names_eq_nil h hn]
    exact List.cons_ne_nil _ _
  · rwa [steps_toText h hn]

theorem toText_ne_nil (h : p.Spelled) : p.toText ≠ [] := by
  intro e
  refine steps_toText_ne_nil h ?_
  rw [e]
  rfl

end PathName

end CommentTasks
