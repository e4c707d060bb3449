import CommentTasks.Proofs.Source.Scan
import Mathlib

/-!
# How source files are shown

A source file is shown by the names that lead to it, with a slash for every backslash. So two files
are shown alike exactly if their paths differ in nothing but slashes and backslashes
(`shownPath_eq_iff`), and there are such files, as a backslash may stand in a name
(`BackslashName`).
-/

namespace CommentTasks

variable {names names' : List Text}

/-! ### From a directory to what is below it -/

theorem dropCommon_append {α : Type} [DecidableEq α] (xs ys : List α) :
    dropCommon xs (xs ++ ys) = ([], ys) := by
  induction xs with
  | nil => cases ys <;> rfl
  | cons x xs ih => rw [List.cons_append, dropCommon, if_pos rfl, ih]

theorem normalNames_append (base : List Text) (h : "..".toList ∉ names) :
    normalNames (base ++ names) = normalNames base ++ names := by
  unfold normalNames
  rw [List.foldl_append]
  generalize base.foldl _ [] = done
  induction names generalizing done with
  | nil => exact (List.append_nil done).symm
  | cons name names ih =>
    rw [List.mem_cons, not_or] at h
    rw [List.foldl_cons, if_neg fun e => h.1 e.symm, ih h.2, List.append_assoc, List.singleton_append]

theorem namesBetween_append (base : List Text) (h : "..".toList ∉ names) :
    namesBetween base (base ++ names) = names := by
  rw [namesBetween, normalNames_append base h, dropCommon_append]
  rfl

/-! ### Slashes -/

theorem forwardSlashes_append (a b : Text) :
    forwardSlashes (a ++ b) = forwardSlashes a ++ forwardSlashes b := List.map_append

theorem forwardSlashes_of_not_mem {t : Text} (h : '\\' ∉ t) : forwardSlashes t = t := by
  refine (List.map_congr_left fun c hc => if_neg ?_).trans t.map_id
  rintro rfl
  exact h hc

theorem eq_dot_of_forwardSlashes {t : Text} (h : forwardSlashes t = ['.']) : t = ['.'] := by
  obtain ⟨c, rfl, hc⟩ := List.map_eq_singleton_iff.1 h
  split at hc
  · cases hc
  · rw [hc]

/-! ### Written names -/

theorem eq_slash_or_mem_of_mem_join {c : Char} (h : c ∈ Text.join "/" names) :
    c = '/' ∨ ∃ name ∈ names, c ∈ name := by
  induction names with
  | nil => cases h
  | cons name names ih =>
    by_cases hn : names = []
    · rw [hn, Text.join, List.intercalate_singleton] at h
      exact .inr ⟨name, List.mem_cons_self, h⟩
    · rw [Text.join, List.intercalate_cons_of_ne_nil hn, List.mem_append, List.mem_append] at h
      rcases h with (h | h) | h
      · exact .inr ⟨name, List.mem_cons_self, h⟩
      · exact .inl (List.mem_singleton.1 h)
      · rcases ih h with hc | ⟨other, hm, hc⟩
        · exact .inl hc
        · exact .inr ⟨other, List.mem_cons_of_mem _ hm, hc⟩

theorem splitOn_join (hn : names ≠ []) (h : ∀ name ∈ names, IsName name) :
    (Text.join "/" names).splitOn '/' = names :=
  List.splitOn_intercalate '/' (fun n hm => (h n hm).slash_not_mem) hn

/-- What is written of the names of a directory stands in front of what is written below it. -/
theorem PathName.exists_toText_append (base : PathName) : ∃ front : Text, ∀ names : List Text,
    names ≠ [] → toText ⟨base.root, base.names ++ names⟩ = front ++ Text.join "/" names := by
  obtain ⟨root, above⟩ := base
  have hj : ∃ front : Text, ∀ names : List Text, names ≠ [] →
      Text.join "/" (above ++ names) = front ++ Text.join "/" names := by
    induction above with
    | nil => exact ⟨[], fun _ _ => rfl⟩
    | cons name above ih =>
      obtain ⟨front, hf⟩ := ih
      refine ⟨name ++ "/".toList ++ front, fun names hn => ?_⟩
      rw [List.cons_append, Text.join, List.intercalate_cons_of_ne_nil (by simp [hn])]
      simp only [hf names hn, List.append_assoc]
  obtain ⟨front, hf⟩ := hj
  refine ⟨root ++ front, fun names hn => ?_⟩
  rw [toText, if_neg (by simp [hn]), hf names hn, List.append_assoc]

/-! ### Source files -/

/-- **A path below a directory is shown by its names**, with a slash for every backslash. -/
theorem shownPath_below (base : PathName) (hn : names ≠ []) (h : ∀ name ∈ names, IsName name) :
    shownPath base ⟨base.root, base.names ++ names⟩ = forwardSlashes (Text.join "/" names) := by
  have hup : "..".toList ∉ names := fun hm => (h _ hm).ne_up rfl
  have hs := splitOn_join hn h
  unfold shownPath
  simp only [namesBetween_append base.names hup]
  refine if_neg fun hshort => ?_
  -- neither an empty text nor a dot is written of names
  rcases hshort with hnil | hdot
  · rw [List.map_eq_nil_iff.1 hnil, List.splitOn_nil] at hs
    exact (h [] (hs ▸ List.mem_singleton_self _)).ne_nil rfl
  · rw [eq_dot_of_forwardSlashes hdot] at hs
    exact (h ['.'] (hs ▸ List.mem_singleton_self _)).ne_dot rfl

variable {t : FileTree} {extensions : List Text} {base file file' : PathName}

/-- The path leads on from the base along names that can be. -/
structure PathName.LeadsOn (base file : PathName) (names : List Text) : Prop where
  eq_append : file = ⟨base.root, base.names ++ names⟩
  ne_nil : names ≠ []
  isName : ∀ name ∈ names, IsName name

/-- Two source files are below the base unless they are one. -/
theorem FileTree.WellFormed.leadsOn_of_ne (ht : t.WellFormed) (hf : file ∈ t.sourceFiles extensions base)
    (hf' : file' ∈ t.sourceFiles extensions base) (hne : file ≠ file') :
    ∃ names names', base.LeadsOn file names ∧ base.LeadsOn file' names' := by
  have below {loc : Location} {names : List Text} {e : Entry}
      (h : t.IsSource (normalExtensions extensions) base.toText loc names e) :
      base.LeadsOn ⟨base.root, base.names ++ names⟩ names :=
    ⟨rfl, h.ne_nil, fun name hm => ht.names h.entry name (List.mem_append_right _ hm)⟩
  rcases FileTree.mem_sourceFiles_iff.1 hf with ⟨_, _, hb, -, rfl⟩ | ⟨loc, names, e, hb, hs, rfl⟩ <;>
    rcases FileTree.mem_sourceFiles_iff.1 hf' with ⟨_, _, hb', -, rfl⟩ | ⟨loc', names', e', hb', hs', rfl⟩
  · exact absurd rfl hne
  · cases hb.symm.trans hb'
  · cases hb.symm.trans hb'
  · exact ⟨names, names', below hs, below hs'⟩

/-- The names of a path behind those of a path above it. -/
def PathName.namesBehind (base file : PathName) : List Text := file.names.drop base.names.length

theorem PathName.LeadsOn.namesBehind_eq (h : base.LeadsOn file names) : base.namesBehind file = names := by
  rw [namesBehind, h.eq_append, List.drop_left]

theorem PathName.LeadsOn.shownPath_eq (h : base.LeadsOn file names) :
    shownPath base file = forwardSlashes (Text.join "/" names) := by
  rw [h.eq_append, shownPath_below base h.ne_nil h.isName]

theorem forwardSlashes_join (h : ∀ name ∈ names, '\\' ∉ name) :
    forwardSlashes (Text.join "/" names) = Text.join "/" names := by
  refine forwardSlashes_of_not_mem fun hm => ?_
  rcases eq_slash_or_mem_of_mem_join hm with hc | ⟨name, hn, hc⟩
  · cases hc
  · exact h name hn hc

/-- **Two source files of a directory are shown alike exactly if their paths are the same with a
slash for every backslash.** So different files are shown differently if no name below the directory
has a backslash. -/
theorem shownPath_eq_iff (ht : t.WellFormed) (hf : file ∈ t.sourceFiles extensions base)
    (hf' : file' ∈ t.sourceFiles extensions base) :
    (shownPath base file = shownPath base file' ↔
        forwardSlashes file.toText = forwardSlashes file'.toText) ∧
      ((∀ name ∈ base.namesBehind file ++ base.namesBehind file', '\\' ∉ name) →
        file ≠ file' → shownPath base file ≠ shownPath base file') := by
  by_cases hne : file = file'
  · subst hne
    exact ⟨⟨fun _ => rfl, fun _ => rfl⟩, fun _ h => absurd rfl h⟩
  · obtain ⟨names, names', hn, hn'⟩ := ht.leadsOn_of_ne hf hf' hne
    rw [hn.shownPath_eq, hn'.shownPath_eq]
    constructor
    · obtain ⟨front, hfront⟩ := base.exists_toText_append
      rw [hn.eq_append, hn'.eq_append, hfront names hn.ne_nil, hfront names' hn'.ne_nil,
        forwardSlashes_append, forwardSlashes_append, List.append_cancel_left_eq]
    · intro hplain _ hshown
      rw [hn.namesBehind_eq, hn'.namesBehind_eq, List.forall_mem_append] at hplain
      rw [forwardSlashes_join hplain.1, forwardSlashes_join hplain.2] at hshown
      have hnames : names = names' := by
        rw [← splitOn_join hn.ne_nil hn.isName, hshown, splitOn_join hn'.ne_nil hn'.isName]
      exact hne (by rw [hn.eq_append, hn'.eq_append, hnames])

/-! ### A name with a backslash -/

namespace BackslashName

set_option maxRecDepth 100000

/-- A directory with a file in a subdirectory, and a file that has the path of the other with a
backslash as its name. -/
def tree : FileTree :=
  ⟨[(["p".toList], .directory), (["p".toList, "b.c".toList], .file []),
    (["p".toList, "a\\b.c".toList], .file []), (["p".toList, "a".toList], .directory),
    (["p".toList, "a".toList, "b.c".toList], .file [])], [], {}, by decide⟩

def directory : PathName := .absolute ["p".toList]

/-- The file in the subdirectory. -/
def nested : PathName := .absolute ["p".toList, "a".toList, "b.c".toList]

/-- The file with a backslash in its name. -/
def flat : PathName := .absolute ["p".toList, "a\\b.c".toList]

/-- A file without one. -/
def plain : PathName := .absolute ["p".toList, "b.c".toList]

theorem wellFormed : tree.WellFormed := FileTree.wellFormed_of_entries (by decide) (by decide)

theorem sourceFiles : tree.sourceFiles ["c".toList] directory = [flat, plain, nested] := by
  cbv

end BackslashName

theorem shownPath_eq_iff_backslash :
    BackslashName.tree.WellFormed ∧
      BackslashName.tree.sourceFiles ["c".toList] BackslashName.directory =
        [BackslashName.flat, BackslashName.plain, BackslashName.nested] ∧
      shownPath BackslashName.directory BackslashName.flat =
        shownPath BackslashName.directory BackslashName.nested ∧
      shownPath BackslashName.directory BackslashName.plain ≠
        shownPath BackslashName.directory BackslashName.nested := by
  have ht := BackslashName.wellFormed
  have hs := BackslashName.sourceFiles
  have hm (file : PathName) (hm : file ∈ [BackslashName.flat, BackslashName.plain, BackslashName.nested]) :
      file ∈ BackslashName.tree.sourceFiles ["c".toList] BackslashName.directory := hs ▸ hm
  refine ⟨ht, hs, ?_, ?_⟩
  · refine (shownPath_eq_iff ht (hm _ ?_) (hm _ ?_)).1.2 ?_
    · decide
    · decide
    · decide
  · refine (shownPath_eq_iff ht (hm _ ?_) (hm _ ?_)).2 ?_ ?_
    · decide
    · decide
    · decide
    · decide

/-- Two source files of a directory that are shown alike. -/
theorem shownPath_not_injective :
    BackslashName.tree.WellFormed ∧
      BackslashName.flat ∈ BackslashName.tree.sourceFiles ["c".toList] BackslashName.directory ∧
      BackslashName.nested ∈ BackslashName.tree.sourceFiles ["c".toList] BackslashName.directory ∧
      BackslashName.flat ≠ BackslashName.nested ∧
      shownPath BackslashName.directory BackslashName.flat = "a/b.c".toList ∧
      shownPath BackslashName.directory BackslashName.nested = "a/b.c".toList := by
  rw [BackslashName.sourceFiles]
  exact ⟨BackslashName.wellFormed, by decide, by decide, by decide, by decide, by decide⟩

end CommentTasks
