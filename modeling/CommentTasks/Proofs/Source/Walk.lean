import CommentTasks.Proofs.Source.Shown
import CommentTasks.Proofs.Text.Letters
import Mathlib

/-!
# The walk over a directory

The source files of a directory are those of a walk that goes from each directory to its
subdirectories: first the chosen files of the directory, then what is below its subdirectories, both
in the order of their names. `Walks` is this walk step by step, and `WellFormed.walks_iff` says that
it ends and finds the source files. Their order is `VisitedBefore`, and neither depends on the order
in which the tree lists what it holds.
-/

namespace CommentTasks

/-! ### The order of names -/

/-- Names come in the order of their code points. -/
theorem nameLE_iff {a b : Text} : nameLE a b ↔ ¬b < a := by
  fun_induction nameLE a b with
  | case1 b => simp
  | case2 => simp
  | case3 a as b bs ih =>
    rw [List.cons_lt_cons_iff, Bool.or_eq_true, Bool.and_eq_true, beq_iff_eq, decide_eq_true_eq, ih]
    rcases lt_trichotomy a b with h | rfl | h
    · simp [h, h.ne', h.not_gt]
    · simp
    · simp [h, h.ne', h.not_gt]

/-- A file is visited before another one: of two files of a directory the one with the smaller name,
a file of a directory before those of its subdirectories, and these by the names of the
subdirectories. -/
inductive VisitedBefore : List Text → List Text → Prop
  | files {x y : Text} : x < y → VisitedBefore [x] [y]
  | file {x y : Text} {rest : List Text} : rest ≠ [] → VisitedBefore [x] (y :: rest)
  | directories {x y : Text} {rest rest' : List Text} : x < y → rest ≠ [] → rest' ≠ [] →
      VisitedBefore (x :: rest) (y :: rest')
  | inside {x : Text} {rest rest' : List Text} : VisitedBefore rest rest' →
      VisitedBefore (x :: rest) (x :: rest')

/-- The names that lead to a file, each marked by whether more names follow. -/
def visitKey : List Text → List (Bool ×ₗ Text)
  | [] => []
  | [x] => [toLex (false, x)]
  | x :: y :: rest => toLex (true, x) :: visitKey (y :: rest)

@[simp] theorem visitKey_nil : visitKey [] = [] := rfl

@[simp] theorem visitKey_singleton (x : Text) : visitKey [x] = [toLex (false, x)] := rfl

theorem visitKey_cons {rest : List Text} (x : Text) (h : rest ≠ []) :
    visitKey (x :: rest) = toLex (true, x) :: visitKey rest := by
  cases rest with
  | nil => exact absurd rfl h
  | cons y rest => rfl

theorem map_visitKey (a : List Text) : (visitKey a).map (fun k => (ofLex k).2) = a := by
  fun_induction visitKey a with
  | case1 => rfl
  | case2 x => rfl
  | case3 x y rest ih => rw [List.map_cons, ih]; rfl

theorem visitKey_injective : Function.Injective visitKey :=
  Function.LeftInverse.injective map_visitKey

/-- Source files are ordered by their keys. -/
theorem walkLE_iff {a b : List Text} : walkLE a b ↔ ¬visitKey b < visitKey a := by
  have nonempty {as bs : List Text} (hnn : as = [] → bs = [] → False)
      (hnc : ∀ head tail, as = [] → bs = head :: tail → False) : as ≠ [] := by
    rintro rfl
    cases bs with
    | nil => exact hnn rfl rfl
    | cons head tail => exact hnc head tail rfl rfl
  fun_induction walkLE a b with
  | case1 b => simp
  | case2 a as => cases as <;> simp [visitKey]
  | case3 a b =>
    rw [nameLE_iff, visitKey_singleton, visitKey_singleton, List.cons_lt_cons_iff,
      Prod.Lex.toLex_lt_toLex]
    simp
  | case4 a b c rest => simp [visitKey, List.cons_lt_cons_iff, Prod.Lex.toLex_lt_toLex]
  | case5 a b c rest => simp [visitKey, List.cons_lt_cons_iff, Prod.Lex.toLex_lt_toLex]
  | case6 as b bs hnn hnc hcn ih =>
    have has := nonempty hnn hnc
    have hbs := nonempty (fun h h' => hnn h' h) fun head tail h h' => hcn head tail h' h
    refine ih.trans ?_
    rw [visitKey_cons b has, visitKey_cons b hbs, List.cons_lt_cons_iff]
    simp
  | case7 a as b bs hnn hnc hcn hne =>
    have has := nonempty hnn hnc
    have hbs := nonempty (fun h h' => hnn h' h) fun head tail h h' => hcn head tail h' h
    rw [nameLE_iff, visitKey_cons a has, visitKey_cons b hbs, List.cons_lt_cons_iff,
      Prod.Lex.toLex_lt_toLex]
    simp [Ne.symm hne]

theorem VisitedBefore.visitKey_lt {a b : List Text} (h : VisitedBefore a b) :
    visitKey a < visitKey b := by
  induction h with
  | files h => simpa [List.cons_lt_cons_iff, Prod.Lex.toLex_lt_toLex] using h
  | file h =>
    rw [visitKey_cons _ h, visitKey_singleton, List.cons_lt_cons_iff, Prod.Lex.toLex_lt_toLex]
    simp
  | directories h hr hr' =>
    rw [visitKey_cons _ hr, visitKey_cons _ hr', List.cons_lt_cons_iff, Prod.Lex.toLex_lt_toLex]
    simp [h]
  | @inside x rest rest' h ih =>
    have hr : rest ≠ [] := by rintro rfl; cases h
    have hr' : rest' ≠ [] := by rintro rfl; cases h
    rw [visitKey_cons _ hr, visitKey_cons _ hr', List.cons_lt_cons_iff]
    exact .inr ⟨rfl, ih⟩

theorem visitedBefore_of_visitKey_lt {a b : List Text} (ha : a ≠ []) (h : visitKey a < visitKey b) :
    VisitedBefore a b := by
  induction a generalizing b with
  | nil => exact absurd rfl ha
  | cons x rest ih =>
    cases b with
    | nil => exact absurd h (List.not_lt_nil _)
    | cons y rest' =>
      by_cases hr : rest = [] <;> by_cases hr' : rest' = []
      · subst hr hr'
        exact .files (by simpa [List.cons_lt_cons_iff, Prod.Lex.toLex_lt_toLex] using h)
      · subst hr
        exact .file hr'
      · subst hr'
        rw [visitKey_cons x hr, visitKey_singleton, List.cons_lt_cons_iff,
          Prod.Lex.toLex_lt_toLex] at h
        rcases h with (h | ⟨h, -⟩) | ⟨-, h⟩
        · exact absurd h (by simp)
        · cases h
        · exact absurd h (List.not_lt_nil _)
      · rw [visitKey_cons x hr, visitKey_cons y hr', List.cons_lt_cons_iff,
          Prod.Lex.toLex_lt_toLex] at h
        rcases h with h | ⟨hxy, h⟩
        · exact .directories (by simpa using h) hr hr'
        · obtain rfl : x = y := (Prod.mk.inj (toLex_inj.1 hxy)).2
          exact .inside (ih hr h)

instance : Std.Irrefl VisitedBefore := ⟨fun _ h => lt_irrefl _ h.visitKey_lt⟩

instance : Std.Antisymm VisitedBefore :=
  ⟨fun _ _ h h' => absurd h.visitKey_lt h'.visitKey_lt.not_gt⟩

/-- Different items are sorted strictly by their keys. -/
theorem pairwise_mergeSort_lt {α κ : Type} [LinearOrder κ] {key : α → κ} {le : α → α → Bool}
    {l : List α} (hle : ∀ a b, le a b ↔ ¬key b < key a) (hkey : Function.Injective key)
    (hl : l.Nodup) : (l.mergeSort le).Pairwise fun a b => key a < key b := by
  have hs : (l.mergeSort le).Pairwise fun a b => le a b := by
    refine List.pairwise_mergeSort (fun a b c hab hbc => ?_) (fun a b => ?_) l
    · rw [hle, not_lt] at hab hbc ⊢
      exact hab.trans hbc
    · rw [Bool.or_eq_true, hle, hle, not_lt, not_lt]
      exact le_total _ _
  have hn : (l.mergeSort le).Nodup := (List.mergeSort_perm l le).nodup_iff.2 hl
  refine (hs.and hn).imp fun h => ?_
  exact lt_of_le_of_ne (not_lt.1 ((hle _ _).1 h.1)) fun e => h.2 (hkey e)

namespace FileTree

variable {t u : FileTree} {extensions : List Text} {path : Text} {loc : Location} {base : PathName}
  {names above rest : List Text} {name : Text} {e : Entry} {found : List (List Text)}

/-! ### One directory -/

/-- What is read off the entries of a tree is different for different locations. -/
theorem nodup_filterMap {β : Type} {f : Location × Entry → Option β}
    (hf : ∀ x y b, f x = some b → f y = some b → x.1 = y.1) : (t.entries.filterMap f).Nodup := by
  refine List.Pairwise.filterMap f (fun x y hne b hb b' hb' hbb => hne ?_)
    (List.pairwise_map.1 t.nodup)
  exact hf x y b hb (hbb ▸ hb')

/-- The name under which an entry of a kind stands right in a directory. -/
def nameIn? (loc : Location) (kind : Text → Entry → Bool) (x : Location × Entry) : Option Text :=
  match namesBelow? loc x.1 with
  | some [name] => if kind name x.2 then some name else none
  | _ => none

theorem nameIn?_eq_some_iff {kind : Text → Entry → Bool} {x : Location × Entry} :
    nameIn? loc kind x = some name ↔ x.1 = loc ++ [name] ∧ kind name x.2 := by
  unfold nameIn?
  constructor
  · intro h
    split at h
    · next name' hb =>
      split at h
      · next hk =>
        cases h
        exact ⟨(namesBelow?_eq_some_iff.1 hb).2, hk⟩
      · cases h
    · cases h
  · rintro ⟨hx, hk⟩
    rw [namesBelow?_eq_some_iff.2 ⟨List.cons_ne_nil _ _, hx⟩]
    exact if_pos hk

/-- The names under which something of a kind stands right in a directory, in order. -/
def namesIn (t : FileTree) (loc : Location) (kind : Text → Entry → Bool) : List Text :=
  (t.entries.filterMap (nameIn? loc kind)).mergeSort nameLE

theorem mem_namesIn_iff {kind : Text → Entry → Bool} : name ∈ t.namesIn loc kind ↔
    ∃ e, t.entry? (loc ++ [name]) = some e ∧ kind name e := by
  rw [namesIn, List.mem_mergeSort, List.mem_filterMap]
  simp only [nameIn?_eq_some_iff]
  constructor
  · rintro ⟨⟨_, e⟩, hm, rfl, hk⟩
    exact ⟨e, (mem_entries_iff (by simp)).1 hm, hk⟩
  · rintro ⟨e, he, hk⟩
    exact ⟨(loc ++ [name], e), (mem_entries_iff (by simp)).2 he, rfl, hk⟩

theorem pairwise_namesIn (t : FileTree) (loc : Location) (kind : Text → Entry → Bool) :
    (t.namesIn loc kind).Pairwise (· < ·) := by
  refine pairwise_mergeSort_lt (fun a b => nameLE_iff) Function.injective_id ?_
  refine nodup_filterMap fun x y name hx hy => ?_
  rw [(nameIn?_eq_some_iff.1 hx).1, (nameIn?_eq_some_iff.1 hy).1]

/-- The chosen files right in a directory, in order, if it can be listed. -/
def filesIn (t : FileTree) (extensions : List Text) (path : Text) (loc : Location) : List Text :=
  t.namesIn loc fun name e =>
    t.lists path loc && t.countsAsFile (pathIn path name) e && matchesExtension extensions name

/-- The directories right in a directory that are entered, in order, if it can be listed and
searched. -/
def subdirectories (t : FileTree) (path : Text) (loc : Location) : List Text :=
  t.namesIn loc fun name e =>
    t.lists path loc && (t.host.refuses .search loc).isNone && e.isDirectory &&
      !isExcludedDirectory name

theorem mem_filesIn_iff : name ∈ t.filesIn extensions path loc ↔ t.lists path loc ∧
    ∃ e, t.entry? (loc ++ [name]) = some e ∧ t.countsAsFile (pathIn path name) e ∧
      matchesExtension extensions name := by
  simp only [filesIn, mem_namesIn_iff, Bool.and_eq_true]
  constructor
  · rintro ⟨e, he, ⟨hl, hc⟩, hm⟩
    exact ⟨hl, e, he, hc, hm⟩
  · rintro ⟨hl, e, he, hc, hm⟩
    exact ⟨e, he, ⟨hl, hc⟩, hm⟩

theorem mem_subdirectories_iff : name ∈ t.subdirectories path loc ↔
    (t.lists path loc ∧ t.host.refuses .search loc = none) ∧
      t.entry? (loc ++ [name]) = some .directory ∧ isExcludedDirectory name = false := by
  simp only [subdirectories, mem_namesIn_iff, Bool.and_eq_true, Option.isNone_iff_eq_none,
    Bool.not_eq_true']
  constructor
  · rintro ⟨e, he, ⟨hl, hd⟩, hx⟩
    cases e with
    | directory => exact ⟨hl, he, hx⟩
    | file content => cases hd
    | link target => cases hd
  · rintro ⟨hl, he, hx⟩
    exact ⟨.directory, he, ⟨hl, rfl⟩, hx⟩

/-! ### One step of the walk -/

theorem isSource_singleton_iff : (∃ e, t.IsSource extensions path loc [name] e) ↔
    name ∈ t.filesIn extensions path loc := by
  rw [mem_filesIn_iff]
  constructor
  · rintro ⟨e, hs⟩
    exact ⟨hs.reached, e, hs.entry, hs.counts, by simpa using hs.chosen⟩
  · rintro ⟨hl, e, he, hc, hm⟩
    exact ⟨e, List.cons_ne_nil _ _, he, hc, by simpa using hm, hl⟩

theorem comesTo_cons_iff (hr : rest ≠ []) : t.comesTo path loc (name :: rest) ↔
    (t.lists path loc ∧ t.host.refuses .search loc = none) ∧
      t.comesTo (pathIn path name) (loc ++ [name]) rest := by
  obtain ⟨x, xs, rfl⟩ := List.exists_cons_of_ne_nil hr
  rw [comesTo.eq_3 t path loc name (x :: xs) (by simp), Bool.and_eq_true, Bool.and_eq_true,
    Option.isNone_iff_eq_none]

/-- A file further below is a source file if it is one of a subdirectory that is entered. -/
theorem isSource_cons_iff (hr : rest ≠ []) : t.IsSource extensions path loc (name :: rest) e ↔
    (t.lists path loc ∧ t.host.refuses .search loc = none) ∧ isExcludedDirectory name = false ∧
      t.IsSource extensions (pathIn path name) (loc ++ [name]) rest e := by
  have hlast : (name :: rest).getLast? = rest.getLast? := List.getLast?_cons_of_ne_nil hr
  constructor
  · rintro ⟨-, he, hc, hch, hreached⟩
    obtain ⟨hl, hreached⟩ := (comesTo_cons_iff hr).1 hreached
    rw [List.dropLast_cons_of_ne_nil hr, List.any_cons, hlast] at hch
    simp only [Bool.not_or, Bool.and_eq_true, Bool.not_eq_true'] at hch
    refine ⟨hl, hch.1.1, hr, by rwa [← List.append_cons], hc, ?_, hreached⟩
    rw [hch.1.2, hch.2]
    rfl
  · rintro ⟨hl, hx, -, he, hc, hch, hreached⟩
    rw [← List.append_cons] at he
    refine ⟨List.cons_ne_nil _ _, he, hc, ?_, (comesTo_cons_iff hr).2 ⟨hl, hreached⟩⟩
    rw [List.dropLast_cons_of_ne_nil hr, List.any_cons, hx, Bool.false_or, hlast]
    exact hch

theorem pairwise_sourcesBelow (t : FileTree) (extensions : List Text) (path : Text) (loc : Location) :
    (t.sourcesBelow extensions path loc).Pairwise VisitedBefore := by
  have hs : (t.sourcesBelow extensions path loc).Pairwise fun a b => visitKey a < visitKey b := by
    refine pairwise_mergeSort_lt (fun a b => walkLE_iff) visitKey_injective ?_
    refine nodup_filterMap fun x y names hx hy => ?_
    rw [(sourceNames?_eq_some_iff.1 hx).1.2, (sourceNames?_eq_some_iff.1 hy).1.2]
  refine hs.imp_of_mem fun ha _ h => ?_
  obtain ⟨e, hs⟩ := mem_sourcesBelow_iff.1 ha
  exact visitedBefore_of_visitKey_lt hs.ne_nil h

/-- **One step of the walk**: the source files below a directory are its own, and then those below
its subdirectories. -/
theorem WellFormed.sourcesBelow_eq (ht : t.WellFormed) (extensions : List Text) (path : Text)
    (loc : Location) :
    t.sourcesBelow extensions path loc = (t.filesIn extensions path loc).map ([·]) ++
      (t.subdirectories path loc).flatMap fun name =>
        (t.sourcesBelow extensions (pathIn path name) (loc ++ [name])).map (name :: ·) := by
  have hne {path : Text} {loc : Location} {names : List Text}
      (h : names ∈ t.sourcesBelow extensions path loc) : names ≠ [] := by
    obtain ⟨e, hs⟩ := mem_sourcesBelow_iff.1 h
    exact hs.ne_nil
  refine (pairwise_sourcesBelow t extensions path loc).eq_of_mem_iff ?_ fun names => ?_
  · rw [List.pairwise_append, List.pairwise_map, List.pairwise_flatMap]
    refine ⟨(pairwise_namesIn t loc _).imp .files, ⟨fun name _ => ?_, ?_⟩, ?_⟩
    · rw [List.pairwise_map]
      exact (pairwise_sourcesBelow t extensions _ _).imp .inside
    · refine (pairwise_namesIn t loc _).imp fun hlt a ha b hb => ?_
      obtain ⟨rest, hr, rfl⟩ := List.mem_map.1 ha
      obtain ⟨rest', hr', rfl⟩ := List.mem_map.1 hb
      exact .directories hlt (hne hr) (hne hr')
    · intro a ha b hb
      obtain ⟨x, -, rfl⟩ := List.mem_map.1 ha
      obtain ⟨y, -, hb⟩ := List.mem_flatMap.1 hb
      obtain ⟨rest, hr, rfl⟩ := List.mem_map.1 hb
      exact .file (hne hr)
  · rw [List.mem_append, List.mem_map, List.mem_flatMap]
    constructor
    · intro hm
      obtain ⟨name, rest, rfl⟩ := List.exists_cons_of_ne_nil (hne hm)
      have hs := mem_sourcesBelow_iff.1 hm
      by_cases hr : rest = []
      · subst hr
        exact .inl ⟨name, isSource_singleton_iff.1 hs, rfl⟩
      · obtain ⟨e, hs⟩ := hs
        obtain ⟨hl, hx, hs⟩ := (isSource_cons_iff hr).1 hs
        -- what stands above a file is a directory
        have hd := ht.directory_above hr hs.entry
        exact .inr ⟨name, mem_subdirectories_iff.2 ⟨hl, hd, hx⟩,
          List.mem_map_of_mem (mem_sourcesBelow_iff.2 ⟨e, hs⟩)⟩
    · rintro (⟨name, hm, rfl⟩ | ⟨name, hm, h⟩)
      · exact mem_sourcesBelow_iff.2 (isSource_singleton_iff.2 hm)
      · obtain ⟨rest, hr, rfl⟩ := List.mem_map.1 h
        obtain ⟨e, hs⟩ := mem_sourcesBelow_iff.1 hr
        obtain ⟨hl, -, hx⟩ := mem_subdirectories_iff.1 hm
        exact mem_sourcesBelow_iff.2 ⟨e, (isSource_cons_iff hs.ne_nil).2 ⟨hl, hx, hs⟩⟩

/-! ### The whole walk -/

/-- The walk over a directory finds the files of the directory, and behind them what the walks over
its subdirectories find. -/
inductive Walks (t : FileTree) (extensions : List Text) : Text → Location → List (List Text) → Prop
  | directory {path : Text} {loc : Location} (below : Text → List (List Text)) :
      (∀ name ∈ t.subdirectories path loc,
        Walks t extensions (pathIn path name) (loc ++ [name]) (below name)) →
      Walks t extensions path loc ((t.filesIn extensions path loc).map ([·]) ++
        (t.subdirectories path loc).flatMap fun name => (below name).map (name :: ·))

/-- A walk finds the source files. -/
theorem Walks.eq_sourcesBelow (ht : t.WellFormed) (h : t.Walks extensions path loc found) :
    found = t.sourcesBelow extensions path loc := by
  induction h with
  | @directory path loc below _ ih =>
    rw [ht.sourcesBelow_eq]
    refine congrArg _ (List.flatMap_congr fun name hm => ?_)
    rw [ih name hm]

/-- A walk over a directory comes to an end: no way from it has more names than the longest. -/
theorem WellFormed.walks_sourcesBelow (ht : t.WellFormed) (extensions : List Text) (path : Text)
    (loc : Location) : t.Walks extensions path loc (t.sourcesBelow extensions path loc) := by
  obtain ⟨depth, hdepth⟩ : ∃ depth, ∀ names, (t.entry? (loc ++ names)).isSome → names.length ≤ depth := by
    refine ⟨(t.entries.map fun x => x.1.length).sum, fun names he => ?_⟩
    by_cases hn : names = []
    · simp [hn]
    · obtain ⟨e, he⟩ := Option.isSome_iff_exists.1 he
      have hm := (mem_entries_iff (by simp [hn])).2 he
      have hle := List.le_sum_of_mem (List.mem_map_of_mem (f := fun x => x.1.length) hm)
      rw [List.length_append] at hle
      omega
  induction depth generalizing path loc with
  | zero =>
    rw [ht.sourcesBelow_eq]
    refine .directory (fun name => t.sourcesBelow extensions (pathIn path name) (loc ++ [name]))
      fun name hm => ?_
    have he := (mem_subdirectories_iff.1 hm).2.1
    have hl := hdepth [name] (by rw [he]; rfl)
    exact absurd hl (by simp)
  | succ depth ih =>
    rw [ht.sourcesBelow_eq]
    refine .directory (fun name => t.sourcesBelow extensions (pathIn path name) (loc ++ [name]))
      fun name hm => ?_
    refine ih (pathIn path name) (loc ++ [name]) fun names he => ?_
    rw [← List.append_cons] at he
    exact Nat.le_of_succ_le_succ (hdepth (name :: names) he)

/-- **The walk over a directory ends, and finds exactly its source files.** -/
theorem WellFormed.walks_iff (ht : t.WellFormed) :
    t.Walks extensions path loc found ↔ found = t.sourcesBelow extensions path loc :=
  ⟨fun h => h.eq_sourcesBelow ht, fun h => h ▸ ht.walks_sourcesBelow extensions path loc⟩

/-! ### The order of the entries -/

/-- What stands at a location does not depend on the order in which the tree lists it. -/
theorem entry?_of_perm (h : u.entries.Perm t.entries) (loc : Location) : u.entry? loc = t.entry? loc := by
  by_cases hl : loc = []
  · rw [hl]
    rfl
  · refine Option.ext fun e => ?_
    rw [← mem_entries_iff hl, ← mem_entries_iff hl, h.mem_iff]

theorem walkNames_congr (h : ∀ l, u.entry? l = t.entry? l) (hh : u.host = t.host) (follow : Bool)
    (hops : Nat) (loc : Location) (names : List Text) :
    u.walkNames follow hops loc names = t.walkNames follow hops loc names := by
  fun_induction walkNames t follow hops loc names with
  | case1 hops loc => rw [walkNames, h]
  | case2 hops loc name rest reason hs => exact walkNames_refused (hh ▸ hs)
  | case3 hops loc rest hs ih => rw [walkNames_dot (hh ▸ hs), ih]
  | case4 hops loc rest hs _ ih => rw [walkNames_up (hh ▸ hs), ih]
  | case5 hops loc name rest hs hdot hup hlen => exact walkNames_long (hh ▸ hs) hdot hup hlen
  | case6 hops loc name hs hdot hup hlen next hn =>
    exact walkNames_free (hh ▸ hs) ⟨hdot, hup, hlen⟩ ((h _).trans hn)
  | case7 hops loc name rest hs hdot hup hlen next hn hrest =>
    have hu : u.entry? (loc ++ [name]) = none := (h _).trans hn
    simp only [walkNames_lookup (t := u) (hh ▸ hs) ⟨hdot, hup, hlen⟩, hu, if_neg hrest]
  | case8 hops loc name rest hs hdot hup hlen next hn ih =>
    rw [walkNames_directory (hh ▸ hs) ⟨hdot, hup, hlen⟩ ((h _).trans hn), ih]
  | case9 hops loc name hs hdot hup hlen next content hn =>
    exact walkNames_file (hh ▸ hs) ⟨hdot, hup, hlen⟩ ((h _).trans hn)
  | case10 hops loc name rest hs hdot hup hlen next content hn hrest =>
    exact walkNames_through_file (hh ▸ hs) ⟨hdot, hup, hlen⟩ ((h _).trans hn) hrest
  | case11 hops loc name rest hs hdot hup hlen next target hn hend =>
    exact walkNames_link_end (hh ▸ hs) ⟨hdot, hup, hlen⟩ ((h _).trans hn) hend
  | case12 loc name rest hs hdot hup hlen next target hn hend =>
    exact walkNames_no_hops (hh ▸ hs) ⟨hdot, hup, hlen⟩ ((h _).trans hn) hend
  | case13 loc name rest hs hdot hup hlen next target hn hend hops ih =>
    rw [walkNames_link (hh ▸ hs) ⟨hdot, hup, hlen⟩ ((h _).trans hn) hend]
    exact ih

/-- The trees hold the same, on the same host. -/
structure SameAs (u t : FileTree) : Prop where
  entries : u.entries.Perm t.entries
  workingDirectory : u.workingDirectory = t.workingDirectory
  host : u.host = t.host

namespace SameAs

theorem entry? (h : u.SameAs t) (loc : Location) : u.entry? loc = t.entry? loc :=
  entry?_of_perm h.entries loc

theorem locate (h : u.SameAs t) (path : Text) : u.locate path = t.locate path := by
  unfold FileTree.locate locateWith
  simp only [walkNames_congr h.entry? h.host, h.workingDirectory]

theorem countsAsFile (h : u.SameAs t) (path : Text) (e : Entry) :
    u.countsAsFile path e = t.countsAsFile path e := by
  unfold FileTree.countsAsFile isDirectory
  simp only [h.locate]

/-- The source files do not depend on the order in which a tree lists what it holds. -/
theorem sourceFiles (h : u.SameAs t) (extensions : List Text) (base : PathName) :
    u.sourceFiles extensions base = t.sourceFiles extensions base := by
  have hs (extensions : List Text) (path : Text) (loc : Location) :
      u.sourcesBelow extensions path loc = t.sourcesBelow extensions path loc := by
    refine (pairwise_sourcesBelow u extensions path loc).eq_of_mem_iff
      (pairwise_sourcesBelow t extensions path loc) fun names => ?_
    rw [mem_sourcesBelow_iff, mem_sourcesBelow_iff]
    have hc := comesTo_congr h.host path loc names
    refine exists_congr fun e => ⟨fun hs => ?_, fun hs => ?_⟩
    · exact ⟨hs.ne_nil, h.entry? _ ▸ hs.entry, h.countsAsFile _ e ▸ hs.counts, hs.chosen,
        hc ▸ hs.reached⟩
    · exact ⟨hs.ne_nil, (h.entry? _).trans hs.entry, (h.countsAsFile _ e).trans hs.counts, hs.chosen,
        hc.trans hs.reached⟩
  unfold FileTree.sourceFiles
  simp only [h.locate, hs]

theorem isTooDeep (h : u.SameAs t) (base : PathName) : u.isTooDeep base = t.isTooDeep base := by
  have hsub (path : Text) (loc : Location) : u.subdirectory? path loc = t.subdirectory? path loc := by
    funext x
    simp only [subdirectory?, h.countsAsFile, comesTo_congr h.host]
  unfold FileTree.isTooDeep
  simp only [h.locate, h.host, hsub, (h.entries.filterMap _).any_eq]

/-- **The walk does not depend on the order in which a tree lists what it holds.** -/
theorem walk (h : u.SameAs t) (extensions : List Text) (base : PathName) :
    u.walk extensions base = t.walk extensions base := by
  unfold FileTree.walk isFile holds
  rw [h.locate, h.isTooDeep, h.sourceFiles]

end SameAs

/-! ### What the walk yields -/

/-- Something stands at the location that is no directory, and no link by which its path leads to
one. -/
def HoldsFile (t : FileTree) (path : Text) (loc : Location) : Prop :=
  ∃ e, t.entry? loc = some e ∧ e ≠ .directory ∧
    ∀ target, e = .link target → ∀ d, t.locate path ≠ .ok (.taken d .directory)

/-- A directory stands at the location, or a link by which its path leads to one. -/
def HoldsDirectory (t : FileTree) (path : Text) (loc : Location) : Prop :=
  t.entry? loc = some .directory ∨
    (∃ target, t.entry? loc = some (.link target)) ∧ ∃ d, t.locate path = .ok (.taken d .directory)

theorem holdsFile_iff :
    t.HoldsFile path loc ↔ ∃ e, t.entry? loc = some e ∧ t.countsAsFile path e := by
  refine exists_congr fun e => and_congr_right fun _ => ?_
  cases e with
  | file content => simp [countsAsFile]
  | directory => simp [countsAsFile]
  | link target =>
    rw [countsAsFile, Bool.not_eq_true', ← Bool.not_eq_true, isDirectory_iff, not_exists]
    simp

theorem holdsDirectory_iff :
    t.HoldsDirectory path loc ↔ ∃ e, t.entry? loc = some e ∧ t.countsAsFile path e = false := by
  constructor
  · rintro (he | ⟨⟨target, he⟩, hd⟩)
    · exact ⟨_, he, rfl⟩
    · exact ⟨_, he, by rw [countsAsFile, isDirectory_iff.2 hd]; rfl⟩
  · rintro ⟨e, he, hc⟩
    cases e with
    | file content => cases hc
    | directory => exact .inl he
    | link target =>
      rw [countsAsFile, Bool.not_eq_false'] at hc
      exact .inr ⟨⟨target, he⟩, isDirectory_iff.1 hc⟩

/-- The names of directories that are not entered, in small letters. -/
def excludedNames : List Text := ["node_modules".toList, ".git".toList]

theorem isExcludedDirectory_iff : isExcludedDirectory name ↔ name.map Char.toLower ∈ excludedNames := by
  have hplain : ∀ w ∈ excludedNames, ∀ c ∈ w, c.toNat < 128 ∧ c ≠ 'k' := by
    simp [excludedNames]
  rw [isExcludedDirectory, List.contains_iff_mem, ← excludedNames]
  constructor
  · intro hm
    rwa [(Text.lower_eq_iff_of_ascii (hplain _ hm)).1 rfl]
  · intro hm
    rwa [(Text.lower_eq_iff_of_ascii (hplain _ hm)).2 rfl]

theorem any_isExcludedDirectory_eq_false_iff : above.any isExcludedDirectory = false ↔
    ∀ directory ∈ above, directory.map Char.toLower ∉ excludedNames := by
  simp only [List.any_eq_false, isExcludedDirectory_iff]

/-- The way along the names is open to the walk over a directory: the directory and all those on the
way can be listed, and those that are not the last can be searched. -/
structure Open (t : FileTree) (path : Text) (loc : Location) (above : List Text) : Prop where
  listed : ∀ front, front <+: above → t.lists (pathBelow path front) (loc ++ front)
  searched : ∀ front name, front ++ [name] <+: above → t.host.refuses .search (loc ++ front) = none

theorem open_nil_iff : t.Open path loc [] ↔ t.lists path loc := by
  constructor
  · intro h
    have hl := h.listed [] List.prefix_rfl
    rwa [List.append_nil] at hl
  · intro h
    refine ⟨fun front hf => ?_, fun front name hf => ?_⟩
    · obtain rfl := List.prefix_nil.1 hf
      rwa [List.append_nil]
    · exact absurd (List.prefix_nil.1 hf) (by simp)

theorem open_cons_iff : t.Open path loc (name :: above) ↔
    (t.lists path loc ∧ t.host.refuses .search loc = none) ∧
      t.Open (pathIn path name) (loc ++ [name]) above := by
  constructor
  · intro h
    have hl := h.listed [] List.nil_prefix
    have hs := h.searched [] name (by simp)
    rw [List.append_nil] at hl hs
    refine ⟨⟨hl, hs⟩, fun front hf => ?_, fun front other hf => ?_⟩
    · rw [← List.append_cons]
      exact h.listed (name :: front) (List.cons_prefix_cons.2 ⟨rfl, hf⟩)
    · rw [← List.append_cons]
      exact h.searched (name :: front) other (List.cons_prefix_cons.2 ⟨rfl, hf⟩)
  · rintro ⟨⟨hl, hs⟩, h⟩
    refine ⟨fun front hf => ?_, fun front other hf => ?_⟩
    · cases front with
      | nil => rwa [List.append_nil]
      | cons x front =>
        obtain ⟨rfl, hf'⟩ := List.cons_prefix_cons.1 hf
        rw [List.append_cons]
        exact h.listed front hf'
    · cases front with
      | nil => rwa [List.append_nil]
      | cons x front =>
        obtain ⟨rfl, hf'⟩ := List.cons_prefix_cons.1 hf
        rw [List.append_cons]
        exact h.searched front other hf'

/-- The walk comes to what stands in the last directory of an open way. -/
theorem comesTo_concat_iff : t.comesTo path loc (above ++ [name]) ↔ t.Open path loc above := by
  induction above generalizing path loc with
  | nil => exact open_nil_iff.symm
  | cons x above ih =>
    rw [List.cons_append, comesTo_cons_iff (by simp), ih, open_cons_iff]

theorem exists_isSource_iff : (∃ e, t.IsSource extensions path loc names e) ↔
    ∃ above name, names = above ++ [name] ∧ t.HoldsFile (pathBelow path names) (loc ++ names) ∧
      (∀ directory ∈ above, directory.map Char.toLower ∉ excludedNames) ∧ t.Open path loc above ∧
      matchesExtension extensions name := by
  have chosen_iff {above : List Text} {name : Text} :
      (!(above ++ [name]).dropLast.any isExcludedDirectory &&
          matchesExtension extensions ((above ++ [name]).getLast?.getD [])) = true ↔
        (∀ directory ∈ above, directory.map Char.toLower ∉ excludedNames) ∧
          matchesExtension extensions name := by
    rw [List.dropLast_concat, List.getLast?_concat, Option.getD_some, Bool.and_eq_true,
      Bool.not_eq_true', any_isExcludedDirectory_eq_false_iff]
  simp only [holdsFile_iff]
  constructor
  · rintro ⟨e, hn, he, hc, hch, hr⟩
    obtain ⟨above, name, rfl⟩ := (List.eq_nil_or_concat' names).resolve_left hn
    obtain ⟨hx, hm⟩ := chosen_iff.1 hch
    exact ⟨above, name, rfl, ⟨e, he, hc⟩, hx, comesTo_concat_iff.1 hr, hm⟩
  · rintro ⟨above, name, rfl, ⟨e, he, hc⟩, hx, ho, hm⟩
    exact ⟨e, by simp, he, hc, chosen_iff.2 ⟨hx, hm⟩, comesTo_concat_iff.2 ho⟩

/-- The walk comes to a directory below the one it goes over, or to a link to one. -/
structure ComesToDirectory (t : FileTree) (path : Text) (loc : Location) (above : List Text)
    (name : Text) : Prop where
  holds : t.HoldsDirectory (pathBelow path (above ++ [name])) (loc ++ (above ++ [name]))
  included : ∀ directory ∈ above ++ [name], directory.map Char.toLower ∉ excludedNames
  isOpen : t.Open path loc above

theorem mem_subdirectory?_iff : names ∈ t.entries.filterMap (t.subdirectory? path loc) ↔
    ∃ above name, names = above ++ [name] ∧ t.ComesToDirectory path loc above name := by
  have eq_some_iff {x : Location × Entry} : t.subdirectory? path loc x = some names ↔
      (names ≠ [] ∧ x.1 = loc ++ names) ∧ t.countsAsFile (pathBelow path names) x.2 = false ∧
        names.any isExcludedDirectory = false ∧ t.comesTo path loc names := by
    unfold subdirectory?
    constructor
    · intro h
      split at h
      · next names' hn =>
        split at h
        · next hc =>
          cases h
          simp only [Bool.and_eq_true, Bool.not_eq_true'] at hc
          exact ⟨namesBelow?_eq_some_iff.1 hn, hc.1.1, hc.1.2, hc.2⟩
        · cases h
      · cases h
    · rintro ⟨hn, hc, hx, hr⟩
      rw [namesBelow?_eq_some_iff.2 hn]
      simp [hc, hx, hr]
  simp only [List.mem_filterMap, eq_some_iff]
  constructor
  · rintro ⟨⟨_, e⟩, hm, ⟨hn, rfl⟩, hc, hx, hr⟩
    obtain ⟨above, name, rfl⟩ := (List.eq_nil_or_concat' names).resolve_left hn
    have he := (mem_entries_iff (by simp)).1 hm
    exact ⟨above, name, rfl, holdsDirectory_iff.2 ⟨e, he, hc⟩,
      any_isExcludedDirectory_eq_false_iff.1 hx, comesTo_concat_iff.1 hr⟩
  · rintro ⟨above, name, rfl, hh, hx, ho⟩
    obtain ⟨e, he, hc⟩ := holdsDirectory_iff.1 hh
    exact ⟨(loc ++ (above ++ [name]), e), (mem_entries_iff (by simp)).2 he, ⟨by simp, rfl⟩, hc,
      any_isExcludedDirectory_eq_false_iff.2 hx, comesTo_concat_iff.2 ho⟩

/-- Directories are nested too deep if the walk comes to one behind too many names. -/
theorem isTooDeep_eq_false_iff (hb : t.locate base.toText = .ok (.taken loc .directory)) :
    t.isTooDeep base = false ↔ ∀ above name, t.ComesToDirectory base.toText loc above name →
      ∀ most ∈ t.host.depths.directories, above.length < most := by
  unfold isTooDeep
  simp only [hb, List.any_eq_false, mem_subdirectory?_iff]
  cases t.host.depths.directories with
  | none => simp
  | some most =>
    simp only [Option.any_some, decide_eq_true_eq, Nat.not_lt, Option.mem_some_iff, forall_eq']
    constructor
    · intro h above name hc
      have hl := h _ ⟨above, name, rfl, hc⟩
      rwa [List.length_append, List.length_singleton] at hl
    · rintro h _ ⟨above, name, rfl, hc⟩
      have hl := h above name hc
      rwa [List.length_append, List.length_singleton]

end FileTree

variable {t : FileTree} {loc : Location} {base : PathName}

/-- **The walk over a directory** comes to an end. Its source files are the entries below the
directory that are no directories nor links to one, whose names the extensions choose, which no
excluded directory holds, and to which the way is open, each of them once: the files of a directory
in the order of their names, and then those of its subdirectories in theirs. The walk yields them,
in whatever order the tree lists its entries, unless it comes to a directory that is nested more
deeply than calls can be. -/
theorem walk_of_directory (extensions : List Text) (ht : t.WellFormed)
    (hb : t.locate base.toText = .ok (.taken loc .directory)) :
    (∃ found : List (List Text),
      (∀ other, t.Walks (normalExtensions extensions) base.toText loc other ↔ other = found) ∧
        found.Pairwise VisitedBefore ∧
        t.sourceFiles extensions base = found.map fun names => ⟨base.root, base.names ++ names⟩) ∧
      (t.sourceFiles extensions base).Nodup ∧
      (∀ file, file ∈ t.sourceFiles extensions base ↔ ∃ above name,
        file = ⟨base.root, base.names ++ (above ++ [name])⟩ ∧
          t.HoldsFile (FileTree.pathBelow base.toText (above ++ [name])) (loc ++ (above ++ [name])) ∧
          (∀ directory ∈ above, directory.map Char.toLower ∉ FileTree.excludedNames) ∧
          t.Open base.toText loc above ∧ matchesExtension (normalExtensions extensions) name) ∧
      (t.walk extensions base = .ok (t.sourceFiles extensions base) ∨
        t.walk extensions base = .error ⟨.tooDeep, base.toText⟩) ∧
      (t.walk extensions base = .ok (t.sourceFiles extensions base) ↔
        ∀ above name, t.ComesToDirectory base.toText loc above name →
          ∀ most ∈ t.host.depths.directories, above.length < most) ∧
      ∀ u : FileTree, u.SameAs t → u.walk extensions base = t.walk extensions base := by
  have hs : t.sourceFiles extensions base =
      (t.sourcesBelow (normalExtensions extensions) base.toText loc).map
        fun names => ⟨base.root, base.names ++ names⟩ := by
    unfold FileTree.sourceFiles
    simp only [hb]
  have hordered :=
    FileTree.pairwise_sourcesBelow t (normalExtensions extensions) base.toText loc
  refine ⟨⟨_, fun other => ht.walks_iff, hordered, hs⟩, ?_, fun file => ?_, ?_, ?_, fun u hu => ?_⟩
  · rw [hs]
    refine List.Nodup.map (fun a b hab => ?_) (hordered.imp fun h => ?_)
    · exact List.append_cancel_left (PathName.mk.inj hab).2
    · rintro rfl
      exact irrefl _ h
  · rw [hs, List.mem_map]
    simp only [FileTree.mem_sourcesBelow_iff, FileTree.exists_isSource_iff]
    constructor
    · rintro ⟨_, ⟨above, name, rfl, h⟩, rfl⟩
      exact ⟨above, name, rfl, h⟩
    · rintro ⟨above, name, rfl, h⟩
      exact ⟨_, ⟨above, name, rfl, h⟩, rfl⟩
  · unfold FileTree.walk FileTree.isFile FileTree.holds
    simp only [hb, bind, Except.bind]
    cases t.isTooDeep base with
    | true => exact .inr rfl
    | false => exact .inl rfl
  · rw [FileTree.walk_eq_ok_iff, FileTree.isTooDeep_eq_false_iff hb]
    simp [hb]
  · exact hu.walk extensions base

/-! ### A directory with excluded names and links -/

namespace LinkedSources

set_option maxRecDepth 100000

/-- A directory with subdirectories of which one is excluded, a file with an excluded name, a link
that leads nowhere and a link back to the directory. -/
def entries : List (Location × Entry) :=
  [(["p".toList], .directory), (["p".toList, "src".toList], .directory),
    (["p".toList, "src".toList, "z.c".toList], .file []),
    (["p".toList, "src".toList, "node_modules".toList], .file []),
    (["p".toList, "src".toList, "back.c".toList], .link "..".toList),
    (["p".toList, "Node_Modules".toList], .directory),
    (["p".toList, "Node_Modules".toList, "x.c".toList], .file []),
    (["p".toList, "gone.c".toList], .link "a".toList),
    (["p".toList, "b.C".toList], .file [])]

def tree : FileTree := ⟨entries, [], {}, by decide⟩

def directory : PathName := .absolute ["p".toList]

def chosen : List Text := [" C".toList, "node_modules".toList]

/-- What the walk finds in the directory. -/
def sources : List PathName :=
  [.absolute ["p".toList, "b.C".toList], .absolute ["p".toList, "gone.c".toList],
    .absolute ["p".toList, "src".toList, "node_modules".toList],
    .absolute ["p".toList, "src".toList, "z.c".toList]]

theorem wellFormed : tree.WellFormed := FileTree.wellFormed_of_entries (by decide) (by decide)

theorem locate_directory :
    tree.locate directory.toText = .ok (.taken ["p".toList] .directory) := by
  cbv

/-- A link is a source file if its path does not lead to a directory. -/
theorem sourceNames?_link {names : List Text} {isDirectory : Bool} (loc : Location) (target : Text)
    (hn : FileTree.namesBelow? ["p".toList] loc = some names)
    (hd : tree.isDirectory (FileTree.pathBelow directory.toText names) = isDirectory) :
    tree.sourceNames? (normalExtensions chosen) directory.toText ["p".toList] (loc, .link target) =
      if !isDirectory && !names.dropLast.any isExcludedDirectory &&
          matchesExtension (normalExtensions chosen) (names.getLast?.getD []) &&
            tree.comesTo directory.toText ["p".toList] names then
        some names
      else none := by
  simp only [FileTree.sourceNames?, hn, FileTree.countsAsFile, hd]

theorem sourceFiles : tree.sourceFiles chosen directory = sources := by
  have hback := sourceNames?_link ["p".toList, "src".toList, "back.c".toList] "..".toList rfl
    (by cbv : _ = true)
  have hgone := sourceNames?_link ["p".toList, "gone.c".toList] "a".toList rfl (by cbv : _ = false)
  have hfound :
      tree.entries.filterMap
          (tree.sourceNames? (normalExtensions chosen) directory.toText ["p".toList]) =
        [["src".toList, "z.c".toList], ["src".toList, "node_modules".toList], ["gone.c".toList],
          ["b.C".toList]] := by
    have hentries : tree.entries = entries := rfl
    simp only [hentries, entries, List.filterMap_cons, List.filterMap_nil, hback, hgone]
    decide +kernel
  unfold FileTree.sourceFiles FileTree.sourcesBelow
  simp only [locate_directory, hfound]
  cbv

end LinkedSources

theorem walk_of_directory_linked :
    LinkedSources.tree.WellFormed ∧
      LinkedSources.tree.locate LinkedSources.directory.toText =
        .ok (.taken ["p".toList] .directory) ∧
      (∀ u : FileTree, u.SameAs LinkedSources.tree →
        u.walk LinkedSources.chosen LinkedSources.directory = .ok LinkedSources.sources) ∧
      LinkedSources.tree.HoldsFile "/p/gone.c".toList ["p".toList, "gone.c".toList] ∧
      ¬LinkedSources.tree.HoldsFile "/p/src/back.c".toList
        ["p".toList, "src".toList, "back.c".toList] := by
  have ht := LinkedSources.wellFormed
  have hb := LinkedSources.locate_directory
  have hs := LinkedSources.sourceFiles
  obtain ⟨-, -, hmem, -, hyields, hsame⟩ := walk_of_directory LinkedSources.chosen ht hb
  have hwalk := hyields.2 fun _ _ _ most hm => nomatch hm
  refine ⟨ht, hb, fun u hu => (hsame u hu).trans (hwalk.trans (by rw [hs])), ?_, fun hback => ?_⟩
  · have hgone : PathName.absolute ["p".toList, "gone.c".toList] ∈
        LinkedSources.tree.sourceFiles LinkedSources.chosen LinkedSources.directory := by
      rw [hs]
      decide
    obtain ⟨above, name, hf, hholds, -⟩ := (hmem _).1 hgone
    have hnames : ["p".toList, "gone.c".toList] = ["p".toList] ++ (above ++ [name]) :=
      (PathName.mk.inj hf).2
    obtain ⟨rfl, hname⟩ | ⟨x, rest, hcons⟩ : above = [] ∧ name = "gone.c".toList ∨
        ∃ x rest, above = x :: rest := by
      cases above with
      | nil => exact .inl ⟨rfl, (List.cons.inj (List.cons.inj hnames).2).1.symm⟩
      | cons x rest => exact .inr ⟨x, rest, rfl⟩
    · subst hname
      exact hholds
    · subst hcons
      have hlen := congrArg List.length hnames
      simp at hlen
  · have hopen : LinkedSources.tree.Open "/p".toList ["p".toList] ["src".toList] :=
      FileTree.comesTo_concat_iff.1 (show LinkedSources.tree.comesTo "/p".toList ["p".toList]
        (["src".toList] ++ ["back.c".toList]) = true by decide +kernel)
    have hm := (hmem (.absolute ["p".toList, "src".toList, "back.c".toList])).2
      ⟨["src".toList], "back.c".toList, rfl, hback, by simp [FileTree.excludedNames], hopen, by decide⟩
    rw [hs] at hm
    exact absurd hm (by decide)

/-! ### A directory whose path is nearly too long -/

namespace Detour

set_option maxRecDepth 100000

/-- The name of the subdirectory. -/
def long : Text := List.replicate 250 'e'

/-- A directory with a file and a subdirectory, in which there is another file. -/
def tree : FileTree :=
  ⟨[(["d".toList], .directory), (["d".toList, "x.c".toList], .file []),
    (["d".toList, long], .directory), (["d".toList, long, "y.c".toList], .file [])], [], {},
    by decide +kernel⟩

/-- Up from the directory and back again. -/
def turn : List Text := ["..".toList, "d".toList]

/-- The path of the directory takes so many turns that the path of its subdirectory is too long. -/
def directory : PathName := ⟨[], "d".toList :: (List.replicate 780 turn).flatten⟩

/-- The names that lead from the directory to the file in the subdirectory. -/
def behind : List Text := [long, "y.c".toList]

theorem wellFormed : tree.WellFormed := FileTree.wellFormed_of_entries (by decide) (by decide)

/-- Every turn leads back to the directory. -/
theorem walkNames_turns (turns hops : Nat) :
    tree.walkNames true hops ["d".toList] (List.replicate turns turn).flatten =
      .ok (.taken ["d".toList] .directory) := by
  induction turns with
  | zero => rw [List.replicate_zero, List.flatten_nil, FileTree.walkNames]; rfl
  | succ turns ih =>
    rw [List.replicate_succ, List.flatten_cons]
    exact (FileTree.walkNames_up rfl).trans
      ((FileTree.walkNames_directory rfl ⟨by decide, by decide, by decide⟩ rfl).trans ih)

theorem spelled : directory.Spelled := by
  refine ⟨List.forall_mem_nil _, fun name hm => ?_⟩
  have hturn : ∀ name ∈ turn, name ≠ [] ∧ '/' ∉ name := by decide
  rcases List.mem_cons.1 hm with rfl | hm
  · decide
  · obtain ⟨names, hn, hm⟩ := List.mem_flatten.1 hm
    exact hturn name (List.eq_of_mem_replicate hn ▸ hm)

theorem length_directory : (Utf8.encode directory.toText).length = 3901 := by decide +kernel

theorem locate_directory : tree.locate directory.toText = .ok (.taken ["d".toList] .directory) := by
  refine FileTree.locateWith_eq_ok_iff.2 ⟨by decide +kernel, PathName.toText_ne_nil spelled, ?_, ?_⟩
  · rw [length_directory]
    decide
  · rw [PathName.steps_toText spelled (List.cons_ne_nil _ _), if_neg (by decide +kernel)]
    exact (FileTree.walkNames_directory rfl ⟨by decide, by decide, by decide⟩ rfl).trans
      (walkNames_turns 780 _)

theorem lists_subdirectory :
    tree.lists (FileTree.pathIn directory.toText long) ["d".toList, long] = false := by
  have hlong : FileTree.maxPathBytes <
      (Utf8.encode (FileTree.pathIn directory.toText long)).length := by
    have hlong : (Utf8.encode long).length = 250 := by decide +kernel
    have hslash : (Utf8.encode ('/' :: long)).length = 251 := by decide +kernel
    unfold FileTree.pathIn
    split <;> rw [Utf8.encode_append, List.length_append, length_directory]
    · rw [hlong]
      decide
    · rw [hslash]
      decide
  rw [FileTree.lists, decide_eq_false (Nat.not_le.2 hlong)]
  rfl

end Detour

/-- The walk comes to an end without a chosen file in a directory that is not excluded, as the path of
this directory cannot be listed. -/
theorem source_behind_long_path_not_found :
    Detour.tree.WellFormed ∧
      Detour.tree.locate Detour.directory.toText = .ok (.taken ["d".toList] .directory) ∧
      Detour.tree.HoldsFile (FileTree.pathBelow Detour.directory.toText Detour.behind)
        (["d".toList] ++ Detour.behind) ∧
      Detour.long ∉ FileTree.excludedNames ∧
      matchesExtension (normalExtensions ["c".toList]) "y.c".toList ∧
      ∃ found, Detour.tree.walk ["c".toList] Detour.directory = .ok found ∧
        ⟨Detour.directory.root, Detour.directory.names ++ Detour.behind⟩ ∉ found := by
  have hb := Detour.locate_directory
  have hwalk : Detour.tree.walk ["c".toList] Detour.directory =
      .ok (Detour.tree.sourceFiles ["c".toList] Detour.directory) :=
    FileTree.walk_eq_ok_iff.2 ⟨fun err he => (nomatch hb.symm.trans he),
      FileTree.isTooDeep_of_unbounded rfl _, rfl⟩
  refine ⟨Detour.wellFormed, hb, ⟨.file [], by decide +kernel, by simp, by simp⟩,
    by decide +kernel, by decide,
    _, hwalk, fun hm => ?_⟩
  rcases FileTree.mem_sourceFiles_iff.1 hm with ⟨_, _, hb', -⟩ | ⟨loc, names, e, hb', hs, hf⟩
  · cases hb.symm.trans hb'
  · cases hb.symm.trans hb'
    have hnames : Detour.behind = names := by simpa using hf
    subst hnames
    have hr := ((FileTree.comesTo_cons_iff (by decide)).1 hs.reached).2
    cases Detour.lists_subdirectory.symm.trans hr

end CommentTasks
