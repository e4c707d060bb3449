import CommentTasks.Proofs.FileTree.Growth
import CommentTasks.Source.Scan

/-!
# Source files of a tree that has grown

A source file of a tree that has grown was a source file before and has the bytes that it had, or it
leads to a file that was written. So the tasks of a project are tasks that it had, or they are read
from what was written.
-/

namespace CommentTasks.FileTree

variable {t u : FileTree} {l loc : Location} {extensions : List Text} {base file : PathName}
  {names : List Text} {path : Text}

/-! ### What the source files are -/

/-- The names lead from a directory, which has a path, to a file that the extensions choose and that
the walk over the directory comes to. -/
structure IsSource (t : FileTree) (extensions : List Text) (path : Text) (loc : Location)
    (names : List Text) (e : Entry) : Prop where
  ne_nil : names ≠ []
  entry : t.entry? (loc ++ names) = some e
  counts : t.countsAsFile (pathBelow path names) e
  chosen : (!names.dropLast.any isExcludedDirectory &&
    matchesExtension extensions (names.getLast?.getD [])) = true
  reached : t.comesTo path loc names

theorem namesBelow?_eq_some_iff {other : Location} :
    namesBelow? loc other = some names ↔ names ≠ [] ∧ other = loc ++ names := by
  unfold namesBelow?
  constructor
  · intro h
    split at h
    · next name rest hp =>
      cases h
      exact ⟨List.cons_ne_nil _ _, (List.isPrefixOf?_eq_some_iff_append_eq.1 hp).symm⟩
    · cases h
  · rintro ⟨hn, rfl⟩
    obtain ⟨name, rest, rfl⟩ := List.exists_cons_of_ne_nil hn
    rw [List.isPrefixOf?_eq_some_iff_append_eq.2 rfl]

theorem sourceNames?_eq_some_iff {x : Location × Entry} :
    t.sourceNames? extensions path loc x = some names ↔
      (names ≠ [] ∧ x.1 = loc ++ names) ∧ t.countsAsFile (pathBelow path names) x.2 ∧
        (!names.dropLast.any isExcludedDirectory &&
          matchesExtension extensions (names.getLast?.getD [])) = true ∧
        t.comesTo path loc names := by
  unfold sourceNames?
  constructor
  · intro h
    split at h
    · next names' hn =>
      split at h
      · next hc =>
        cases h
        rw [Bool.and_eq_true, Bool.and_assoc, Bool.and_eq_true] at hc
        exact ⟨namesBelow?_eq_some_iff.1 hn, hc.1.1, hc.1.2, hc.2⟩
      · cases h
    · cases h
  · rintro ⟨hn, hc, hch, hr⟩
    rw [namesBelow?_eq_some_iff.2 hn]
    refine if_pos ?_
    rw [Bool.and_eq_true, Bool.and_assoc, Bool.and_eq_true]
    exact ⟨⟨hc, hch⟩, hr⟩

theorem mem_sourcesBelow_iff :
    names ∈ t.sourcesBelow extensions path loc ↔ ∃ e, t.IsSource extensions path loc names e := by
  rw [sourcesBelow, List.mem_mergeSort, List.mem_filterMap]
  simp only [sourceNames?_eq_some_iff]
  constructor
  · rintro ⟨⟨_, e⟩, hm, ⟨hn, rfl⟩, hc, hch, hr⟩
    exact ⟨e, hn, (mem_entries_iff (by simp [hn])).1 hm, hc, hch, hr⟩
  · rintro ⟨e, hs⟩
    have hm := (mem_entries_iff (by simp [hs.ne_nil])).2 hs.entry
    exact ⟨(loc ++ names, e), hm, ⟨hs.ne_nil, rfl⟩, hs.counts, hs.chosen, hs.reached⟩

/-- **The source files of a path**: the file that it leads to, or those below the directory. -/
theorem mem_sourceFiles_iff : file ∈ t.sourceFiles extensions base ↔
    (∃ loc content, t.locate base.toText = .ok (.taken loc (.file content)) ∧
      matchesExtension (normalExtensions extensions) base.name ∧ file = base) ∨
    ∃ loc names e, t.locate base.toText = .ok (.taken loc .directory) ∧
      t.IsSource (normalExtensions extensions) base.toText loc names e ∧
      file = ⟨base.root, base.names ++ names⟩ := by
  unfold sourceFiles
  simp only
  split
  · next loc content hb => simp [hb]
  · next loc hb =>
    simp only [hb, List.mem_map, mem_sourcesBelow_iff]
    constructor
    · rintro ⟨names, ⟨e, hs⟩, rfl⟩
      exact .inr ⟨loc, names, e, rfl, hs, rfl⟩
    · rintro (⟨_, _, h, -⟩ | ⟨_, names, e, h, hs, rfl⟩)
      · cases h
      · cases h
        exact ⟨names, ⟨e, hs⟩, rfl⟩
  · next hf hd =>
    simp only [List.not_mem_nil, false_iff, not_or, not_exists, not_and]
    exact ⟨fun loc content h => absurd h (hf loc content), fun loc _ _ h => absurd h (hd loc)⟩

theorem exists_locate_of_sourceFiles (h : t.sourceFiles extensions base ≠ []) :
    ∃ place, t.locate base.toText = .ok place := by
  obtain ⟨file, hf⟩ := List.exists_mem_of_ne_nil _ h
  rcases mem_sourceFiles_iff.1 hf with ⟨loc, content, hp, -⟩ | ⟨loc, _, _, hp, -⟩
  · exact ⟨_, hp⟩
  · exact ⟨_, hp⟩

/-! ### Source files that were there -/

section

variable {written : List Location} {bytes : Bytes}

/-- **A file of a tree that has grown is the file that it was, or one that was written**, if it was
no link that led through something missing. -/
theorem Grows.locate_file (h : Grows written t u) (ht : t.WellFormed) {path : Text}
    (hp : ∀ err, t.locate path = .error err → err.problem ≠ .noEntry)
    (hf : u.locate path = .ok (.taken l (.file bytes))) :
    (∃ place, t.locate path = .ok place ∧ place.location = l) ∧
      (l ∈ written ∨ t.locate path = .ok (.taken l (.file bytes))) := by
  cases hpath : t.locate path with
  | error err =>
    -- what is refused stays refused
    cases (h.locateWith_error hpath (hp err hpath)).symm.trans hf
  | ok place =>
    obtain ⟨place', hplace', hl⟩ := h.locateWith hpath
    cases hplace'.symm.trans hf
    obtain rfl : l = place.location := hl
    have hu := entry?_of_locateWith_file hf
    refine ⟨⟨place, rfl, rfl⟩, ?_⟩
    rcases h.entry?_cases place.location with he | ⟨-, hd⟩ | ⟨hw, -⟩
    · right
      rw [ht.eq_taken hpath (he.symm.trans hu)]
      rfl
    · cases hu.symm.trans hd
    · exact .inl hw

/-- A path to a directory leads to it still. -/
theorem Grows.locate_directory (h : Grows written t u) (ht : t.WellFormed) (hu : u.WellFormed)
    {path : Text} (hp : t.locate path = .ok (.taken loc .directory)) :
    u.locate path = .ok (.taken loc .directory) := by
  obtain ⟨place, hplace, hl⟩ := h.locateWith hp
  have ht' := ht.entry?_of_taken hp
  have he : u.entry? place.location = some .directory := by
    rw [hl]
    rcases h.entry?_cases loc with he | ⟨hn, -⟩ | ⟨-, hw | ⟨content, hw⟩, -⟩
    · exact he.trans ht'
    · cases hn.symm.trans ht'
    · cases hw.symm.trans ht'
    · cases hw.symm.trans ht'
  rw [locate, hplace, hu.eq_taken hplace he, hl]
  rfl

/-- A path to a file leads to a file still. -/
theorem Grows.locate_of_file (h : Grows written t u) (ht : t.WellFormed) (hu : u.WellFormed)
    {path : Text} {content : Bytes} (hp : t.locate path = .ok (.taken loc (.file content))) :
    ∃ content', u.locate path = .ok (.taken loc (.file content')) := by
  obtain ⟨place, hplace, hl⟩ := h.locateWith hp
  have ht' := ht.entry?_of_taken hp
  have he : ∃ content', u.entry? place.location = some (.file content') := by
    rw [hl]
    rcases h.entry?_cases loc with he | ⟨hn, -⟩ | ⟨-, -, he⟩
    · exact ⟨content, he.trans ht'⟩
    · cases hn.symm.trans ht'
    · exact he
  obtain ⟨content', he⟩ := he
  refine ⟨content', ?_⟩
  rw [locate, hplace, hu.eq_taken hplace he, hl]
  rfl

/-- What the walk comes to is up to the host. -/
theorem comesTo_congr (h : u.host = t.host) (path : Text) (loc : Location) (names : List Text) :
    u.comesTo path loc names = t.comesTo path loc names := by
  fun_induction comesTo t path loc names with
  | case1 => rfl
  | case2 path loc name => simp only [comesTo, lists, h]
  | case3 path loc name rest hrest ih =>
    rw [comesTo.eq_3 u path loc name rest hrest, ih]
    simp only [lists, h]

/-- What counts as a file counted as one, or it was written where nothing stood. -/
theorem Grows.isSource (h : Grows written t u) (ht : t.WellFormed) (hu : u.WellFormed) {e : Entry}
    (hs : u.IsSource extensions path loc names e) :
    (∃ e', t.IsSource extensions path loc names e') ∨
      (loc ++ names ∈ written ∧ t.entry? (loc ++ names) = none ∧ ∃ content, e = .file content) := by
  have old {e' : Entry} (he : t.entry? (loc ++ names) = some e')
      (hc : t.countsAsFile (pathBelow path names) e') :
      ∃ e', t.IsSource extensions path loc names e' :=
    ⟨e', hs.ne_nil, he, hc, hs.chosen, comesTo_congr h.host path loc names ▸ hs.reached⟩
  rcases h.entry?_cases (loc ++ names) with he | ⟨-, hd⟩ | ⟨hw, hn | ⟨_, hf⟩, content, he⟩
  · -- a link to no directory did not lead to one before
    refine .inl (old (he.symm.trans hs.entry) ?_)
    have hc := hs.counts
    cases e with
    | file content => rfl
    | directory => cases hc
    | link target =>
      simp only [countsAsFile, Bool.not_eq_true'] at hc ⊢
      rw [Bool.eq_false_iff] at hc ⊢
      intro hd
      obtain ⟨d, hd⟩ := isDirectory_iff.1 hd
      exact hc (isDirectory_iff.2 ⟨d, h.locate_directory ht hu hd⟩)
  · have hc := hs.counts
    cases hs.entry.symm.trans hd
    cases hc
  · exact .inr ⟨hw, hn, content, Option.some.inj (hs.entry.symm.trans he)⟩
  · exact .inl (old hf rfl)

/-- A file below a directory that a path leads to is found by the names behind the path. -/
theorem WellFormed.eq_of_locate_below (ht : t.WellFormed) (hb : base.Spelled) {content : Bytes}
    (hbase : t.locate base.toText = .ok (.taken loc .directory)) (hn : names ≠ [])
    (he : t.entry? (loc ++ names) = some (.file content)) {place : Place}
    (hf : t.locate (PathName.toText ⟨base.root, base.names ++ names⟩) = .ok place) :
    place = .taken (loc ++ names) (.file content) := by
  have hfile : PathName.Spelled ⟨base.root, base.names ++ names⟩ := by
    refine ⟨hb.root, fun name hm => ?_⟩
    rcases List.mem_append.1 hm with hm | hm
    · exact hb.names name hm
    · have hname := ht.names he name (List.mem_append_right _ hm)
      exact ⟨hname.ne_nil, hname.slash_not_mem⟩
  have hroot : ((PathName.toText ⟨base.root, base.names ++ names⟩).head? = some '/') =
      (base.toText.head? = some '/') :=
    propext ((PathName.head?_toText hfile).trans (PathName.head?_toText hb).symm)
  obtain ⟨-, -, -, hw⟩ := locateWith_eq_ok_iff.1 hbase
  obtain ⟨-, -, -, hwf⟩ := locateWith_eq_ok_iff.1 hf
  rw [PathName.steps_toText hfile (by simp [hn])] at hwf
  simp only [hroot] at hwf
  have hd := ht.entry?_of_taken hbase
  -- the way along the names of the base comes to the directory
  obtain ⟨hops, hon⟩ : ∃ hops, ∀ more,
      t.walkNames true maxLinks (if base.toText.head? = some '/' then [] else t.workingDirectory)
        (base.names ++ more) = t.walkNames true hops loc more := by
    by_cases hbn : base.names = []
    · rw [PathName.steps_toText_of_names_eq_nil hb hbn] at hw
      rw [walkNames_dot (search_of_walkNames hw)] at hw
      have hw' := walkNames_append hd hw
      rwa [hbn]
    · rw [PathName.steps_toText hb hbn] at hw
      exact walkNames_append hd hw
  rw [hon] at hwf
  exact ht.walkNames_below he hn hwf

/-- **A source file of a tree that has grown was one, or it was written where nothing stood**, if
there were any source files. -/
theorem Grows.mem_sourceFiles (h : Grows written t u) (ht : t.WellFormed) (hu : u.WellFormed)
    (hb : base.Spelled) (hne : t.sourceFiles extensions base ≠ [])
    (hfile : file ∈ u.sourceFiles extensions base)
    (hf : u.locate file.toText = .ok (.taken l (.file bytes))) :
    file ∈ t.sourceFiles extensions base ∨ (l ∈ written ∧ t.entry? l = none) := by
  obtain ⟨other, hother⟩ := List.exists_mem_of_ne_nil _ hne
  rw [mem_sourceFiles_iff] at hfile hother ⊢
  rcases hother with ⟨loc, content, hbase, hm, -⟩ | ⟨loc, _, _, hbase, -⟩
  · -- the path leads to a single file, as it did
    obtain ⟨content', hbase'⟩ := h.locate_of_file ht hu hbase
    rcases hfile with ⟨_, _, -, -, rfl⟩ | ⟨_, _, _, hb', -⟩
    · exact .inl (.inl ⟨loc, content, hbase, hm, rfl⟩)
    · cases hbase'.symm.trans hb'
  · have hbase' := h.locate_directory ht hu hbase
    rcases hfile with ⟨_, _, hb', -⟩ | ⟨loc', names, e, hb', hs, rfl⟩
    · cases hbase'.symm.trans hb'
    · cases hbase'.symm.trans hb'
      rcases h.isSource ht hu hs with ⟨e', hs'⟩ | ⟨hw, hn, content, rfl⟩
      · exact .inl (.inr ⟨loc, names, e', hbase, hs', rfl⟩)
      · -- the file is new, and the path leads to it
        cases hu.eq_of_locate_below hb hbase' hs.ne_nil hs.entry hf
        exact .inr ⟨hw, hn⟩

/-- No source file is a link that leads through something missing. -/
def SourcesLead (t : FileTree) (extensions : List Text) (base : PathName) : Prop :=
  ∀ file ∈ t.sourceFiles extensions base, ∀ err, t.locate file.toText = .error err →
    err.problem ≠ .noEntry

/-- **What a source file of a tree that has grown leads to**: what it led to, or a file that was
written. If another file stood there, it led to that one. -/
theorem Grows.source_cases (h : Grows written t u) (ht : t.WellFormed) (hu : u.WellFormed)
    (hb : base.Spelled) (hne : t.sourceFiles extensions base ≠ [])
    (hlead : t.SourcesLead extensions base) (hfile : file ∈ u.sourceFiles extensions base)
    (hf : u.locate file.toText = .ok (.taken l (.file bytes))) :
    (file ∈ t.sourceFiles extensions base ∧ t.locate file.toText = .ok (.taken l (.file bytes))) ∨
      (l ∈ written ∧ ∀ old, t.entry? l = some (.file old) →
        file ∈ t.sourceFiles extensions base ∧ t.locate file.toText = .ok (.taken l (.file old))) := by
  rcases h.mem_sourceFiles ht hu hb hne hfile hf with hm | ⟨hw, hn⟩
  · obtain ⟨⟨place, hplace, rfl⟩, hw | hsame⟩ := h.locate_file ht (hlead file hm) hf
    · refine .inr ⟨hw, fun old hold => ⟨hm, ?_⟩⟩
      rw [hplace, ht.eq_taken hplace hold]
      rfl
    · exact .inl ⟨hm, hsame⟩
  · exact .inr ⟨hw, fun old hold => nomatch hn.symm.trans hold⟩

end

/-! ### Tasks of a project -/

/-- The directory from which the files of a project are shown. -/
def shownFrom (t : FileTree) (project : PathName) : PathName :=
  match t.locate project.toText with
  | .ok (.taken _ (.file _)) => project.parent
  | _ => project

/-- A source file of the project that leads to the location, and may be read, states the task. -/
def StatesAt (t : FileTree) (ks : Keywords) (extensions : List Text) (project : PathName)
    (l : Location) (task : Task) : Prop :=
  t.host.refuses .read l = none ∧ ∃ file ∈ t.sourceFiles extensions project, ∃ bytes content,
    t.locate file.toText = .ok (.taken l (.file bytes)) ∧ decodeSource bytes = some content ∧
      task ∈ tasksIn ks (shownPath (t.shownFrom project) file) content

variable {ks : Keywords} {project : PathName} {task : Task} {found : List Task}

theorem mem_tasksOfFile_iff : task ∈ t.tasksOfFile ks base file ↔ ∃ l bytes content,
    t.host.refuses .read l = none ∧ t.locate file.toText = .ok (.taken l (.file bytes)) ∧
      decodeSource bytes = some content ∧ task ∈ tasksIn ks (shownPath base file) content := by
  unfold tasksOfFile
  constructor
  · intro h
    split at h
    · next bytes hb =>
      obtain ⟨l, hl, hr⟩ := readBytes_eq_ok_iff.1 hb
      split at h
      · next content hc => exact ⟨l, bytes, content, hr, hl, hc, h⟩
      · cases h
    · cases h
  · rintro ⟨l, bytes, content, hr, hl, hc, h⟩
    rw [readBytes_eq_ok_iff.2 ⟨l, hl, hr⟩]
    simp only [hc]
    exact h

/-- A path can be looked at if it leads somewhere or nothing is there. -/
theorem exists_isFile_eq_ok_iff : (∃ isThere, t.isFile path = .ok isThere) ↔
    ∀ err, t.locate path = .error err → err.problem.isAbsence := by
  unfold isFile holds
  cases t.locate path with
  | error err => cases ha : err.problem.isAbsence <;> simp [ha]
  | ok place => cases place <;> simp

theorem isTooDeep_of_unbounded (h : t.host.depths.directories = none) (base : PathName) :
    t.isTooDeep base = false := by
  unfold isTooDeep
  split
  · rw [h, List.any_eq_false]
    exact fun _ _ => Bool.false_ne_true
  · rfl

/-- A path is walked over if it can be looked at and its directories are not nested too deep. -/
theorem walk_eq_ok_iff {files : List PathName} : t.walk extensions base = .ok files ↔
    (∀ err, t.locate base.toText = .error err → err.problem.isAbsence) ∧
      t.isTooDeep base = false ∧ t.sourceFiles extensions base = files := by
  unfold walk
  rw [← exists_isFile_eq_ok_iff]
  simp only [bind_eq_ok_iff]
  cases t.isTooDeep base with
  | true => simp [throw, throwThe, MonadExceptOf.throw]
  | false => simp

/-- A walk fails if its path cannot be looked at or its directories are nested too deep. -/
theorem walk_eq_error_iff {err : AccessError} : t.walk extensions base = .error err ↔
    t.isFile base.toText = .error err ∨ (∃ isThere, t.isFile base.toText = .ok isThere) ∧
      t.isTooDeep base = true ∧ err = ⟨.tooDeep, base.toText⟩ := by
  unfold walk
  rw [bind_eq_error_iff]
  cases t.isTooDeep base with
  | true => simp [throw, throwThe, MonadExceptOf.throw, bind, Except.bind, eq_comm]
  | false => simp [pure, Except.pure]

/-- The tasks of a project are those of the files that a walk over it yields. -/
theorem tasksOfProject_eq_ok_iff : t.tasksOfProject ks extensions project = .ok found ↔
    ∃ files, t.walk extensions project = .ok files ∧
      files.flatMap (t.tasksOfFile ks (t.shownFrom project)) = found := by
  have hshown {isThere : Bool} (h : t.isFile project.toText = .ok isThere) :
      (if isThere then project.parent else project) = t.shownFrom project := by
    unfold isFile holds at h
    unfold shownFrom
    split at h
    · next l e hl =>
      cases h
      cases e <;> simp [hl, Entry.isFile]
    · next l hl => cases h; simp [hl]
    · next err hl => split at h <;> cases h; simp [hl]
  unfold tasksOfProject
  simp only [bind_eq_ok_iff, pure_eq_ok_iff]
  constructor
  · rintro ⟨isThere, hf, files, hw, h⟩
    exact ⟨files, hw, hshown hf ▸ h⟩
  · rintro ⟨files, hw, h⟩
    obtain ⟨isThere, hf⟩ := exists_isFile_eq_ok_iff.2 (walk_eq_ok_iff.1 hw).1
    exact ⟨isThere, hf, files, hw, (hshown hf).symm ▸ h⟩

theorem tasksOfProject_eq_error_iff {err : AccessError} :
    t.tasksOfProject ks extensions project = .error err ↔ t.walk extensions project = .error err := by
  unfold tasksOfProject
  rw [walk_eq_error_iff]
  cases hf : t.isFile project.toText with
  | error e => simp [bind, Except.bind]
  | ok isThere =>
    have hw := (walk_eq_error_iff : t.walk extensions project = .error err ↔ _)
    rw [hf] at hw
    simp only [bind, Except.bind] at hw ⊢
    rw [← hw]
    cases t.walk extensions project <;> simp [pure, Except.pure]

theorem mem_of_tasksOfProject (h : t.tasksOfProject ks extensions project = .ok found) :
    task ∈ found ↔ ∃ l, t.StatesAt ks extensions project l task := by
  obtain ⟨files, hw, rfl⟩ := tasksOfProject_eq_ok_iff.1 h
  obtain ⟨-, -, rfl⟩ := walk_eq_ok_iff.1 hw
  simp only [List.mem_flatMap, mem_tasksOfFile_iff, StatesAt]
  constructor
  · rintro ⟨file, hm, l, bytes, content, hr, h⟩
    exact ⟨l, hr, file, hm, bytes, content, h⟩
  · rintro ⟨l, hr, file, hm, bytes, content, h⟩
    exact ⟨file, hm, l, bytes, content, hr, h⟩

section

variable {written : List Location}

theorem Grows.shownFrom (h : Grows written t u) (ht : t.WellFormed) (hu : u.WellFormed)
    (hne : t.sourceFiles extensions project ≠ []) : u.shownFrom project = t.shownFrom project := by
  unfold FileTree.shownFrom
  obtain ⟨other, hother⟩ := List.exists_mem_of_ne_nil _ hne
  rcases mem_sourceFiles_iff.1 hother with ⟨loc, content, hp, -⟩ | ⟨loc, _, _, hp, -⟩
  · obtain ⟨content', hp'⟩ := h.locate_of_file ht hu hp
    rw [hp, hp']
  · rw [hp, h.locate_directory ht hu hp]

/-- **The tasks of a tree that has grown were there, or they are read from what was written.** They
were there also if they could be read from the file that stood there. -/
theorem Grows.statesAt_cases (h : Grows written t u) (ht : t.WellFormed) (hu : u.WellFormed)
    (hp : project.Spelled) (hne : t.sourceFiles extensions project ≠ [])
    (hlead : t.SourcesLead extensions project) (hs : u.StatesAt ks extensions project l task) :
    t.StatesAt ks extensions project l task ∨ l ∈ written ∧ ∃ bytes content shown,
      u.entry? l = some (.file bytes) ∧ decodeSource bytes = some content ∧
      task ∈ tasksIn ks shown content ∧ ∀ old content', t.entry? l = some (.file old) →
        decodeSource old = some content' → task ∈ tasksIn ks shown content' →
          t.StatesAt ks extensions project l task := by
  obtain ⟨hr, file, hm, bytes, content, hf, hc, htask⟩ := hs
  rw [h.host] at hr
  rw [h.shownFrom ht hu hne] at htask
  rcases h.source_cases ht hu hp hne hlead hm hf with ⟨hm', hf'⟩ | ⟨hw, hold⟩
  · exact .inl ⟨hr, file, hm', bytes, content, hf', hc, htask⟩
  · refine .inr ⟨hw, bytes, content, _, entry?_of_locateWith_file hf, hc, htask, ?_⟩
    intro old content' he hc' htask'
    obtain ⟨hm', hf'⟩ := hold old he
    exact ⟨hr, file, hm', old, content', hf', hc', htask'⟩

end

end CommentTasks.FileTree
