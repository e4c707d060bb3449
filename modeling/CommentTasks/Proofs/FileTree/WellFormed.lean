import CommentTasks.Proofs.FileTree.Change
import CommentTasks.Proofs.FileTree.PathName
import Mathlib.Data.List.Induction

/-!
# Trees that are well formed

In a well-formed tree whatever stands somewhere stands in a directory, under a name that names can
be. A way that begins in a directory then goes through directories alone, changes keep a tree well
formed, and a document that a path leads to can always be written.
-/

namespace CommentTasks

/-- The name can stand in a directory. -/
structure IsName (name : Text) : Prop extends FileTree.Leads name where
  ne_nil : name ≠ []
  slash_not_mem : '/' ∉ name

instance (name : Text) : Decidable (IsName name) :=
  decidable_of_iff
    (name ≠ ['.'] ∧ name ≠ "..".toList ∧
      ¬FileTree.maxNameBytes < (Utf8.encode name).length ∧ name ≠ [] ∧ '/' ∉ name)
    ⟨fun ⟨hdot, hup, hlen, hne, hs⟩ => ⟨⟨hdot, hup, hlen⟩, hne, hs⟩,
      fun h => ⟨h.ne_dot, h.ne_up, h.short, h.ne_nil, h.slash_not_mem⟩⟩

namespace FileTree

/-- What stands in the tree stands in a directory, and so does what relative paths name. -/
structure WellFormed (t : FileTree) : Prop where
  /-- What stands at a location stands in a directory. -/
  above : ∀ {l name e}, t.entry? (l ++ [name]) = some e → t.entry? l = some .directory
  names : ∀ {l e}, t.entry? l = some e → ∀ name ∈ l, IsName name
  workingDirectory : t.entry? t.workingDirectory = some .directory

variable {t u v : FileTree} {l loc : Location} {follow : Bool} {hops : Nat}

theorem mem_entries_iff {e : Entry} (hl : l ≠ []) : (l, e) ∈ t.entries ↔ t.entry? l = some e := by
  rw [ entry?, if_neg hl, Keyed.lookup_eq_some_iff_mem t.nodup]

/-- A tree is well formed if all that it lists is listed in a directory. -/
theorem wellFormed_of_entries
    (h : ∀ x ∈ t.entries, t.entry? x.1.dropLast = some .directory ∧ ∀ name ∈ x.1, IsName name)
    (hw : t.entry? t.workingDirectory = some .directory) : t.WellFormed := by
  refine ⟨fun {l name e} hl => ?_, fun {l e} hl name hm => ?_, hw⟩
  · have ha := (h _ ((mem_entries_iff (by simp)).2 hl)).1
    rwa [List.dropLast_concat] at ha
  · exact (h _ ((mem_entries_iff (List.ne_nil_of_mem hm)).2 hl)).2 name hm

theorem WellFormed.dropLast (ht : t.WellFormed) {e : Entry} (h : t.entry? l = some e) (hl : l ≠ []) :
    t.entry? l.dropLast = some .directory := by
  rw [← List.dropLast_append_getLast hl] at h
  exact ht.above h

/-- The directory above a directory is one; the root is above itself. -/
theorem WellFormed.directory_dropLast (ht : t.WellFormed) (h : t.entry? l = some .directory) :
    t.entry? l.dropLast = some .directory := by
  by_cases hl : l = []
  · rw [hl]; rfl
  · exact ht.dropLast h hl

/-- What stands above something is a directory. -/
theorem WellFormed.directory_above (ht : t.WellFormed) {names : List Text} {e : Entry}
    (hn : names ≠ []) (h : t.entry? (l ++ names) = some e) : t.entry? l = some .directory := by
  induction names using List.reverseRecOn generalizing e with
  | nil => exact absurd rfl hn
  | append_singleton names name ih =>
    rw [← List.append_assoc] at h
    have ha := ht.above h
    by_cases hnames : names = []
    · rwa [hnames, List.append_nil] at ha
    · exact ih hnames ha

/-- A relative way starts in a directory, and so does one from the root. -/
theorem WellFormed.start (ht : t.WellFormed) (path : Text) :
    t.entry? (if path.head? = some '/' then [] else t.workingDirectory) = some .directory := by
  split
  · rfl
  · exact ht.workingDirectory

/-! ### Ways through directories -/

/-- A way that goes on behind some names comes to a directory with them. -/
theorem WellFormed.walkNames_front (ht : t.WellFormed) {a b : List Text} {place : Place}
    (hd : t.entry? loc = some .directory) (hb : b ≠ [])
    (h : t.walkNames follow hops loc (a ++ b) = .ok place) :
    ∃ d, t.walkNames true hops loc a = .ok (.taken d .directory) := by
  have base {hops : Nat} {loc : Location} (hd : t.entry? loc = some .directory) :
      ∃ d, t.walkNames true hops loc [] = .ok (.taken d .directory) :=
    ⟨loc, by rw [walkNames, hd]; rfl⟩
  have last {name other : Text} {a : List Text} (h : name :: a ++ b = [other]) : False :=
    hb (List.append_eq_nil_iff.1 (List.cons.inj h).2).2
  -- along the way, as far as the names in front reach
  suffices hway : ∀ names, t.walkNames follow hops loc names = .ok place → ∀ a, a ++ b = names →
      ∃ d, t.walkNames true hops loc a = .ok (.taken d .directory) from hway _ h a rfl
  clear h
  intro names h
  fun_induction walkNames t follow hops loc names with
  | case1 => exact fun a hab => absurd (List.append_eq_nil_iff.1 hab).2 hb
  | case2 => cases h
  | case3 hops loc rest hs ih =>
    rintro (- | ⟨name, a⟩) hab
    · exact base hd
    · obtain ⟨rfl, hrest⟩ := List.cons.inj hab
      rw [walkNames_dot hs]
      exact ih hd h a hrest
  | case4 hops loc rest hs _ ih =>
    rintro (- | ⟨name, a⟩) hab
    · exact base hd
    · obtain ⟨rfl, hrest⟩ := List.cons.inj hab
      rw [walkNames_up hs]
      exact ih (ht.directory_dropLast hd) h a hrest
  | case5 => cases h
  | case6 =>
    rintro (- | ⟨name, a⟩) hab
    · exact base hd
    · exact (last hab).elim
  | case7 => cases h
  | case8 hops loc name rest hs hdot hup hlen next hn ih =>
    rintro (- | ⟨name, a⟩) hab
    · exact base hd
    · obtain ⟨rfl, hrest⟩ := List.cons.inj hab
      rw [walkNames_directory hs ⟨hdot, hup, hlen⟩ hn]
      exact ih hn h a hrest
  | case9 =>
    rintro (- | ⟨name, a⟩) hab
    · exact base hd
    · exact (last hab).elim
  | case10 => cases h
  | case11 hops loc name rest hs hdot hup hlen next target hn hend =>
    rintro (- | ⟨name, a⟩) hab
    · exact base hd
    · exact (last (hab.trans (congrArg _ hend.1))).elim
  | case12 => cases h
  | case13 loc name rest hs hdot hup hlen next target hn hend hops ih =>
    rintro (- | ⟨name, a⟩) hab
    · exact base hd
    · obtain ⟨rfl, rfl⟩ := List.cons.inj hab
      rw [walkNames_link hs ⟨hdot, hup, hlen⟩ hn (by simp)]
      refine ih ?_ h _ (List.append_assoc _ _ _)
      split
      · rfl
      · exact hd

/-- A way to a directory goes on from there. -/
theorem walkNames_append {d : Location} {a : List Text} (hd : t.entry? d = some .directory)
    (h : t.walkNames true hops loc a = .ok (.taken d .directory)) :
    ∃ hops', ∀ b, t.walkNames true hops loc (a ++ b) = t.walkNames true hops' d b := by
  fun_induction walkNames t true hops loc a with
  | case1 hops loc =>
    obtain ⟨rfl, -⟩ := Place.taken.inj (Except.ok.inj h)
    exact ⟨hops, fun b => rfl⟩
  | case2 => cases h
  | case3 hops loc rest hs ih =>
    obtain ⟨hops', ih⟩ := ih h
    exact ⟨hops', fun b => by rw [List.cons_append, walkNames_dot hs, ih]⟩
  | case4 hops loc rest hs _ ih =>
    obtain ⟨hops', ih⟩ := ih h
    exact ⟨hops', fun b => by rw [List.cons_append, walkNames_up hs, ih]⟩
  | case5 => cases h
  | case6 => cases h
  | case7 => cases h
  | case8 hops loc name rest hs hdot hup hlen next hn ih =>
    obtain ⟨hops', ih⟩ := ih h
    exact ⟨hops', fun b => by
      rw [List.cons_append, walkNames_directory hs ⟨hdot, hup, hlen⟩ hn, ih]⟩
  | case9 => cases (Place.taken.inj (Except.ok.inj h)).2
  | case10 => cases h
  | case11 => cases (Place.taken.inj (Except.ok.inj h)).2
  | case12 => cases h
  | case13 loc name rest hs hdot hup hlen next target hn hend hops ih =>
    obtain ⟨hops', ih⟩ := ih h
    refine ⟨hops', fun b => ?_⟩
    rw [List.cons_append, walkNames_link hs ⟨hdot, hup, hlen⟩ hn (by simp), ← List.append_assoc]
    exact ih b

/-- A way along the names of a file below a directory comes to the file. -/
theorem WellFormed.walkNames_below (ht : t.WellFormed) {names : List Text} {content : Bytes}
    (h : t.entry? (loc ++ names) = some (.file content)) (hn : names ≠ []) {place : Place}
    (hw : t.walkNames follow hops loc names = .ok place) :
    place = .taken (loc ++ names) (.file content) := by
  induction names generalizing loc with
  | nil => exact absurd rfl hn
  | cons name rest ih =>
    have hname := ht.names h name (List.mem_append_right _ List.mem_cons_self)
    cases hs : t.host.refuses .search loc with
    | some reason =>
      rw [walkNames_refused hs] at hw
      cases hw
    | none =>
      by_cases hr : rest = []
      · subst hr
        rw [walkNames_file hs hname.toLeads h] at hw
        cases hw
        rfl
      · rw [List.append_cons] at h ⊢
        rw [walkNames_directory hs hname.toLeads (ht.directory_above hr h)] at hw
        exact ih h hr hw

theorem WellFormed.entry?_of_taken (ht : t.WellFormed) {path : Text} {e : Entry}
    (h : t.locateWith follow path = .ok (.taken l e)) : t.entry? l = some e := by
  have hs : e = (t.entry? l).getD .directory := stands_of_locateWith h
  have hway {hops : Nat} {loc : Location} {names : List Text}
      (hd : t.entry? loc = some .directory)
      (h : t.walkNames follow hops loc names = .ok (.taken l e)) : t.entry? l ≠ none := by
    fun_induction walkNames t follow hops loc names with
    | case1 => cases h; simp [hd]
    | case2 => cases h
    | case3 hops loc rest _ ih => exact ih hd h
    | case4 hops loc rest _ _ ih => exact ih (ht.directory_dropLast hd) h
    | case5 => cases h
    | case6 => cases h
    | case7 => cases h
    | case8 hops loc name rest _ _ _ _ next hn ih => exact ih hn h
    | case9 hops loc name _ _ _ _ next content hn =>
      have hl : next = l := (Place.taken.inj (Except.ok.inj h)).1
      rw [← hl, hn]
      simp
    | case10 => cases h
    | case11 hops loc name rest _ _ _ _ next target hn =>
      have hl : next = l := (Place.taken.inj (Except.ok.inj h)).1
      rw [← hl, hn]
      simp
    | case12 => cases h
    | case13 loc name rest _ _ _ _ next target hn _ hops ih =>
      refine ih ?_ h
      split
      · rfl
      · exact hd
  cases he : t.entry? l with
  | none => exact absurd he (hway (ht.start path) (locateWith_eq_ok_iff.1 h).2.2.2)
  | some x => rw [he] at hs; rw [hs]; rfl

theorem WellFormed.eq_taken (ht : t.WellFormed) {path : Text} {place : Place} {e : Entry}
    (h : t.locateWith follow path = .ok place) (he : t.entry? place.location = some e) :
    place = .taken place.location e := by
  cases place with
  | taken l x =>
    cases (ht.entry?_of_taken h).symm.trans he
    rfl
  | free l =>
    have hs : t.entry? l = none := stands_of_locateWith h
    cases hs.symm.trans he

/-- **A path that leads anywhere lies in a directory.** -/
theorem WellFormed.locate_parent (ht : t.WellFormed) {p : PathName} (hp : p.Spelled) {place : Place}
    (h : t.locateWith follow p.toText = .ok place) :
    ∃ d, t.locate p.parent.toText = .ok (.taken d .directory) := by
  obtain ⟨hnull, -, hlong, hw⟩ := locateWith_eq_ok_iff.1 h
  have hstart := ht.start p.toText
  have hroot : (p.parent.toText.head? = some '/') = (p.toText.head? = some '/') :=
    propext ((PathName.head?_toText hp.parent).trans (PathName.head?_toText hp).symm)
  -- what is written of the path above is shorter and has no null byte either
  have hfine : ¬p.parent.toText.contains '\x00' ∧
      ¬maxPathBytes < (Utf8.encode p.parent.toText).length := by
    rcases p.toText_parent_isPrefix with hdot | ⟨more, hmore⟩
    · rw [hdot]
      decide
    · rw [← hmore] at hnull hlong
      rw [Utf8.encode_append, List.length_append] at hlong
      refine ⟨fun hc => hnull ?_, by omega⟩
      rw [List.contains_iff_mem] at hc ⊢
      exact List.mem_append_left _ hc
  have hway : ∃ d, t.walkNames true maxLinks
      (if p.toText.head? = some '/' then [] else t.workingDirectory) (steps p.parent.toText) =
        .ok (.taken d .directory) := by
    by_cases hn : p.parent.names = []
    · refine ⟨if p.toText.head? = some '/' then [] else t.workingDirectory, ?_⟩
      obtain ⟨name, rest, hsteps⟩ := List.exists_cons_of_ne_nil (PathName.steps_toText_ne_nil hp)
      have hs := search_of_walkNames (hsteps ▸ hw)
      rw [PathName.steps_toText_of_names_eq_nil hp.parent hn, walkNames_dot hs, walkNames, hstart]
      rfl
    · have hpn : p.names ≠ [] := fun e => hn (by rw [PathName.parent, e]; rfl)
      rw [PathName.steps_toText hp hpn, ← List.dropLast_append_getLast hpn] at hw
      rw [PathName.steps_toText hp.parent hn]
      exact ht.walkNames_front hstart (List.cons_ne_nil _ _) hw
  obtain ⟨d, hd⟩ := hway
  refine ⟨d, locateWith_eq_ok_iff.2 ⟨hfine.1, PathName.toText_ne_nil hp.parent, hfine.2, ?_⟩⟩
  simp only [hroot]
  exact hd

/-- **A path that leads anywhere goes through the directory that its first names lead to.** -/
theorem WellFormed.locate_front (ht : t.WellFormed) {p : PathName} {more : List Text}
    (hp : PathName.Spelled ⟨p.root, p.names ++ more⟩) (hm : more ≠ []) {place : Place}
    (h : t.locateWith follow (PathName.toText ⟨p.root, p.names ++ more⟩) = .ok place) :
    ∃ d, t.locate p.toText = .ok (.taken d .directory) := by
  induction more using List.reverseRecOn generalizing follow place with
  | nil => exact absurd rfl hm
  | append_singleton more name ih =>
    have habove : PathName.parent ⟨p.root, p.names ++ (more ++ [name])⟩ =
        ⟨p.root, p.names ++ more⟩ := by
      rw [PathName.parent, ← List.append_assoc, List.dropLast_concat]
    obtain ⟨d, hd⟩ := ht.locate_parent hp h
    have hspelled := hp.parent
    rw [habove] at hd hspelled
    by_cases hmore : more = []
    · subst hmore
      rw [List.append_nil] at hd
      exact ⟨d, hd⟩
    · exact ih hspelled hmore hd

/-! ### Directories that are there -/

theorem isDirectory_iff {path : Text} :
    t.isDirectory path ↔ ∃ d, t.locate path = .ok (.taken d .directory) := by
  unfold isDirectory
  split
  · next d hd => exact ⟨fun _ => ⟨d, hd⟩, fun _ => rfl⟩
  · next hd => exact ⟨nofun, fun ⟨d, h⟩ => absurd h (hd d)⟩

theorem locateWith_false_of_taken {path : Text} {e : Entry}
    (h : t.locate path = .ok (.taken l e)) : ∃ l' e', t.locateWith false path = .ok (.taken l' e') := by
  have hway {hops : Nat} {loc : Location} {names : List Text}
      (h : t.walkNames true hops loc names = .ok (.taken l e)) :
      ∃ l' e', t.walkNames false hops loc names = .ok (.taken l' e') := by
    fun_induction walkNames t true hops loc names with
    | case1 => exact ⟨_, _, by rw [walkNames]⟩
    | case2 => cases h
    | case3 hops loc rest hs ih => rw [walkNames_dot hs]; exact ih h
    | case4 hops loc rest hs _ ih => rw [walkNames_up hs]; exact ih h
    | case5 => cases h
    | case6 => cases h
    | case7 => cases h
    | case8 hops loc name rest hs hdot hup hlen next hn ih =>
      rw [walkNames_directory hs ⟨hdot, hup, hlen⟩ hn]
      exact ih h
    | case9 hops loc name hs hdot hup hlen next content hn =>
      exact ⟨_, _, walkNames_file hs ⟨hdot, hup, hlen⟩ hn⟩
    | case10 => cases h
    | case11 hops loc name rest hs hdot hup hlen next target hn hend => simp at hend
    | case12 => cases h
    | case13 loc name rest hs hdot hup hlen next target hn _ hops ih =>
      by_cases hrest : rest = []
      · exact ⟨_, _, walkNames_link_end hs ⟨hdot, hup, hlen⟩ hn ⟨hrest, rfl⟩⟩
      · rw [walkNames_link hs ⟨hdot, hup, hlen⟩ hn fun hend => hrest hend.1]
        exact ih h
  obtain ⟨hnull, hne, hlong, hw⟩ := locateWith_eq_ok_iff.1 h
  obtain ⟨l', e', hw⟩ := hway hw
  exact ⟨l', e', locateWith_eq_ok_iff.2 ⟨hnull, hne, hlong, hw⟩⟩

variable {p : PathName}

theorem ensureDirectory_of_isDirectory (h : t.isDirectory p.toText) : t.ensureDirectory p = .ok t := by
  obtain ⟨d, hd⟩ := isDirectory_iff.1 h
  obtain ⟨l, e, hl⟩ := locateWith_false_of_taken hd
  simp [ensureDirectory, makeDirectory, hl, holds, hd, Entry.isDirectory]

theorem ensureDirectories_of_isDirectory (h : t.isDirectory p.toText) :
    t.ensureDirectories p = ⟨t, none⟩ := by
  have along {root : Text} {depth : Depth} {names : List Text}
      (h : t.isDirectory (PathName.toText ⟨root, names.reverse⟩)) :
      t.ensureDirectoriesAlong root depth names = ⟨t, none⟩ := by
    cases names with
    | nil => exact congrArg t.changed (ensureDirectory_of_isDirectory h)
    | cons name above =>
      obtain ⟨d, hd⟩ := isDirectory_iff.1 h
      obtain ⟨l, e, hl⟩ := locateWith_false_of_taken hd
      -- the path is there, so nothing above it is looked for
      rw [ensureDirectoriesAlong]
      simp only [makeDirectory, hl, ensureDirectory_of_isDirectory h, changed]
  exact along (by rw [List.reverse_reverse]; exact h)

/-! ### Changes of well-formed trees -/

/-- The location is one for a file: free or a file, in a directory, and under names. -/
structure Fits (t : FileTree) (l : Location) : Prop where
  writable : t.Writable l
  above : t.entry? l.dropLast = some .directory
  names : ∀ name ∈ l, IsName name

theorem Fits.ne_of_directory (hl : t.Fits l) (h : t.entry? loc = some .directory) : loc ≠ l := by
  rintro rfl
  rcases hl.writable with hw | ⟨content, hw⟩ <;> cases h.symm.trans hw

theorem WellFormed.set (ht : t.WellFormed) (hl : t.Fits l) (e : Entry) : (t.set l e).WellFormed where
  above := by
    intro loc name x hx
    by_cases h : loc ++ [name] = l
    · subst h
      have ha := hl.above
      rw [List.dropLast_concat] at ha
      rw [entry?_set_of_ne t e (hl.ne_of_directory ha), ha]
    · rw [entry?_set_of_ne t e h] at hx
      have ha := ht.above hx
      rw [entry?_set_of_ne t e (hl.ne_of_directory ha), ha]
  names := by
    intro loc x hx
    by_cases h : loc = l
    · exact h ▸ hl.names
    · rw [entry?_set_of_ne t e h] at hx
      exact ht.names hx
  workingDirectory :=
    (entry?_set_of_ne t e (hl.ne_of_directory ht.workingDirectory)).trans ht.workingDirectory

theorem WellFormed.fits_of_file (ht : t.WellFormed) {content : Bytes}
    (h : t.entry? l = some (.file content)) : t.Fits l where
  writable := .inr ⟨content, h⟩
  above := ht.dropLast h (by rintro rfl; cases h)
  names := ht.names h

theorem WellFormed.fits_of_free (ht : t.WellFormed) {path : Text}
    (h : t.locateWith follow path = .ok (.free l)) : t.Fits l := by
  have hway {hops : Nat} {loc : Location} {names : List Text}
      (hd : t.entry? loc = some .directory) (hns : ∀ name ∈ names, name ≠ [] ∧ '/' ∉ name)
      (h : t.walkNames follow hops loc names = .ok (.free l)) :
      ∃ d name, t.entry? d = some .directory ∧ IsName name ∧ l = d ++ [name] := by
    fun_induction walkNames t follow hops loc names with
    | case1 => cases h
    | case2 => cases h
    | case3 hops loc rest _ ih => exact ih hd (fun n hn => hns n (List.mem_cons_of_mem _ hn)) h
    | case4 hops loc rest _ _ ih =>
      exact ih (ht.directory_dropLast hd) (fun n hn => hns n (List.mem_cons_of_mem _ hn)) h
    | case5 => cases h
    | case6 hops loc name _ hdot hup hlen next hn =>
      obtain ⟨hne, hs⟩ := hns name List.mem_cons_self
      have hl : next = l := Place.free.inj (Except.ok.inj h)
      exact ⟨loc, name, hd, ⟨⟨hdot, hup, hlen⟩, hne, hs⟩, hl.symm⟩
    | case7 => cases h
    | case8 hops loc name rest _ hdot hup hlen next hn ih =>
      exact ih hn (fun n hm => hns n (List.mem_cons_of_mem _ hm)) h
    | case9 => cases h
    | case10 => cases h
    | case11 => cases h
    | case12 => cases h
    | case13 loc name rest _ hdot hup hlen next target hn _ hops ih =>
      refine ih ?_ (fun n hm => ?_) h
      · split
        · rfl
        · exact hd
      · rcases List.mem_append.1 hm with hm | hm
        · exact PathName.steps_of_mem hm
        · exact hns n (List.mem_cons_of_mem _ hm)
  obtain ⟨d, name, hd, hname, rfl⟩ := hway (ht.start path) (fun _ => PathName.steps_of_mem)
    (locateWith_eq_ok_iff.1 h).2.2.2
  have hfree : t.entry? (d ++ [name]) = none := stands_of_locateWith h
  refine ⟨.inl hfree, by rw [List.dropLast_concat, hd], fun n hm => ?_⟩
  rcases List.mem_append.1 hm with hm | hm
  · exact ht.names hd n hm
  · exact List.mem_singleton.1 hm ▸ hname

theorem WellFormed.makeDirectory (ht : t.WellFormed) {path : Text}
    (h : t.makeDirectory path = .ok u) : u.WellFormed := by
  unfold FileTree.makeDirectory at h
  split at h
  · cases h
  · next l hl =>
    split at h
    · cases h
    · cases h
      exact ht.set (ht.fits_of_free hl) .directory
  · cases h

theorem WellFormed.ensureDirectory (ht : t.WellFormed) (h : t.ensureDirectory p = .ok u) :
    u.WellFormed := by
  unfold FileTree.ensureDirectory at h
  split at h
  · next t' hm => cases h; exact ht.makeDirectory hm
  · split at h
    · cases h
    · split at h
      · cases h; exact ht
      · cases h
      · cases h

theorem WellFormed.ensureDirectories (ht : t.WellFormed) (p : PathName) :
    (t.ensureDirectories p).tree.WellFormed := by
  have last {s : FileTree} (hs : s.WellFormed) (q : PathName) :
      (s.changed (s.ensureDirectory q)).tree.WellFormed := by
    cases hq : s.ensureDirectory q with
    | ok v => exact hs.ensureDirectory hq
    | error e => exact hs
  rw [FileTree.ensureDirectories]
  generalize t.host.depths.missing = depth
  induction p.names.reverse generalizing depth with
  | nil => exact last ht _
  | cons name above ih =>
    rw [ensureDirectoriesAlong]
    split
    · split
      · exact ht
      · next deeper _ =>
        have ih := ih deeper
        split
        · next t' hu => rw [hu] at ih; exact last ih _
        · exact ih
    · exact last ht _

/-- The path leads to a file or to a free place for one. -/
def LeadsToFile (t : FileTree) (path : Text) (l : Location) : Prop :=
  (∃ old, t.locate path = .ok (.taken l (.file old))) ∨ t.locate path = .ok (.free l)

/-- The path leads to a file or to a free place for one, and the host takes the content there. -/
structure Accepts (t : FileTree) (path : Text) (l : Location) (content : Bytes) : Prop where
  leads : t.LeadsToFile path l
  admitted : t.host.refuses .write l = none
  whole : t.host.cutsShort l content = none

theorem WellFormed.fits_of_leadsToFile (ht : t.WellFormed) {path : Text} (h : t.LeadsToFile path l) :
    t.Fits l := by
  rcases h with ⟨old, h⟩ | h
  · exact ht.fits_of_file (entry?_of_locateWith_file h)
  · exact ht.fits_of_free h

theorem writeAt_eq_whole_iff {path : Text} {content : Bytes} :
    t.writeAt path l content = ⟨u, none⟩ ↔
      (t.host.refuses .write l = none ∧ t.host.cutsShort l content = none) ∧
        u = t.set l (.file content) := by
  unfold writeAt
  split
  · next reason hr => simp [hr]
  · next reason hr hc => simp [hr, hc]
  · next hr hc => simp [hr, hc, eq_comm]

theorem writeBytes_eq_whole_iff {path : Text} {content : Bytes} :
    t.writeBytes path content = ⟨u, none⟩ ↔
      ∃ l, t.Accepts path l content ∧ u = t.set l (.file content) := by
  unfold writeBytes
  constructor
  · intro h
    split at h
    · next l old hl =>
      obtain ⟨⟨ha, hw⟩, rfl⟩ := writeAt_eq_whole_iff.1 h
      exact ⟨l, ⟨.inl ⟨old, hl⟩, ha, hw⟩, rfl⟩
    · cases h
    · next l hl =>
      obtain ⟨⟨ha, hw⟩, rfl⟩ := writeAt_eq_whole_iff.1 h
      exact ⟨l, ⟨.inr hl, ha, hw⟩, rfl⟩
    · cases h
  · rintro ⟨l, ⟨⟨old, hl⟩ | hl, ha, hw⟩, rfl⟩ <;> rw [hl] <;>
      exact writeAt_eq_whole_iff.2 ⟨⟨ha, hw⟩, rfl⟩

/-- **What writing a document takes**: the directory of the path is made if need be, and then the
path leads to a file or to a free place, where the host takes the document. -/
theorem writeDocument_eq_whole_iff {text : Text} : t.writeDocument p text = ⟨v, none⟩ ↔
    ∃ u l, t.ensureDirectories p.parent = ⟨u, none⟩ ∧ u.Accepts p.toText l (Utf8.encode text) ∧
      v = u.set l (.file (Utf8.encode text)) := by
  unfold writeDocument writeBytesDeep
  constructor
  · intro h
    split at h
    · next u hu =>
      obtain ⟨l, hl, rfl⟩ := writeBytes_eq_whole_iff.1 h
      exact ⟨u, l, hu, hl, rfl⟩
    · next hcut => exact absurd h (hcut _)
  · rintro ⟨u, l, hu, hl, rfl⟩
    rw [hu]
    exact writeBytes_eq_whole_iff.2 ⟨l, hl, rfl⟩

/-- **A tree stays well formed when a document is written.** -/
theorem WellFormed.writeDocument (ht : t.WellFormed) {text : Text}
    (h : t.writeDocument p text = ⟨v, none⟩) : v.WellFormed := by
  obtain ⟨u, l, hu, hl, rfl⟩ := writeDocument_eq_whole_iff.1 h
  have hwf := ht.ensureDirectories p.parent
  rw [hu] at hwf
  exact hwf.set (hwf.fits_of_leadsToFile hl.leads) _

/-- **A document can be written where a path leads to a file or a free place**, if the host takes
it, and nothing else is changed. -/
theorem WellFormed.writeDocument_of_accepts (ht : t.WellFormed) (hp : p.Spelled) {text : Text}
    (h : t.Accepts p.toText l (Utf8.encode text)) :
    t.writeDocument p text = ⟨t.set l (.file (Utf8.encode text)), none⟩ := by
  have hd : ∃ d, t.locate p.parent.toText = .ok (.taken d .directory) := by
    rcases h.leads with ⟨old, h⟩ | h
    · exact ht.locate_parent hp h
    · exact ht.locate_parent hp h
  exact writeDocument_eq_whole_iff.2
    ⟨t, l, ensureDirectories_of_isDirectory (isDirectory_iff.2 hd), h, rfl⟩

theorem set_of_entry?_eq_some {e : Entry} (h : t.entry? l = some e) (hl : l ≠ []) : t.set l e = t := by
  rw [ entry?, if_neg hl] at h
  obtain ⟨entries, workingDirectory, host, nodup⟩ := t
  simp only [FileTree.set, Keyed.put_of_lookup h]

/-- **A document that was written can be written again**, which changes nothing. -/
theorem WellFormed.writeDocument_again (ht : t.WellFormed) (hp : p.Spelled) {text : Text}
    (h : t.writeDocument p text = ⟨v, none⟩) : v.writeDocument p text = ⟨v, none⟩ := by
  have hv := ht.writeDocument h
  obtain ⟨u, l, hu, ha, rfl⟩ := writeDocument_eq_whole_iff.1 h
  have hwf := ht.ensureDirectories p.parent
  rw [hu] at hwf
  -- the path leads to what was written, and the host is as it was
  have hl : (u.set l (.file (Utf8.encode text))).locate p.toText =
      .ok (.taken l (.file (Utf8.encode text))) := by
    have hw := (hwf.fits_of_leadsToFile ha.leads).writable
    rcases ha.leads with ⟨old, hp⟩ | hp
    · exact (locateWith_set hw (by simp) hp).trans (by simp)
    · exact (locateWith_set hw (by simp) hp).trans (by simp)
  have he := entry?_of_locateWith_file hl
  rw [hv.writeDocument_of_accepts hp ⟨.inl ⟨_, hl⟩, ha.admitted, ha.whole⟩,
    set_of_entry?_eq_some he (hv.fits_of_file he).writable.ne_root]

end FileTree

end CommentTasks
