import CommentTasks.FileTree.Document
import CommentTasks.Proofs.Encoding.Utf8
import CommentTasks.Proofs.FileTree.Walk

/-!
# What a change does to a tree

A change that fails before a file is opened has made directories at most, and these only where
nothing was. A change that is made has written one file besides, and the document that was written
is read back; one that fails in between leaves the first bytes of the file.
-/

namespace CommentTasks.FileTree

variable {t u v : FileTree} {l : Location}

@[simp] theorem fileAt?_set_file (t : FileTree) (content : Bytes) (h : l ≠ []) :
    (t.set l (.file content)).fileAt? l = some content := by
  rw [fileAt?, entry?_set_self t _ h]

theorem fileAt?_set_of_ne (t : FileTree) (e : Entry) {other : Location} (h : other ≠ l) :
    (t.set l e).fileAt? other = t.fileAt? other := by
  rw [fileAt?, entry?_set_of_ne t e h, fileAt?]

/-! ### Directories -/

/-- The second tree has some more directories, each where nothing was. -/
inductive AddsDirectories : FileTree → FileTree → Prop
  | refl (t : FileTree) : AddsDirectories t t
  | add {t u : FileTree} {l : Location} : AddsDirectories t u → u.entry? l = none →
      AddsDirectories t (u.set l .directory)

theorem AddsDirectories.trans (h : AddsDirectories t u) (h' : AddsDirectories u v) :
    AddsDirectories t v := by
  induction h' with
  | refl => exact h
  | add _ hl ih => exact ih.add hl

theorem AddsDirectories.host (h : AddsDirectories t u) : u.host = t.host := by
  induction h with
  | refl => rfl
  | add _ _ ih => exact ih

/-- No file is touched. -/
theorem AddsDirectories.fileAt? (h : AddsDirectories t u) (loc : Location) :
    u.fileAt? loc = t.fileAt? loc := by
  induction h with
  | refl => rfl
  | @add u l _ hl ih =>
    by_cases hloc : loc = l
    · subst hloc
      have hroot : loc ≠ [] := Writable.ne_root (.inl hl)
      rw [← ih, FileTree.fileAt?, entry?_set_self u _ hroot, FileTree.fileAt?, hl]
    · rw [fileAt?_set_of_ne u _ hloc, ih]

/-- A path that leads to something still leads to it. -/
theorem AddsDirectories.locateWith (h : AddsDirectories t u) {follow : Bool} {path : Text}
    {e : Entry} (hp : t.locateWith follow path = .ok (.taken l e)) :
    u.locateWith follow path = .ok (.taken l e) := by
  induction h with
  | refl => exact hp
  | @add u loc _ hl ih =>
    rw [locateWith_set (.inl hl) (by simp) ih, Place.after_taken]
    split
    · next hloc =>
      -- nothing stood there, so what the path found was a directory
      subst hloc
      have hs : e = (u.entry? l).getD .directory := stands_of_locateWith ih
      rw [hs, hl]
      rfl
    · rfl

theorem addsDirectories_of_makeDirectory {path : Text} (h : t.makeDirectory path = .ok u) :
    AddsDirectories t u := by
  unfold makeDirectory at h
  split at h
  · cases h
  · next l hl =>
    split at h
    · cases h
    · cases h
      have hfree : t.entry? l = none := stands_of_locateWith hl
      exact (AddsDirectories.refl t).add hfree
  · cases h

theorem addsDirectories_of_ensureDirectory {path : PathName} (h : t.ensureDirectory path = .ok u) :
    AddsDirectories t u := by
  unfold ensureDirectory at h
  split at h
  · next t' ht => cases h; exact addsDirectories_of_makeDirectory ht
  · split at h
    · cases h
    · split at h
      · cases h; exact .refl t
      · cases h
      · cases h

theorem addsDirectories_changed {x : Except AccessError FileTree}
    (h : ∀ u, x = .ok u → AddsDirectories t u) : AddsDirectories t (t.changed x).tree := by
  cases x with
  | ok u => exact h u rfl
  | error e => exact .refl t

/-- Making directories only makes directories, also when it is cut short. -/
theorem addsDirectories_ensureDirectoriesAlong (t : FileTree) (root : Text) (depth : Depth)
    (names : List Text) : AddsDirectories t (t.ensureDirectoriesAlong root depth names).tree := by
  induction names generalizing depth with
  | nil => exact addsDirectories_changed fun u => addsDirectories_of_ensureDirectory
  | cons name above ih =>
    unfold ensureDirectoriesAlong
    simp only
    split
    · split
      · exact .refl t
      · next deeper _ =>
        -- the directory above is missing, and is made first
        have hup := ih deeper
        split
        · next t' ht =>
          rw [ht] at hup
          exact hup.trans (addsDirectories_changed fun u => addsDirectories_of_ensureDirectory)
        · exact hup
    · exact addsDirectories_changed fun u => addsDirectories_of_ensureDirectory

theorem addsDirectories_ensureDirectories (t : FileTree) (path : PathName) :
    AddsDirectories t (t.ensureDirectories path).tree :=
  addsDirectories_ensureDirectoriesAlong t path.root _ path.names.reverse

/-! ### Files -/

/-- The file that a path leads to was written at a location that may be written, once directories
were made. -/
structure Wrote (t : FileTree) (path : PathName) (content : Bytes) (l : Location) (v : FileTree) :
    Prop where
  reached : ∃ u place, AddsDirectories t u ∧ u.locate path.toText = .ok place ∧ place.location = l ∧
    u.Writable l ∧ v = u.set l (.file content)
  admitted : t.host.refuses .write l = none

/-- What a change by writing a file may be: the file is written as a whole, or it is left with its
first bytes, or no file is touched. -/
inductive Writing (t : FileTree) (path : PathName) (content : Bytes) : Change → Prop
  | whole {v : FileTree} {l : Location} (h : Wrote t path content l v) : Writing t path content ⟨v, none⟩
  | part {v : FileTree} {l : Location} {problem : AccessError} {taken : Nat}
    (h : Wrote t path (content.take taken) l v) : Writing t path content ⟨v, some problem⟩
  | refused {v : FileTree} {problem : AccessError} (h : AddsDirectories t v) :
    Writing t path content ⟨v, some problem⟩

theorem writing_writeAt {path : PathName} {place : Place} (content : Bytes) (hd : AddsDirectories t u)
    (hp : u.locate path.toText = .ok place) (hw : u.Writable place.location) :
    Writing t path content (u.writeAt path.toText place.location content) := by
  unfold writeAt
  split
  · exact .refused hd
  · next hr _ => exact .part ⟨⟨u, place, hd, hp, rfl, hw, rfl⟩, by rw [← hd.host, hr]⟩
  · next hr _ => exact .whole ⟨⟨u, place, hd, hp, rfl, hw, rfl⟩, by rw [← hd.host, hr]⟩

theorem writing_writeBytes {path : PathName} (content : Bytes) (hd : AddsDirectories t u) :
    Writing t path content (u.writeBytes path.toText content) := by
  unfold writeBytes
  split
  · next l old hp =>
    exact writing_writeAt content hd hp (.inr ⟨old, entry?_of_locateWith_file hp⟩)
  · exact .refused hd
  · next l hp =>
    have hfree : u.entry? l = none := stands_of_locateWith hp
    exact writing_writeAt content hd hp (.inl hfree)
  · exact .refused hd

/-- **What writing a file may do**, with the directories above it. -/
theorem writing_writeBytesDeep (t : FileTree) (path : PathName) (content : Bytes) :
    Writing t path content (t.writeBytesDeep path content) := by
  have hd := addsDirectories_ensureDirectories t path.parent
  unfold writeBytesDeep
  split
  · next u hu =>
    rw [hu] at hd
    exact writing_writeBytes content hd
  · next cutShort hcut =>
    generalize t.ensureDirectories path.parent = change at hd hcut
    obtain ⟨u, _ | problem⟩ := change
    · exact absurd rfl (hcut u)
    · exact .refused hd

theorem wrote_of_writeDocument {path : PathName} {text : Text}
    (h : t.writeDocument path text = ⟨v, none⟩) : ∃ l, Wrote t path (Utf8.encode text) l v := by
  have hw := t.writing_writeBytesDeep path (Utf8.encode text)
  rw [show t.writeBytesDeep path (Utf8.encode text) = ⟨v, none⟩ from h] at hw
  cases hw with
  | whole h => exact ⟨_, h⟩

variable {path : PathName} {content : Bytes}

theorem Wrote.locate (h : Wrote t path content l v) :
    v.locate path.toText = .ok (.taken l (.file content)) := by
  obtain ⟨⟨u, place, -, hp, rfl, hl, rfl⟩, -⟩ := h
  refine (locateWith_set hl (by simp) hp).trans ?_
  rw [Place.after, if_pos rfl]

/-- No other file is touched. -/
theorem Wrote.fileAt?_of_ne (h : Wrote t path content l v) {loc : Location} (hloc : loc ≠ l) :
    v.fileAt? loc = t.fileAt? loc := by
  obtain ⟨⟨u, place, hd, -, -, -, rfl⟩, -⟩ := h
  rw [FileTree.fileAt?_set_of_ne u _ hloc, hd.fileAt?]

/-- Another path leads to the file that was written or to what it led to. -/
theorem Wrote.locate_of_taken (h : Wrote t path content l v) {other : Text} {loc : Location}
    {e : Entry} (ho : t.locate other = .ok (.taken loc e)) :
    v.locate other = .ok (if loc = l then .taken l (.file content) else .taken loc e) := by
  obtain ⟨⟨u, place, hd, -, -, hl, rfl⟩, -⟩ := h
  exact locateWith_set hl (by simp) (hd.locateWith ho)

theorem Wrote.host (h : Wrote t path content l v) : v.host = t.host := by
  obtain ⟨⟨u, place, hd, -, -, -, rfl⟩, -⟩ := h
  exact hd.host

theorem Wrote.readable (h : Wrote t path content l v) : v.host.refuses .read l = none := by
  rw [h.host]
  exact t.host.read_of_write l h.admitted

theorem isFile_of_locate (h : t.locate path.toText = .ok (.taken l (.file content))) :
    t.isFile path.toText = .ok true := by
  rw [isFile, holds, h]
  rfl

theorem readBytes_eq_ok_iff {file : Text} {bytes : Bytes} : t.readBytes file = .ok bytes ↔
    ∃ l, t.locate file = .ok (.taken l (.file bytes)) ∧ t.host.refuses .read l = none := by
  unfold readBytes
  constructor
  · intro h
    split at h
    · next l e hl =>
      split at h
      · cases h
      · next hr => cases h; exact ⟨l, hl, hr⟩
      · cases h
    · cases h
    · cases h
  · rintro ⟨l, hl, hr⟩
    simp only [hl, hr]

/-- What a file that a path leads to holds is read, if it may be. -/
theorem readDocument_of_locate {text : Text}
    (h : t.locate path.toText = .ok (.taken l (.file content)))
    (hr : t.host.refuses .read l = none) (hc : Utf8.decode content = .ok text) :
    t.readDocument path = .ok (Utf8.unifyLineEnds text) := by
  have hb := readBytes_eq_ok_iff.2 ⟨l, h, hr⟩
  unfold readDocument Utf8.readDocument
  simp only [isFile_of_locate h, hb, mapError_ok, bind, Except.bind, reduceIte, hc]
  rfl

theorem readable_of_readDocument {text : Text} (h : t.readDocument path = .ok text)
    (hl : t.locate path.toText = .ok (.taken l (.file content))) : t.host.refuses .read l = none := by
  unfold readDocument at h
  simp only [isFile_of_locate hl, mapError_ok, bind_eq_ok_iff, mapError_eq_ok_iff, Except.ok.injEq,
    exists_eq_left', reduceIte] at h
  obtain ⟨bytes, hb, -⟩ := h
  obtain ⟨l', hl', hr⟩ := readBytes_eq_ok_iff.1 hb
  cases hl.symm.trans hl'
  exact hr

/-- A document that is read is a file, or there is none. -/
theorem readDocument_cases {text : Text} (h : t.readDocument path = .ok text) : text = [] ∨
    ∃ l source, t.locate path.toText = .ok (.taken l (.file (Utf8.encode source))) ∧
      t.host.refuses .read l = none ∧ text = Utf8.unifyLineEnds source := by
  unfold readDocument at h
  simp only [bind_eq_ok_iff, mapError_eq_ok_iff] at h
  obtain ⟨isThere, -, h⟩ := h
  split at h
  · simp only [bind_eq_ok_iff, mapError_eq_ok_iff] at h
    obtain ⟨bytes, hb, hd⟩ := h
    obtain ⟨l, hl, hr⟩ := readBytes_eq_ok_iff.1 hb
    obtain ⟨source, hs, rfl⟩ := map_eq_ok_iff.1 hd
    exact .inr ⟨l, source, Utf8.decode_eq_ok_iff.1 hs ▸ hl, hr, rfl⟩
  · cases h
    exact .inl rfl

/-- **A document is read back**, with the line ends that reading gives it. -/
theorem Wrote.readDocument {text : Text} (h : Wrote t path (Utf8.encode text) l v) :
    v.readDocument path = .ok (Utf8.unifyLineEnds text) :=
  readDocument_of_locate h.locate h.readable (Utf8.decode_encode text)

end CommentTasks.FileTree
