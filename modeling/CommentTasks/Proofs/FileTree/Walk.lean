import CommentTasks.FileTree.Access
import CommentTasks.Proofs.Except

/-!
# Where paths lead to after a change

Setting a file or a directory where nothing but a file was keeps every way through the tree: a path
leads to the same location as before, and finds the new entry if this is where it leads to.
-/

namespace CommentTasks

/-- The location of a place. -/
def Place.location : Place → Location
  | .taken l _ => l
  | .free l => l

/-- The place that a way finds once there is an entry at a location. -/
def Place.after (l : Location) (e : Entry) (place : Place) : Place :=
  if place.location = l then .taken l e else place

@[simp] theorem Place.after_taken (l other : Location) (e x : Entry) :
    (Place.taken other x).after l e = if other = l then .taken l e else .taken other x := rfl

@[simp] theorem Place.after_free (l other : Location) (e : Entry) :
    (Place.free other).after l e = if other = l then .taken l e else .free other := rfl

namespace FileTree

/-- The bytes of the file at a location. -/
def fileAt? (t : FileTree) (loc : Location) : Option Bytes :=
  match t.entry? loc with
  | some (.file content) => some content
  | _ => none

/-- Nothing is there, or a file. -/
def Writable (t : FileTree) (loc : Location) : Prop :=
  t.entry? loc = none ∨ ∃ content, t.entry? loc = some (.file content)

/-- The place is as the tree has it. A way that ends where nothing stands finds a directory. -/
def Stands (t : FileTree) : Place → Prop
  | .taken l e => e = (t.entry? l).getD .directory
  | .free l => t.entry? l = none

variable {t : FileTree} {l : Location}

theorem Writable.ne_root (h : t.Writable l) : l ≠ [] := by
  rintro rfl
  rcases h with h | ⟨_, h⟩ <;> cases h

theorem stands_of_walkNames {follow : Bool} {hops : Nat} {loc : Location} {names : List Text}
    {place : Place} (h : t.walkNames follow hops loc names = .ok place) : t.Stands place := by
  fun_induction walkNames t follow hops loc names with
  | case1 => cases h; rfl
  | case2 => cases h
  | case3 hops loc rest _ ih => exact ih h
  | case4 hops loc rest _ _ ih => exact ih h
  | case5 => cases h
  | case6 hops loc name _ _ _ _ next hn => cases h; exact hn
  | case7 => cases h
  | case8 hops loc name rest _ _ _ _ next hn ih => exact ih h
  | case9 hops loc name _ _ _ _ next content hn => cases h; simp [Stands, hn]
  | case10 => cases h
  | case11 hops loc name rest _ _ _ _ next target hn _ => cases h; simp [Stands, hn]
  | case12 => cases h
  | case13 loc name rest _ _ _ _ next target hn _ hops ih => exact ih h

/-! ### One step -/

/-- The name is one to go to: it does not stand for a directory on the way, and it is not too
long. -/
structure Leads (name : Text) : Prop where
  ne_dot : name ≠ ['.']
  ne_up : name ≠ "..".toList
  short : ¬maxNameBytes < (Utf8.encode name).length

section

variable {follow : Bool} {hops : Nat} {loc : Location} {name : Text} {rest : List Text}

theorem walkNames_refused {reason : Text} (hs : t.host.refuses .search loc = some reason) :
    t.walkNames follow hops loc (name :: rest) = .error (.refused reason) := by
  rw [walkNames, hs]

theorem search_of_walkNames {place : Place}
    (h : t.walkNames follow hops loc (name :: rest) = .ok place) :
    t.host.refuses .search loc = none := by
  cases hs : t.host.refuses .search loc with
  | none => rfl
  | some reason =>
    rw [walkNames_refused hs] at h
    cases h

theorem walkNames_dot (hs : t.host.refuses .search loc = none) :
    t.walkNames follow hops loc (['.'] :: rest) = t.walkNames follow hops loc rest := by
  rw [walkNames, hs]
  exact if_pos rfl

theorem walkNames_up (hs : t.host.refuses .search loc = none) :
    t.walkNames follow hops loc ("..".toList :: rest) =
      t.walkNames follow hops loc.dropLast rest := by
  rw [walkNames, hs]
  exact (if_neg (by decide)).trans (if_pos rfl)

/-- A name that leads on is looked up in a directory that may be searched. -/
theorem walkNames_lookup (hs : t.host.refuses .search loc = none) (hn : Leads name) :
    t.walkNames follow hops loc (name :: rest) = match t.entry? (loc ++ [name]) with
      | none => if rest = [] then .ok (.free (loc ++ [name])) else .error .noEntry
      | some .directory => t.walkNames follow hops (loc ++ [name]) rest
      | some (.file content) =>
        if rest = [] then .ok (.taken (loc ++ [name]) (.file content)) else .error .notDirectory
      | some (.link target) =>
        if rest = [] ∧ !follow then .ok (.taken (loc ++ [name]) (.link target))
        else match hops with
          | 0 => .error .tooManyLinks
          | hops + 1 => t.walkNames follow hops (if target.head? = some '/' then [] else loc)
              (steps target ++ rest) := by
  rw [walkNames, hs]
  exact (if_neg hn.ne_dot).trans ((if_neg hn.ne_up).trans (if_neg hn.short))

theorem walkNames_free (hs : t.host.refuses .search loc = none) (hn : Leads name)
    (h : t.entry? (loc ++ [name]) = none) :
    t.walkNames follow hops loc [name] = .ok (.free (loc ++ [name])) := by
  simp only [walkNames_lookup hs hn, h, if_true]

theorem walkNames_directory (hs : t.host.refuses .search loc = none) (hn : Leads name)
    (h : t.entry? (loc ++ [name]) = some .directory) :
    t.walkNames follow hops loc (name :: rest) = t.walkNames follow hops (loc ++ [name]) rest := by
  simp only [walkNames_lookup hs hn, h]

theorem walkNames_file (hs : t.host.refuses .search loc = none) (hn : Leads name) {content : Bytes}
    (h : t.entry? (loc ++ [name]) = some (.file content)) :
    t.walkNames follow hops loc [name] = .ok (.taken (loc ++ [name]) (.file content)) := by
  simp only [walkNames_lookup hs hn, h, if_true]

/-- A link at the end that is not followed is found itself. -/
theorem walkNames_link_end (hs : t.host.refuses .search loc = none) (hn : Leads name) {target : Text}
    (h : t.entry? (loc ++ [name]) = some (.link target)) (hend : rest = [] ∧ !follow) :
    t.walkNames follow hops loc (name :: rest) = .ok (.taken (loc ++ [name]) (.link target)) := by
  simp only [walkNames_lookup hs hn, h, if_pos hend]

/-- Any other link leads on to its target. -/
theorem walkNames_link (hs : t.host.refuses .search loc = none) (hn : Leads name) {target : Text}
    (h : t.entry? (loc ++ [name]) = some (.link target)) (hend : ¬(rest = [] ∧ !follow)) :
    t.walkNames follow (hops + 1) loc (name :: rest) =
      t.walkNames follow hops (if target.head? = some '/' then [] else loc)
        (steps target ++ rest) := by
  simp only [walkNames_lookup hs hn, h, if_neg hend]

end

/-! ### All steps -/

/-- What is neither free nor a file is still there when a file or a free place is set. -/
theorem Writable.entry?_set (hl : t.Writable l) (e : Entry) {other : Location} {x : Entry}
    (hx : t.entry? other = some x) (hf : ∀ content, x ≠ .file content) :
    FileTree.entry? (t.set l e) other = some x := by
  rw [entry?_set_of_ne, hx]
  rintro rfl
  rcases hl with hl | ⟨content, hl⟩
  · rw [hl] at hx; cases hx
  · exact hf content (Option.some.inj (hx.symm.trans hl))

/-- A way through the tree ends where it did before. -/
theorem walkNames_set (hl : t.Writable l) {e : Entry} (he : ∀ target, e ≠ .link target)
    {follow : Bool} {hops : Nat} {loc : Location} {names : List Text} {place : Place}
    (h : t.walkNames follow hops loc names = .ok place) :
    (t.set l e).walkNames follow hops loc names = .ok (place.after l e) := by
  have hroot := hl.ne_root
  -- the last name leads to the entry if this is where it led
  have last {loc : Location} {hops : Nat} {name : Text} (hs : t.host.refuses .search loc = none)
      (hn : Leads name) (hnext : loc ++ [name] = l) :
      (t.set l e).walkNames follow hops loc [name] = .ok (.taken l e) := by
    subst hnext
    have hs : (t.set (loc ++ [name]) e).host.refuses .search loc = none := hs
    have he' := t.entry?_set_self e hroot
    cases e with
    | file content => exact walkNames_file hs hn he'
    | directory => rw [walkNames_directory hs hn he', walkNames, he']; rfl
    | link target => exact absurd rfl (he target)
  fun_induction walkNames t follow hops loc names with
  | case1 hops loc =>
    cases h
    rw [walkNames, Place.after_taken]
    split
    · next hn => rw [hn, entry?_set_self t e hroot]; rfl
    · next hn => rw [entry?_set_of_ne t e hn]
  | case2 => cases h
  | case3 hops loc rest hs ih => exact (walkNames_dot (t := t.set l e) hs).trans (ih h)
  | case4 hops loc rest hs _ ih => exact (walkNames_up (t := t.set l e) hs).trans (ih h)
  | case5 => cases h
  | case6 hops loc name hs hdot hup hlen next hn =>
    cases h
    rw [Place.after_free]
    split
    · next hne => exact last hs ⟨hdot, hup, hlen⟩ hne
    · next hne =>
      have hn' := (entry?_set_of_ne t e hne).trans hn
      exact walkNames_free (t := t.set l e) hs ⟨hdot, hup, hlen⟩ hn'
  | case7 => cases h
  | case8 hops loc name rest hs hdot hup hlen next hn ih =>
    rw [walkNames_directory (t := t.set l e) hs ⟨hdot, hup, hlen⟩ (hl.entry?_set e hn (by simp))]
    exact ih h
  | case9 hops loc name hs hdot hup hlen next content hn =>
    cases h
    rw [Place.after_taken]
    split
    · next hne => exact last hs ⟨hdot, hup, hlen⟩ hne
    · next hne =>
      have hn' := (entry?_set_of_ne t e hne).trans hn
      exact walkNames_file (t := t.set l e) hs ⟨hdot, hup, hlen⟩ hn'
  | case10 => cases h
  | case11 hops loc name rest hs hdot hup hlen next target hn hend =>
    cases h
    have hne : next ≠ l := by
      rintro rfl
      rcases hl with hl | ⟨content, hl⟩ <;> rw [hl] at hn <;> cases hn
    rw [walkNames_link_end (t := t.set l e) hs ⟨hdot, hup, hlen⟩ (hl.entry?_set e hn (by simp)) hend,
      Place.after_taken, if_neg hne]
  | case12 => cases h
  | case13 loc name rest hs hdot hup hlen next target hn hend hops ih =>
    rw [walkNames_link (t := t.set l e) hs ⟨hdot, hup, hlen⟩ (hl.entry?_set e hn (by simp)) hend]
    exact ih h

/-! ### Written paths -/

/-- A path leads to a place if it is one and its names do. -/
theorem locateWith_eq_ok_iff {follow : Bool} {path : Text} {place : Place} :
    t.locateWith follow path = .ok place ↔
      ¬path.contains '\x00' ∧ path ≠ [] ∧ ¬maxPathBytes < (Utf8.encode path).length ∧
        t.walkNames follow maxLinks (if path.head? = some '/' then [] else t.workingDirectory)
          (steps path) = .ok place := by
  unfold locateWith
  simp only [mapError_eq_ok_iff]
  constructor
  · intro h
    split at h
    · cases h
    · next hnull =>
      split at h
      · cases h
      · next hempty =>
        split at h
        · cases h
        · next hlong => exact ⟨hnull, hempty, hlong, h⟩
  · rintro ⟨hnull, hempty, hlong, h⟩
    rw [if_neg hnull, if_neg hempty, if_neg hlong, h]

theorem stands_of_locateWith {follow : Bool} {path : Text} {place : Place}
    (h : t.locateWith follow path = .ok place) : t.Stands place :=
  stands_of_walkNames (locateWith_eq_ok_iff.1 h).2.2.2

/-- A path leads to where it led before there was an entry at a location. -/
theorem locateWith_set (hl : t.Writable l) {e : Entry} (he : ∀ target, e ≠ .link target)
    {follow : Bool} {path : Text} {place : Place} (h : t.locateWith follow path = .ok place) :
    (t.set l e).locateWith follow path = .ok (place.after l e) := by
  rw [locateWith_eq_ok_iff] at h ⊢
  exact ⟨h.1, h.2.1, h.2.2.1, walkNames_set hl he h.2.2.2⟩

theorem entry?_of_locateWith_file {follow : Bool} {path : Text} {content : Bytes}
    (h : t.locateWith follow path = .ok (.taken l (.file content))) :
    t.entry? l = some (.file content) := by
  have hs : Entry.file content = (t.entry? l).getD .directory := stands_of_locateWith h
  cases he : t.entry? l with
  | none => rw [he] at hs; cases hs
  | some e => rw [he] at hs; exact congrArg some hs.symm

end FileTree

end CommentTasks
