import CommentTasks.Ledger.File
import CommentTasks.Proofs.FileTree.Change
import CommentTasks.Proofs.Json.Depth
import CommentTasks.Proofs.Json.RoundTrip
import CommentTasks.Proofs.Text.LineEnds
import CommentTasks.Proofs.Value.Show

/-!
# The ledger in its file

New digests go to the end of a ledger in the order in which they are entered, and the ledger that is
written is the ledger that is read: `load_of_wrote`.
-/

namespace CommentTasks.Ledger

/-! ### Entries -/

theorem ext {l m : Ledger} (he : l.entries = m.entries) (ht : l.isTorn = m.isTorn) : l = m := by
  cases l
  cases m
  simp only at he ht
  subst he ht
  rfl

/-- New digests go to the end, in order, with their stamps. -/
theorem entries_markAll {l : Ledger} {entries : List (Text × Text)}
    (h : (Keyed.keys (l.entries ++ entries)).Nodup) :
    (l.markAll entries).entries = l.entries ++ entries := by
  induction entries generalizing l with
  | nil => rw [markAll_nil, List.append_nil]
  | cons x rest ih =>
    have hx : (l.mark x.1 x.2).entries = l.entries ++ [x] := by
      refine Keyed.put_of_not_mem fun hm => ?_
      rw [Keyed.keys, List.map_append, List.nodup_append] at h
      exact h.2.2 _ hm _ List.mem_cons_self rfl
    have hrest : (l.mark x.1 x.2).entries ++ rest = l.entries ++ x :: rest := by
      rw [hx, List.append_assoc, List.singleton_append]
    rw [markAll_cons, ih (by rw [hrest]; exact h), hrest]

theorem ofEntries_entries {l : Ledger} (h : l.isTorn = false) : ofEntries l.entries = l :=
  ext (entries_markAll (by simpa [empty] using l.nodup)) ((isTorn_markAll empty _).trans h.symm)

/-! ### The document -/

/-- The entries of a ledger as they are read. -/
theorem wideMembers_strings (entries : List (Text × Text)) :
    Json.wideMembers (entries.map fun x => (x.1, .string x.2)) =
      entries.map fun x => (.text x.1, .string (.text x.2)) := by
  induction entries with
  | nil => rfl
  | cons x rest ih => rw [List.map_cons, Json.wideMembers, ih, Json.wide, List.map_cons]

theorem stampsOf_strings (room : Depth) (entries : List (Text × Text)) :
    stampsOf room (entries.map fun x => (.text x.1, .string (.text x.2))) =
      .ok (entries.map fun x => (.text x.1, .text x.2)) := by
  induction entries with
  | nil => rfl
  | cons x rest ih =>
    unfold stampsOf at ih ⊢
    rw [List.map_cons, List.mapM_cons, ih]
    rfl

theorem stampOf_keeps (v : Json Wide) : KeepsUnbounded fun room => stampOf room v := by
  cases v
  case string s => exact keepsUnbounded_const _
  all_goals exact (Value.shown_keeps _).map _

theorem stampsOf_keep (members : List (Wide × Json Wide)) :
    KeepsUnbounded fun room => stampsOf room members :=
  keepsUnbounded_mapM (fun _ => (stampOf_keeps _).map _) members

/-- The ledger of texts has them as entries, and is not torn. -/
theorem ofStamps_texts (entries : List (Text × Text)) :
    ofStamps (entries.map fun x => (.text x.1, .text x.2)) = ofEntries entries := by
  have hall : (entries.map fun x => (Wide.text x.1, Wide.text x.2)).all isWhole := by
    simp [List.all_map, isWhole]
  have hfilter : (entries.map fun x => (Wide.text x.1, Wide.text x.2)).filterMap entryOf? = entries := by
    rw [List.filterMap_map]
    exact List.filterMap_some
  have htorn : (ofEntries entries).isTorn = false := isTorn_markAll empty entries
  refine ext (by rw [ofStamps, hfilter]) ?_
  rw [htorn, ofStamps, hall]
  rfl

theorem faithfulMembers_strings (limit : Option Nat) (room : Depth) (entries : List (Text × Text)) :
    Json.FaithfulMembers limit room (entries.map fun x => (x.1, .string x.2)) := by
  induction entries with
  | nil => trivial
  | cons x rest ih => exact ⟨trivial, ih⟩

/-- A ledger has two brackets open at most. -/
theorem faithful_toJson (limit : Option Nat) {room : Depth} (hr : ∀ n ∈ room, 2 ≤ n) (l : Ledger) :
    Json.Faithful limit room l.toJson := by
  have hdown : ∃ inner innermost, room.down? = some inner ∧ Depth.down? inner = some innermost := by
    match room with
    | none => exact ⟨none, none, rfl, rfl⟩
    | some 0 => exact absurd (hr 0 rfl) (by decide)
    | some 1 => exact absurd (hr 1 rfl) (by decide)
    | some (n + 2) => exact ⟨some (n + 1), some n, rfl, rfl⟩
  obtain ⟨inner, innermost, h, h'⟩ := hdown
  refine ⟨inner, h, by simp [Keyed.keys], ⟨innermost, h', ?_, faithfulMembers_strings _ _ l.entries⟩,
    trivial⟩
  rw [Keyed.keys, List.map_map]
  exact l.nodup

/-- The text of a ledger file begins with a brace. -/
theorem isAllBlank_toText (l : Ledger) : Text.isAllBlank l.toText = false := by
  have hb : Text.isBlank '\x7b' = false := by decide
  simp [toText, toJson, Json.print, Json.printAt, Text.isAllBlank, hb]

theorem return_not_mem_toText (l : Ledger) : '\r' ∉ l.toText := by
  have hl : Json.Faithful none none l.toJson := l.faithful_toJson none (by simp)
  rw [toText, List.mem_append, not_or]
  exact ⟨Json.return_not_mem_print hl, by decide⟩

/-- **A ledger is read back from its text**, if it is not torn. -/
theorem ofText_toText (host : Host) (path : Text) {l : Ledger} (h : l.isTorn = false) :
    ofText host path l.toText = .ok l := by
  have hs : l.toJson.wide.member? (.text "seen".toList) =
      some (.object (l.entries.map fun x => (.text x.1, .string (.text x.2)))) := by
    rw [toJson, Json.wide, Json.wideMembers, Json.wide, wideMembers_strings]
    rfl
  unfold ofText
  rw [if_neg (by rw [isAllBlank_toText]; decide), toText, Json.parse,
    Json.parseWithin_print (l.faithful_toJson _ host.depths.two_le_json)]
  simp only [hs, stampsOf_strings, ofStamps_texts, ofEntries_entries h]

/-- A ledger that is read on a host is read on one without limits, wherever the file is. -/
theorem ofText_unbounded {host : Host} {path path' t : Text} {l : Ledger}
    (h : ofText host path t = .ok l) : ofText {} path' t = .ok l := by
  unfold ofText at h ⊢
  by_cases hb : Text.isAllBlank t
  · rw [if_pos hb] at h ⊢
    exact h
  · rw [if_neg hb] at h ⊢
    split at h
    · cases h
    · cases h
    · next v hv =>
      rw [Json.parse_unbounded hv]
      -- the path only stands in the errors
      split at h
      · next members hs =>
        simp only [hs]
        split at h
        · next stamps hstamps =>
          simp only [show stampsOf none members = .ok stamps from stampsOf_keep members _ _ hstamps]
          exact h
        · cases h
        · cases h
      · cases h

/-! ### The file -/

theorem load_eq_ok_iff {t : FileTree} {path : PathName} {l : Ledger} :
    load t path = .ok l ↔
      ∃ text, t.readDocument path = .ok text ∧ ofText t.host path.toText text = .ok l := by
  unfold load
  cases t.readDocument path with
  | ok text => simp
  | error e => simp

/-- **The ledger that was written is read.** -/
theorem readDocument_of_wrote {t v : FileTree} {path : PathName} {loc : Location} {l : Ledger}
    (h : t.Wrote path (Utf8.encode l.toText) loc v) : v.readDocument path = .ok l.toText := by
  rw [h.readDocument, Utf8.unifyLineEnds_of_not_mem l.return_not_mem_toText]

variable {t v : FileTree} {l : Ledger} {path : PathName}

theorem save_eq (h : l.isTorn = false) (t : FileTree) (path : PathName) :
    l.save t path = t.writeDocument path l.toText := by
  rw [save, h]
  rfl

/-- A ledger that is saved is not torn, and its document is written. -/
theorem save_eq_whole_iff : l.save t path = ⟨v, none⟩ ↔
    l.isTorn = false ∧ t.writeDocument path l.toText = ⟨v, none⟩ := by
  unfold save FileTree.writeUnencodable
  cases l.isTorn with
  | false => simp
  | true =>
    -- the file is opened at best, and then the text has no bytes
    cases t.writeBytesDeep path [] with
    | mk u problem => cases problem <;> simp

theorem wrote_of_save (h : l.save t path = ⟨v, none⟩) :
    l.isTorn = false ∧ ∃ loc, t.Wrote path (Utf8.encode l.toText) loc v := by
  obtain ⟨whole, hw⟩ := save_eq_whole_iff.1 h
  exact ⟨whole, FileTree.wrote_of_writeDocument hw⟩

/-- The bytes with which a ledger is written. Half a surrogate pair has no bytes, so nothing is
written of a ledger that is torn. -/
def bytes (l : Ledger) : Bytes := if l.isTorn then [] else Utf8.encode l.toText

/-- **What saving a ledger may do.** A torn one leaves its file empty. -/
theorem writing_save (l : Ledger) (t : FileTree) (path : PathName) :
    FileTree.Writing t path l.bytes (l.save t path) := by
  unfold save bytes
  split
  · have hw := t.writing_writeBytesDeep path []
    have hnone : ([] : Bytes) = List.take 0 [] := rfl
    unfold FileTree.writeUnencodable
    generalize t.writeBytesDeep path [] = change at hw ⊢
    cases hw with
    | whole h =>
      rw [hnone] at h
      exact .part h
    | part h => exact .part h
    | refused h => exact .refused h
  · exact t.writing_writeBytesDeep path _

end CommentTasks.Ledger
