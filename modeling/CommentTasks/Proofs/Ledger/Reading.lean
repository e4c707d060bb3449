import CommentTasks.Proofs.Ledger.File
import CommentTasks.Proofs.Note.Reading

/-!
# A ledger that is read as a source file

The file of a ledger may stand among the source files. Each of its lines begins with a brace or a
quote, and whatever its digests and stamps are, they are written on one line: so no line of it is a
line comment.
-/

namespace CommentTasks

variable {ks : Keywords} {path : Text}

/-- The text is one line, whose first character that is no blank begins no line comment. -/
structure PlainLine (line : Text) : Prop where
  sameLine : '\n' ∉ line
  begins : ∃ n c rest, line = List.replicate n ' ' ++ c :: rest ∧ Text.isBlank c = false ∧
    c ∉ LineMark.heads

namespace PlainLine

variable {line : Text}

theorem append (h : PlainLine line) {s : Text} (hs : '\n' ∉ s) : PlainLine (line ++ s) := by
  obtain ⟨hl, n, c, rest, rfl, hb, hc⟩ := h
  exact ⟨by rw [List.mem_append, not_or]; exact ⟨hl, hs⟩, n, c, rest ++ s,
    by rw [List.append_assoc, List.cons_append], hb, hc⟩

theorem lineTasks (h : PlainLine line) : lineTasks ks path line = [] := by
  obtain ⟨hl, n, c, rest, rfl, hb, hc⟩ := h
  refine lineTasks_of_not_mem hl ?_
  obtain ⟨s, hs⟩ := Text.exists_trim_cons hb rest
  have hblank : ∀ c ∈ List.replicate n ' ', Text.isBlank c := by
    intro c hc
    obtain rfl := List.eq_of_mem_replicate hc
    rfl
  have ht := Text.trim_append_of_blank hblank (List.forall_mem_nil _) (c :: rest)
  rw [List.append_nil, hs] at ht
  unfold lineBody?
  simp only [ht, LineMark.at?_eq_none_of_head hc]

/-- A plain line is no comment, whatever lines follow. -/
theorem lineTasks_append (h : PlainLine line) {rest : Text}
    (hr : CommentTasks.lineTasks ks path rest = []) :
    CommentTasks.lineTasks ks path (line ++ '\n' :: rest) = [] := by
  rw [lineTasks_append_newline, h.lineTasks, hr]
  rfl

end PlainLine

namespace Ledger

theorem plainLine_member (n : Nat) (key : Text) {v : Text} (hv : '\n' ∉ v) :
    PlainLine (List.replicate n ' ' ++ Json.printString key ++ ": ".toList ++ v) := by
  have hkey : '\n' ∉ Json.printString key := Json.lineEnd_not_mem_printString (.inl rfl) key
  refine ⟨by simp [hkey, hv], n, '"', key.flatMap Json.escapeChar ++ ['"'] ++ ": ".toList ++ v,
    ?_, by decide, by decide⟩
  simp [Json.printString]

theorem plainLine_string (n : Nat) (x : Text × Text) : PlainLine (List.replicate n ' ' ++
    Json.printString x.1 ++ ": ".toList ++ Json.printString x.2) :=
  plainLine_member n x.1 (Json.lineEnd_not_mem_printString (.inl rfl) x.2)

/-- The members of a ledger behind a line, and what follows them. -/
theorem lineTasks_printMembers {line rest : Text} (depth : Nat) (entries : List (Text × Text))
    (hl : PlainLine line) (hr : lineTasks ks path rest = []) :
    lineTasks ks path (line ++ Json.printMembers depth (entries.map fun x => (x.1, .string x.2)) ++
      '\n' :: rest) = [] := by
  induction entries generalizing line with
  | nil =>
    rw [List.map_nil, Json.printMembers, List.append_nil]
    exact hl.lineTasks_append hr
  | cons x entries ih =>
    have h := (hl.append (s := [',']) (by decide)).lineTasks_append
      (ih (plainLine_string (2 * depth) x))
    simpa [Json.printMembers, Json.newLine, Json.printAt] using h

/-- **The text of a ledger states no task in a line comment.** -/
theorem lineTasks_toText (l : Ledger) : lineTasks ks path l.toText = [] := by
  have brace (n : Nat) {c : Char} (hb : Text.isBlank c = false) (hc : c ∉ LineMark.heads)
      (hn : '\n' ≠ c) : PlainLine (List.replicate n ' ' ++ [c]) :=
    ⟨by simp [hn], n, c, [], rfl, hb, hc⟩
  have opening := brace 0 (c := '\x7b') (by decide) (by decide) (by decide)
  have closing := brace 0 (c := '\x7d') (by decide) (by decide) (by decide)
  have hend : lineTasks ks path ('\x7d' :: ['\n']) = [] := closing.lineTasks_append lineTasks_nil
  obtain ⟨entries, torn, _⟩ := l
  cases entries with
  | nil =>
    have h := opening.lineTasks_append
      ((plainLine_member 2 "seen".toList (v := "\x7b\x7d".toList) (by decide)).lineTasks_append hend)
    exact h
  | cons x entries =>
    have h := opening.lineTasks_append
      ((plainLine_member 2 "seen".toList (v := ['\x7b']) (by decide)).lineTasks_append
        (lineTasks_printMembers 2 entries (plainLine_string 4 x)
          ((brace 2 (c := '\x7d') (by decide) (by decide) (by decide)).lineTasks_append hend)))
    simpa [toText, toJson, Json.print, Json.printAt, Json.newLine, Json.printMembers] using h

/-- A ledger that is read as a source file is read as it was written. -/
theorem decodeSource_toText {l : Ledger} {content : Text}
    (h : decodeSource (Utf8.encode l.toText) = some content) : content = l.toText := by
  have hhead : l.toText.head? = some '\x7b' := by
    obtain ⟨_ | _, _, _⟩ := l <;> rfl
  rw [decodeSource_encode (looksLikeText_of_decodeSource h),
    dropWhile_mark_of_head (by rw [hhead]; decide)] at h
  exact (Option.some.inj h).symm

end Ledger

end CommentTasks
