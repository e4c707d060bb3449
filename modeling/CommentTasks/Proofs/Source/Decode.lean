import CommentTasks.Proofs.Encoding.Utf16
import CommentTasks.Proofs.Encoding.Utf8
import CommentTasks.Source.Decode
import Mathlib.Data.List.Basic

/-!
# How source files are read

A file of UTF-8 text that looks like text is read as what was written, without the byte order marks
at its front. Shift-JIS is read as such unless its bytes are those of a UTF-16 text as well, which
is read in its place: `decodeSource_shiftJis`.
-/

namespace CommentTasks

/-- A byte order mark, as a character. -/
def markChar : Char := '\ufeff'

theorem Utf8.byteOrderMark_eq : byteOrderMark = encode [markChar] := by decide

theorem Utf8.dropMark_encode (t : Text) :
    dropMark (encode t) = encode (if t.head? = some markChar then t.tail else t) := by
  unfold dropMark
  rw [byteOrderMark_eq]
  split
  · next ht =>
    obtain ⟨r, rfl⟩ := List.head?_eq_some_iff.1 ht
    have hp : (encode [markChar]).isPrefixOf? (encode (markChar :: r)) = some (encode r) :=
      List.isPrefixOf?_eq_some_iff_append_eq.2 (encode_append [markChar] r).symm
    rw [hp]
    rfl
  · next ht =>
    have hp : (encode [markChar]).isPrefixOf? (encode t) = none := by
      cases hr : (encode [markChar]).isPrefixOf? (encode t) with
      | none => rfl
      | some rest =>
        -- a front of the bytes is a front of the text
        have hpre := encode_isPrefix_iff.1 ⟨rest, List.isPrefixOf?_eq_some_iff_append_eq.1 hr⟩
        obtain ⟨r, rfl⟩ := hpre
        exact absurd rfl ht
    rw [hp]
    rfl

section

variable {marks rest : Text}

theorem exists_marks (t : Text) : ∃ marks rest, t = marks ++ rest ∧
    (∀ c ∈ marks, c = markChar) ∧ rest.head? ≠ some markChar := by
  induction t with
  | nil => exact ⟨[], [], rfl, by simp, by simp⟩
  | cons c t ih =>
    by_cases hc : c = markChar
    · obtain ⟨marks, rest, rfl, hm, hr⟩ := ih
      exact ⟨c :: marks, rest, rfl, List.forall_mem_cons.2 ⟨hc, hm⟩, hr⟩
    · exact ⟨[], c :: t, rfl, by simp, by simpa using hc⟩

theorem dropWhile_mark_of_head (hr : rest.head? ≠ some markChar) :
    rest.dropWhile (· == markChar) = rest := by
  cases rest with
  | nil => rfl
  | cons c r => exact List.dropWhile_cons_of_neg (by simpa using hr)

theorem dropWhile_marks (hm : ∀ c ∈ marks, c = markChar) (hr : rest.head? ≠ some markChar) :
    (marks ++ rest).dropWhile (· == markChar) = rest := by
  rw [List.dropWhile_append_of_pos fun c hc => by simp [hm c hc], dropWhile_mark_of_head hr]

end

/-- **What was written is read**, without the byte order marks at its front. -/
theorem decodeSource_encode {t : Text} (h : looksLikeText (Utf8.encode t)) :
    decodeSource (Utf8.encode t) = some (t.dropWhile (· == markChar)) := by
  unfold decodeSource sourceDecoders
  rw [if_pos h, List.findSome?_cons]
  simp only [Utf8.dropMark_encode, Utf8.decode_encode, Except.toOption, Option.map_some]
  split
  · next ht =>
    obtain ⟨r, rfl⟩ := List.head?_eq_some_iff.1 ht
    rfl
  · rfl

theorem looksLikeText_of_decodeSource {bytes : Bytes} {content : Text}
    (h : decodeSource bytes = some content) : looksLikeText bytes := by
  unfold decodeSource at h
  split at h
  · assumption
  · cases h

theorem Utf8.toOption_decode_eq_none_iff {bytes : Bytes} :
    (decode bytes).toOption = none ↔ ∀ t, bytes ≠ encode t := by
  rw [Option.eq_none_iff_forall_ne_some]
  refine forall_congr' fun t => not_congr ?_
  rw [eq_comm (a := bytes), ← decode_eq_ok_iff]
  cases decode bytes <;> simp [Except.toOption]

theorem Utf8.toOption_decode_dropMark {bytes : Bytes} (h : ∀ t, bytes ≠ encode t) :
    (decode (dropMark bytes)).toOption = none := by
  rw [toOption_decode_eq_none_iff]
  intro t ht
  unfold dropMark at ht
  cases hp : byteOrderMark.isPrefixOf? bytes with
  | none =>
    rw [hp, Option.getD_none] at ht
    exact h t ht
  | some rest =>
    rw [hp, Option.getD_some] at ht
    refine h (markChar :: t) ?_
    rw [← List.isPrefixOf?_eq_some_iff_append_eq.1 hp, byteOrderMark_eq, ht, ← encode_append]
    rfl

/-- **Shift-JIS is read as Shift-JIS**, unless its bytes are those of a UTF-16 text, which is then
read in its place: their number is even, and every surrogate among the units of two bytes is half of
a pair. -/
theorem decodeSource_shiftJis {bytes : Bytes} {text : Text} (hl : looksLikeText bytes)
    (h8 : ∀ t, bytes ≠ Utf8.encode t) (hm : ¬Utf16.HasMark bytes)
    (hs : ShiftJis.decode? bytes = some text) :
    ((∀ t, bytes ≠ Utf16.encode t) → decodeSource bytes = some (text.dropWhile (· == markChar))) ∧
      (∀ t, bytes = Utf16.encode t → decodeSource bytes = some (t.dropWhile (· == markChar))) ∧
      ((∃ t, bytes = Utf16.encode t) ↔
        ∃ us, Utf16.units? .littleEndian bytes = some us ∧ Utf16.Paired us) ∧
      (bytes.length % 2 = 1 → decodeSource bytes = some (text.dropWhile (· == markChar))) := by
  have hread : decodeSource bytes =
      ((Utf16.decode? bytes).or (some text)).map (·.dropWhile (· == markChar)) := by
    unfold decodeSource sourceDecoders
    rw [if_pos hl]
    simp only [List.findSome?_cons, Utf8.toOption_decode_dropMark h8, hs]
    cases Utf16.decode? bytes <;> rfl
  have hnot (h : ∀ t, bytes ≠ Utf16.encode t) :
      decodeSource bytes = some (text.dropWhile (· == markChar)) := by
    have hnone : Utf16.decode? bytes = none := by
      refine Option.eq_none_iff_forall_ne_some.2 fun t ht => ?_
      exact h t ((Utf16.decode?_eq_some_iff hm).1 ht)
    rw [hread, hnone]
    rfl
  refine ⟨hnot, fun t ht => ?_, Utf16.exists_eq_encode_iff, fun hodd => hnot ?_⟩
  · rw [hread, (Utf16.decode?_eq_some_iff hm).2 ht]
    rfl
  · rintro t rfl
    rw [Utf16.length_encode_mod_two] at hodd
    cases hodd

/-! ### Files of half-width letters -/

namespace HalfWidth

/-- A comment with one letter. -/
def odd : Bytes := [0x23, 0x20, 0x54, 0x4F, 0x44, 0x4F, 0x20, 0xB6, 0x0A]

/-- A comment with two letters. -/
def even : Bytes := [0x23, 0x20, 0x54, 0x4F, 0x44, 0x4F, 0x20, 0xB6, 0xC5, 0x0A]

/-- What is read in place of the comment with two letters. -/
def misread : Text := ['\u2023', '\u4f54', '\u4f44', '\ub620', '\u0ac5']

end HalfWidth

theorem decodeSource_shiftJis_half_width :
    looksLikeText HalfWidth.odd ∧ (∀ t, HalfWidth.odd ≠ Utf8.encode t) ∧
      ¬Utf16.HasMark HalfWidth.odd ∧
      ShiftJis.decode? HalfWidth.odd = some "# TODO \uff76\n".toList ∧
      decodeSource HalfWidth.odd = some "# TODO \uff76\n".toList ∧
      looksLikeText HalfWidth.even ∧ (∀ t, HalfWidth.even ≠ Utf8.encode t) ∧
      ¬Utf16.HasMark HalfWidth.even ∧
      ShiftJis.decode? HalfWidth.even = some "# TODO \uff76\uff85\n".toList ∧
      decodeSource HalfWidth.even = some HalfWidth.misread := by
  have hodd : looksLikeText HalfWidth.odd := by decide
  have heven : looksLikeText HalfWidth.even := by decide
  have hoddText : ShiftJis.decode? HalfWidth.odd = some "# TODO \uff76\n".toList := by decide
  have hevenText : ShiftJis.decode? HalfWidth.even = some "# TODO \uff76\uff85\n".toList := by decide
  have hodd8 : ∀ t, HalfWidth.odd ≠ Utf8.encode t :=
    Utf8.toOption_decode_eq_none_iff.1 (by decide)
  have heven8 : ∀ t, HalfWidth.even ≠ Utf8.encode t :=
    Utf8.toOption_decode_eq_none_iff.1 (by decide)
  have hoddMark : ¬Utf16.HasMark HalfWidth.odd := by decide
  have hevenMark : ¬Utf16.HasMark HalfWidth.even := by decide
  refine ⟨hodd, hodd8, hoddMark, hoddText, ?_, heven, heven8, hevenMark, hevenText, ?_⟩
  · exact (decodeSource_shiftJis hodd hodd8 hoddMark hoddText).2.2.2 (by decide)
  · have hbytes : HalfWidth.even = Utf16.encode HalfWidth.misread := by decide
    exact (decodeSource_shiftJis heven heven8 hevenMark hevenText).2.1 _ hbytes

end CommentTasks
