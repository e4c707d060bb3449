import CommentTasks.Proofs.Source.Decode
import CommentTasks.Source.Scan
import Mathlib

/-!
# Files that begin with byte order marks

Marks in front of UTF-8 do not change what is read: `tasksOfFile_marked`. A mark in front of UTF-16
tells the byte order, but the file has to look like text first, and the zero bytes of its characters
count as control characters: `decodeSource_utf16` says which texts are read.
-/

namespace CommentTasks

/-! ### Marks in front of UTF-8 -/

namespace Utf8

/-- The bytes of a text behind a number of byte order marks. -/
def encodeMarked (n : Nat) (t : Text) : Bytes :=
  (List.replicate n byteOrderMark).flatten ++ encode t

/-- A mark is written as any other character. -/
theorem encodeMarked_eq (n : Nat) (t : Text) :
    encodeMarked n t = encode (List.replicate n markChar ++ t) := by
  induction n with
  | zero => rfl
  | succ n ih =>
    rw [encodeMarked, List.replicate_succ, List.flatten_cons, List.append_assoc, ← encodeMarked, ih,
      byteOrderMark_eq, ← encode_append]
    rfl

end Utf8

section

variable {n : Nat} {text : Text}

theorem decodeSource_marked (hm : text.head? ≠ some markChar)
    (hl : looksLikeText (Utf8.encodeMarked n text)) :
    decodeSource (Utf8.encodeMarked n text) = some text := by
  rw [Utf8.encodeMarked_eq] at hl ⊢
  rw [decodeSource_encode hl, dropWhile_marks (fun c hc => List.eq_of_mem_replicate hc) hm]

variable {t : FileTree} {ks : Keywords} {base file : PathName} {bytes : Bytes}

theorem FileTree.tasksOfFile_of_not_looksLikeText (hb : t.readBytes file.toText = .ok bytes)
    (hl : ¬looksLikeText bytes) : t.tasksOfFile ks base file = [] := by
  have hnone : decodeSource bytes = none := if_neg hl
  simp only [tasksOfFile, hb, hnone]

/-- **Marks in front of UTF-8 are passed over.** A file with marks that looks like text is read as
the text behind them, so its tasks are those of the text. The file without the marks has the same
tasks, unless it has too few bytes that are no control characters to look like text: then it has
none. -/
theorem tasksOfFile_marked (hm : text.head? ≠ some markChar)
    (hl : looksLikeText (Utf8.encodeMarked n text)) :
    decodeSource (Utf8.encodeMarked n text) = some text ∧
      ∀ (t u : FileTree) (ks : Keywords) (base file : PathName),
        t.readBytes file.toText = .ok (Utf8.encodeMarked n text) →
        u.readBytes file.toText = .ok (Utf8.encode text) →
        t.tasksOfFile ks base file = tasksIn ks (shownPath base file) text ∧
          (t.tasksOfFile ks base file = u.tasksOfFile ks base file ↔
            looksLikeText (Utf8.encode text) ∨ tasksIn ks (shownPath base file) text = []) := by
  have hread := decodeSource_marked hm hl
  refine ⟨hread, ?_⟩
  intro t u ks base file ht hu
  have htasks : t.tasksOfFile ks base file = tasksIn ks (shownPath base file) text :=
    FileTree.tasksOfFile_eq ht hread rfl rfl
  refine ⟨htasks, ?_⟩
  by_cases hplain : looksLikeText (Utf8.encode text)
  · have hsame : u.tasksOfFile ks base file = tasksIn ks (shownPath base file) text :=
      FileTree.tasksOfFile_eq hu (decodeSource_marked (n := 0) hm hplain) rfl rfl
    exact iff_of_true (htasks.trans hsame.symm) (.inl hplain)
  · rw [htasks, FileTree.tasksOfFile_of_not_looksLikeText hu hplain, or_iff_right hplain]

end

/-! ### A file with control characters -/

namespace ControlLetters

/-- A comment of twelve letters, four of which are control characters. -/
def text : Text := "//TODO x\x01\x01\x01\x01".toList

/-- Two lines with a mark between them. -/
def plain : Text := "// TODO x\r\n\ufeff// FIXME y".toList

/-- The working directory with one file. -/
def tree (bytes : Bytes) : FileTree :=
  FileTree.set ⟨[(["w".toList], .directory)], ["w".toList], {}, by decide⟩ ["w".toList, "a.c".toList]
    (.file bytes)

def project : PathName := .absolute ["w".toList]

def file : PathName := .absolute ["w".toList, "a.c".toList]

def task : Task := ⟨⟨"TODO".toList, "x\x01\x01\x01\x01".toList, {}⟩, "a.c".toList, 1⟩

theorem readBytes_tree (bytes : Bytes) : (tree bytes).readBytes file.toText = .ok bytes := by cbv

end ControlLetters

theorem tasksOfFile_marked_three_marks :
    ControlLetters.plain.head? ≠ some markChar ∧
      looksLikeText (Utf8.encodeMarked 3 ControlLetters.plain) ∧
      decodeSource (Utf8.encodeMarked 3 ControlLetters.plain) = some ControlLetters.plain ∧
      (ControlLetters.tree (Utf8.encodeMarked 3 ControlLetters.plain)).tasksOfFile .usual
          ControlLetters.project ControlLetters.file =
        (ControlLetters.tree (Utf8.encode ControlLetters.plain)).tasksOfFile .usual
          ControlLetters.project ControlLetters.file := by
  have hm : ControlLetters.plain.head? ≠ some markChar := by decide
  have hl : looksLikeText (Utf8.encodeMarked 3 ControlLetters.plain) := by decide
  have hplain : looksLikeText (Utf8.encode ControlLetters.plain) := by decide
  obtain ⟨hread, htasks⟩ := tasksOfFile_marked hm hl
  obtain ⟨-, hsame⟩ := htasks _ _ .usual ControlLetters.project ControlLetters.file
    (ControlLetters.readBytes_tree _) (ControlLetters.readBytes_tree _)
  exact ⟨hm, hl, hread, hsame.2 (.inl hplain)⟩

/-- With a mark the comment is found; without it the file does not look like text. -/
theorem tasks_differ_without_mark :
    ControlLetters.text.head? ≠ some markChar ∧
      looksLikeText (Utf8.encodeMarked 1 ControlLetters.text) ∧
      (ControlLetters.tree (Utf8.encodeMarked 1 ControlLetters.text)).tasksOfFile .usual
        ControlLetters.project ControlLetters.file = [ControlLetters.task] ∧
      (ControlLetters.tree (Utf8.encode ControlLetters.text)).tasksOfFile .usual
        ControlLetters.project ControlLetters.file = [] := by
  have hm : ControlLetters.text.head? ≠ some markChar := by decide
  have hl : looksLikeText (Utf8.encodeMarked 1 ControlLetters.text) := by decide
  have hplain : ¬looksLikeText (Utf8.encode ControlLetters.text) := by decide
  have htasks : tasksIn .usual (shownPath ControlLetters.project ControlLetters.file)
      ControlLetters.text = [ControlLetters.task] := by decide +kernel
  refine ⟨hm, hl, ?_, ?_⟩
  · exact FileTree.tasksOfFile_eq (ControlLetters.readBytes_tree _) (decodeSource_marked hm hl)
      rfl htasks
  · exact FileTree.tasksOfFile_of_not_looksLikeText (ControlLetters.readBytes_tree _) hplain

/-! ### A mark in front of UTF-16 -/

/-- The number of control bytes of units. -/
def controlBytes (us : List Nat) : Nat := (us.flatMap Utf16.bytesOf).countP isControlByte

/-- The units of a text that are looked at behind a mark. -/
def sampleUnits (t : Text) : List Nat := (t.flatMap Utf16.unitsOf).take (sampleSize / 2 - 1)

theorem take_encodeMarked (order : Utf16.ByteOrder) (t : Text) :
    (Utf16.encodeMarked order t).take sampleSize =
      order.mark ++ (sampleUnits t).flatMap order.bytesOf := by
  have hsize : sampleSize = order.mark.length + 2 * (sampleSize / 2 - 1) := by cases order <;> rfl
  rw [hsize, Utf16.encodeMarked, List.take_length_add_append, Utf16.take_flatMap_bytesOf,
    sampleUnits]

/-- **When UTF-16 behind a mark looks like text**, in either byte order: control bytes are fewer
than three in ten. -/
theorem looksLikeText_encodeMarked_iff (order : Utf16.ByteOrder) (t : Text) :
    looksLikeText (Utf16.encodeMarked order t) ↔
      10 * controlBytes (sampleUnits t) < 6 * ((sampleUnits t).length + 1) := by
  have hperm := Utf16.perm_flatMap_bytesOf order (sampleUnits t)
  have hcount : (order.mark ++ (sampleUnits t).flatMap order.bytesOf).countP isControlByte =
      controlBytes (sampleUnits t) := by
    have hmark : order.mark.countP isControlByte = 0 := by cases order <;> rfl
    rw [List.countP_append, hmark, hperm.countP_eq, Nat.zero_add, controlBytes]
  have hlength : (order.mark ++ (sampleUnits t).flatMap order.bytesOf).length =
      2 * ((sampleUnits t).length + 1) := by
    have hmark : order.mark.length = 2 := by cases order <;> rfl
    rw [List.length_append, hmark, hperm.length_eq, Utf16.length_flatMap_bytesOf]
    omega
  have hne : (order.mark ++ (sampleUnits t).flatMap order.bytesOf).isEmpty = false := by
    cases order <;> rfl
  unfold looksLikeText
  simp only [take_encodeMarked, hcount, hlength, hne, Bool.false_or, decide_eq_true_eq]
  omega

/-- No UTF-8 begins with the first byte of a mark. -/
theorem Utf16.encodeMarked_ne_encode (order : ByteOrder) (t s : Text) :
    encodeMarked order t ≠ Utf8.encode s := by
  refine Utf8.toOption_decode_eq_none_iff.1 ?_ s
  cases order <;> rfl

/-- A character below `0x100` is written with a zero byte. -/
theorem length_le_controlBytes {us : List Nat} (h : ∀ u ∈ us, u < 0x100) :
    us.length ≤ controlBytes us := by
  rw [controlBytes, List.countP_flatMap]
  calc
    us.length = (us.map (List.countP isControlByte ∘ Utf16.bytesOf)).length := by simp
    _ ≤ (us.map (List.countP isControlByte ∘ Utf16.bytesOf)).sum := by
      refine List.length_le_sum_of_one_le _ fun n hn => ?_
      obtain ⟨u, hu, rfl⟩ := List.mem_map.1 hn
      have hzero : Utf16.bytesOf u = [UInt8.ofNat (u % 0x100), 0] := by
        rw [Utf16.bytesOf, Nat.div_eq_of_lt (h u hu)]
        rfl
      rw [Function.comp_apply, hzero]
      exact List.countP_pos_iff.2 ⟨0, by simp, by decide⟩

theorem flatMap_unitsOf_of_lt {t : Text} (h : ∀ c ∈ t, c.toNat < 0x100) :
    t.flatMap Utf16.unitsOf = t.map Char.toNat := by
  rw [List.map_eq_flatMap]
  refine List.flatMap_congr fun c hc => ?_
  exact if_pos (Nat.lt_trans (h c hc) (by decide))

/-- **UTF-16 behind a mark is read if control bytes are few**: fewer than three in ten of the bytes
that are looked at, in either byte order. The zero bytes count as well, so no text of two or more
characters below `0x100` is read. -/
theorem decodeSource_utf16 (order : Utf16.ByteOrder) {t : Text} (h : t.head? ≠ some markChar) :
    (decodeSource (Utf16.encodeMarked order t) =
        if 10 * controlBytes (sampleUnits t) < 6 * ((sampleUnits t).length + 1) then some t
        else none) ∧
      (2 ≤ t.length → (∀ c ∈ t, c.toNat < 0x100) →
        decodeSource (Utf16.encodeMarked order t) = none) := by
  have hread : decodeSource (Utf16.encodeMarked order t) =
      if 10 * controlBytes (sampleUnits t) < 6 * ((sampleUnits t).length + 1) then some t
      else none := by
    have h8 := Utf8.toOption_decode_dropMark (Utf16.encodeMarked_ne_encode order t)
    unfold decodeSource sourceDecoders
    simp only [looksLikeText_encodeMarked_iff, List.findSome?_cons, h8,
      Utf16.decode?_encodeMarked, Option.map_some]
    rw [show t.dropWhile (· == '\ufeff') = t from dropWhile_mark_of_head h]
  refine ⟨hread, fun hlong hsmall => ?_⟩
  have hunits : sampleUnits t = (t.map Char.toNat).take (sampleSize / 2 - 1) := by
    rw [sampleUnits, flatMap_unitsOf_of_lt hsmall]
  have hle : (sampleUnits t).length ≤ controlBytes (sampleUnits t) := by
    refine length_le_controlBytes fun u hu => ?_
    rw [hunits] at hu
    obtain ⟨c, hc, rfl⟩ := List.mem_map.1 (List.mem_of_mem_take hu)
    exact hsmall c hc
  have htwo : 2 ≤ (sampleUnits t).length := by
    rw [hunits, List.length_take, List.length_map]
    exact Nat.le_min.2 ⟨by decide, hlong⟩
  rw [hread, if_neg (by omega)]

/-- A comment in plain letters is not read in either byte order; one in other letters is. -/
theorem decodeSource_utf16_plain_letters :
    "# TODO x\n".toList.head? ≠ some markChar ∧
      decodeSource (Utf16.encodeMarked .littleEndian "# TODO x\n".toList) = none ∧
      decodeSource (Utf16.encodeMarked .bigEndian "# TODO x\n".toList) = none ∧
      "日本語のメモ".toList.head? ≠ some markChar ∧
      decodeSource (Utf16.encodeMarked .bigEndian "日本語のメモ".toList) =
        some "日本語のメモ".toList := by
  have hplain : "# TODO x\n".toList.head? ≠ some markChar := by decide
  have hsmall : ∀ c ∈ "# TODO x\n".toList, c.toNat < 0x100 := by simp
  have hother : "日本語のメモ".toList.head? ≠ some markChar := by decide
  refine ⟨hplain, ?_, ?_, hother, ?_⟩
  · exact (decodeSource_utf16 .littleEndian hplain).2 (by decide) hsmall
  · exact (decodeSource_utf16 .bigEndian hplain).2 (by decide) hsmall
  · rw [(decodeSource_utf16 .bigEndian hother).1]
    exact if_pos (by decide)

end CommentTasks
