import CommentTasks.Note.Section
import Mathlib.Data.List.TakeWhile

/-!
# Sections end their lines

A section is its lines without the empty ones at the end, each ended by a line feed. So merging puts
a section behind the text of a note as it is.
-/

namespace CommentTasks.Note

theorem dropEmptyEnd_eq_nil_iff {lines : List Text} :
    dropEmptyEnd lines = [] ↔ ∀ line ∈ lines, line = [] := by
  rw [dropEmptyEnd, List.reverse_eq_nil_iff, List.dropWhile_eq_nil_iff]
  simp

theorem sectionText_eq_flatMap (lines : List Text) :
    sectionText lines = (dropEmptyEnd lines).flatMap fun line => line ++ ['\n'] := by
  unfold sectionText
  induction dropEmptyEnd lines with
  | nil => rfl
  | cons line rest ih =>
    have hne : rest ++ [[]] ≠ ([] : List Text) := by simp
    rw [List.cons_append, Text.join, List.intercalate_cons_of_ne_nil hne, ← Text.join, ih]
    rfl

theorem getLast?_sectionText {lines : List Text} {line : Text} (hm : line ∈ lines)
    (hne : line ≠ []) : (sectionText lines).getLast? = some '\n' := by
  have hd : dropEmptyEnd lines ≠ [] := fun h => hne (dropEmptyEnd_eq_nil_iff.1 h line hm)
  rw [sectionText_eq_flatMap, ← List.dropLast_concat_getLast hd, List.flatMap_append,
    List.flatMap_singleton, ← List.append_assoc, List.getLast?_concat]

theorem endLine_sectionText {lines : List Text} {line : Text} (hm : line ∈ lines) (hne : line ≠ []) :
    endLine (sectionText lines) = sectionText lines :=
  if_pos (getLast?_sectionText hm hne)

/-- A section begins with its first line, unless that is empty. -/
theorem sectionText_cons {line : Text} (hne : line ≠ []) (rest : List Text) :
    sectionText (line :: rest) = line ++ '\n' :: sectionText rest := by
  have hd : dropEmptyEnd (line :: rest) = line :: dropEmptyEnd rest := by
    unfold dropEmptyEnd
    rw [List.reverse_cons, List.dropWhile_append]
    split
    · next he =>
      rw [List.isEmpty_iff] at he
      rw [he, List.dropWhile_cons_of_neg (by simpa using hne)]
      rfl
    · rw [List.reverse_append]
      rfl
  rw [sectionText_eq_flatMap, hd, List.flatMap_cons, ← sectionText_eq_flatMap, List.append_assoc]
  rfl

/-- A section with a line is put behind the text of a note, one empty line apart. -/
theorem merge_sectionText {existing : Text} {lines : List Text} {line : Text}
    (he : Text.trimRight existing ≠ []) (hm : line ∈ lines) (hne : line ≠ []) :
    merge existing (sectionText lines) =
      Text.trimRight existing ++ "\n\n".toList ++ sectionText lines := by
  simp only [merge, endLine]
  rw [if_neg he, if_pos (getLast?_sectionText hm hne)]

end CommentTasks.Note
