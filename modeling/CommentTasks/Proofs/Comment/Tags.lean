import CommentTasks.Proofs.Comment.Metadata
import CommentTasks.Proofs.Text.Squeeze
import CommentTasks.Task.Format

/-!
# The tags of a task

The value of an annotation for tags is cut at commas and at spaces, and the pieces are trimmed. So a
tag is trimmed and holds neither, but other blanks may stand inside it, and these are blanks of the
text. In the line that is written for a task the tags come last, each with its mark and its words; a
tag without blanks is one word of the line.
-/

namespace CommentTasks

namespace Metadata

/-- A tag is a trimmed part of the value that holds no comma and no space. -/
theorem of_mem_splitTags {value tag : Text} (h : tag ∈ splitTags value) :
    tag ≠ [] ∧ Text.IsTrimmed tag ∧ ∀ c ∈ tag, c ∈ value ∧ c ≠ ',' ∧ c ≠ ' ' := by
  obtain ⟨hmem, hne⟩ := List.mem_filter.1 h
  obtain ⟨piece, hpiece, rfl⟩ := List.mem_map.1 hmem
  refine ⟨by simpa using hne, Text.isTrimmed_trim piece, fun c hc => ?_⟩
  have hc : c ∈ piece := (Text.trim_infix piece).mem hc
  obtain ⟨hvalue, hseparates⟩ := Text.of_mem_splitOnP hpiece c hc
  rw [Bool.or_eq_false_iff, beq_eq_false_iff_ne, beq_eq_false_iff_ne] at hseparates
  exact ⟨hvalue, hseparates⟩

/-- **The tags of a text** are trimmed, and hold characters of the text without commas, spaces and
closing parentheses. -/
theorem of_mem_tags {t tag : Text} (h : tag ∈ (extract t).1.tags) :
    tag ≠ [] ∧ Text.IsTrimmed tag ∧ ∀ c ∈ tag, c ∈ t ∧ c ≠ ',' ∧ c ≠ ' ' ∧ c ≠ ')' := by
  rw [extract_eq] at h
  cases htake : (Kind.tags.take (Kind.takeAll [.due] t)).1 with
  | none =>
    simp only [htake] at h
    cases h
  | some value =>
    simp only [htake] at h
    obtain ⟨hne, htrimmed, hchars⟩ := of_mem_splitTags h
    obtain ⟨hvalue, -, hclosed⟩ := Kind.value_of_take (by decide) htake
    refine ⟨hne, htrimmed, fun c hc => ?_⟩
    obtain ⟨hcv, hcomma, hspace⟩ := hchars c hc
    -- only a space can come into the text where the due date was
    have hct := (Kind.mem_of_mem_take_snd (by decide) (hvalue.mem hcv)).resolve_right hspace
    exact ⟨hct, hcomma, hspace, fun e => hclosed (e ▸ hcv)⟩

end Metadata

namespace Task

variable {task : Task} {tag : Text}

/-- The task without its tags. -/
def withoutTags (task : Task) : Task := { task with metadata := { task.metadata with tags := [] } }

/-- The words of the line of a task, part by part. -/
theorem words_summaryLine (task : Task) : Text.words task.summaryLine =
    ([task.icon, task.label] ++ optionalPart "@".toList task.metadata.assignee ++
      optionalPart "📅 ".toList task.metadata.due).flatMap Text.words ++
      task.metadata.tags.flatMap fun tag => Text.words (tagText tag) := by
  have htags : (if task.metadata.tags = [] then [] else
      [Text.join " " (task.metadata.tags.map tagText)]).flatMap Text.words =
        task.metadata.tags.flatMap fun tag => Text.words (tagText tag) := by
    by_cases h : task.metadata.tags = []
    · rw [if_pos h, h]
      rfl
    · rw [if_neg h, List.flatMap_singleton, Text.words_join, List.flatMap_map]
  rw [summaryLine, Text.words_squeeze, Text.words_join, List.flatMap_append, htags]

theorem join_words_summaryLine (task : Task) :
    Text.join " " (Text.words task.summaryLine) = task.summaryLine := by
  unfold summaryLine
  rw [Text.words_squeeze, Text.squeeze_eq_join]

/-- **The tags come last in the line of a task**, each with its words. -/
theorem summaryLine_eq_join (task : Task) : task.summaryLine =
    Text.join " " (Text.words task.withoutTags.summaryLine ++
      task.metadata.tags.flatMap fun tag => Text.words (tagText tag)) := by
  have hfront : Text.words task.withoutTags.summaryLine =
      ([task.icon, task.label] ++ optionalPart "@".toList task.metadata.assignee ++
        optionalPart "📅 ".toList task.metadata.due).flatMap Text.words :=
    (words_summaryLine task.withoutTags).trans (List.append_nil _)
  rw [hfront, ← words_summaryLine, join_words_summaryLine]

/-- A tag is written with a mark in front, its own or another. -/
theorem tagText_cases (tag : Text) :
    tagText tag = '#' :: tag ∨ tagText tag = tag ∧ ∃ name, tag = '#' :: name := by
  unfold tagText
  split
  · next h =>
    obtain ⟨name, rfl⟩ := List.isPrefixOf_iff_prefix.1 h
    exact .inr ⟨rfl, name, rfl⟩
  · exact .inl rfl

theorem exists_words_tagText (tag : Text) :
    ∃ name more, Text.words (tagText tag) = ('#' :: name) :: more := by
  rcases tagText_cases tag with h | ⟨h, name, rfl⟩
  · rw [h]
    exact Text.exists_words_cons (by decide) tag
  · rw [h]
    exact Text.exists_words_cons (by decide) name

/-- A tag is written as one word exactly if no blank stands in it. -/
theorem words_tagText_eq_singleton_iff (tag : Text) :
    Text.words (tagText tag) = [tagText tag] ↔ ∀ c ∈ tag, Text.isBlank c = false := by
  rcases tagText_cases tag with h | ⟨h, name, rfl⟩
  · rw [h, Text.words_eq_singleton_iff (List.cons_ne_nil '#' tag), List.forall_mem_cons]
    exact and_iff_right (by decide)
  · rw [h, Text.words_eq_singleton_iff (List.cons_ne_nil '#' name)]

end Task

open Metadata

/-- **The tags of a text** are trimmed, and hold neither commas nor spaces nor closing parentheses;
so the only blanks in them are other blanks of the text. In the line of a task they come last, in
their order and each with its words, the first of them with the mark in front; and a tag is one word
of the line exactly if it holds no blank. -/
theorem extract_tags (t : Text) :
    (∀ tag ∈ (extract t).1.tags, tag ≠ [] ∧ Text.IsTrimmed tag ∧
      ∀ c ∈ tag, c ∈ t ∧ c ≠ ',' ∧ c ≠ ' ' ∧ c ≠ ')') ∧
    ∀ task : Task, task.metadata = (extract t).1 →
      task.summaryLine = Text.join " " (Text.words task.withoutTags.summaryLine ++
        (extract t).1.tags.flatMap fun tag => Text.words (Task.tagText tag)) ∧
      ∀ tag ∈ (extract t).1.tags,
        (∃ name more, Text.words (Task.tagText tag) = ('#' :: name) :: more) ∧
        (Text.words (Task.tagText tag) = [Task.tagText tag] ↔ ∀ c ∈ tag, Text.isBlank c = false) := by
  refine ⟨fun tag htag => of_mem_tags htag, fun task htask => ⟨?_, fun tag _ => ?_⟩⟩
  · rw [← htask]
    exact task.summaryLine_eq_join
  · exact ⟨Task.exists_words_tagText tag, Task.words_tagText_eq_singleton_iff tag⟩

namespace MixedBlanks

/-- A value with other blanks at the end of a tag and inside one, and with a due date inside. -/
def text : Text := "x @tags(#a\t,b\u3000c d, @due(1) e) y".toList

/-- A task with the metadata of the text. -/
def task : Task := Task.ofBody "a.c".toList 1 ⟨"TODO".toList, "x y".toList, (extract text).1⟩

end MixedBlanks

theorem extract_tags_mixed_blanks :
    (extract MixedBlanks.text).1.tags =
        ["#a".toList, "b\u3000c".toList, "d".toList, "e".toList] ∧
      Text.IsTrimmed "b\u3000c".toList ∧
      MixedBlanks.task.summaryLine = Text.join " " (Text.words MixedBlanks.task.withoutTags.summaryLine ++
        ["#a".toList, "#b".toList, "c".toList, "#d".toList, "#e".toList]) ∧
      Text.words (Task.tagText "d".toList) = ["#d".toList] := by
  have htags : (extract MixedBlanks.text).1.tags =
      ["#a".toList, "b\u3000c".toList, "d".toList, "e".toList] := by
    decide +kernel
  have hflat : (["#a".toList, "b\u3000c".toList, "d".toList, "e".toList].flatMap fun tag =>
      Text.words (Task.tagText tag)) =
        ["#a".toList, "#b".toList, "c".toList, "#d".toList, "#e".toList] := by
    decide +kernel
  have hmetadata : MixedBlanks.task.metadata = (extract MixedBlanks.text).1 := by
    simp only [MixedBlanks.task, Task.ofBody]
  obtain ⟨htrimmed, hline⟩ := extract_tags MixedBlanks.text
  obtain ⟨hsummary, hwords⟩ := hline MixedBlanks.task hmetadata
  rw [htags] at htrimmed hsummary hwords
  rw [hflat] at hsummary
  refine ⟨htags, (htrimmed _ (by decide)).2.1, hsummary, ?_⟩
  exact (hwords "d".toList (by decide)).2.2 (List.all_iff_forall_prop.1 (by decide))

/-- A tab inside a tag stays there, and the tag is written as two words. -/
theorem extract_tag_with_tab :
    (extract "x @tags(a\tb)".toList).1.tags = ["a\tb".toList] ∧
      (Task.ofBody "a.c".toList 1 ⟨"TODO".toList, "x".toList,
        (extract "x @tags(a\tb)".toList).1⟩).summaryLine = "• x #a b".toList := by
  decide +kernel

end CommentTasks
