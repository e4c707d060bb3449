import CommentTasks.Proofs.Note.Additions
import CommentTasks.Proofs.Note.Reading
import CommentTasks.Proofs.Task.Location
import Mathlib.Algebra.BigOperators.Group.List.Basic

/-!
# The lines of a note

The lines of a section are those of its parts, one after the other. All parts but one are single
lines: only the path of a task may hold line feeds, and then its second line is as many lines more.
Where no path holds one, a note says of every task that was added to it where it is.
-/

namespace CommentTasks

open Delimiters (lineFeeds)

/-! ### The lines of lines -/

theorem linesOf_flatMap (lines : List Text) :
    linesOf (lines.flatMap fun line => line ++ ['\n']) = lines.flatMap linesOf ++ [[]] := by
  induction lines with
  | nil => rfl
  | cons line rest ih =>
    rw [List.flatMap_cons, List.append_assoc, List.singleton_append, linesOf_append_newline, ih,
      List.flatMap_cons, List.append_assoc]

theorem lineFeeds_eq_zero_iff {t : Text} : lineFeeds t = 0 ↔ '\n' ∉ t := List.count_eq_zero

/-! ### The lines of a task -/

namespace Task

variable (t : Task) {d : Text}

theorem lineFeeds_locationLine (hd : IsDigest d) : lineFeeds (t.locationLine d) = lineFeeds t.path := by
  have hline : lineFeeds (':' :: Text.ofInt t.line) = 0 := by
    rw [lineFeeds_eq_zero_iff, List.mem_cons, not_or]
    exact ⟨by decide, Text.not_mem_ofInt (by decide) (by decide) t.line⟩
  have hdigest : lineFeeds d = 0 := by
    rw [lineFeeds_eq_zero_iff]
    exact fun h => absurd (hd.isHexDigit _ h) (by decide)
  have hmark : lineFeeds "  [hash:".toList = 0 := by decide
  have hbracket : lineFeeds "]".toList = 0 := by decide
  simp only [locationLine, Delimiters.lineFeeds_append, hline, hdigest, hmark, hbracket, Nat.add_zero]

theorem linesOf_locationLine (hd : IsDigest d) (h : '\n' ∉ t.path) :
    linesOf (t.locationLine d) = [t.locationLine d] := by
  refine linesOf_of_not_mem (lineFeeds_eq_zero_iff.1 ?_)
  rw [t.lineFeeds_locationLine hd, lineFeeds_eq_zero_iff]
  exact h

theorem linesOf_summaryLine : linesOf t.summaryLine = [t.summaryLine] :=
  linesOf_of_not_mem (Text.newline_not_mem_squeeze _)

end Task

/-! ### The lines of a section -/

namespace Note

variable {stamp : Text} {news : List News}

/-- The last line of a section is its only empty line at the end. -/
theorem dropEmptyEnd_sectionLines (stamp : Text) (news : List News) :
    dropEmptyEnd (News.sectionLines stamp news) ++ [[]] = News.sectionLines stamp news := by
  obtain ⟨front, last, hlast, hlines⟩ : ∃ front last, last ≠ [] ∧
      News.sectionLines stamp news = front ++ [last] ++ [[]] := by
    rcases List.eq_nil_or_concat' news with rfl | ⟨before, n, rfl⟩
    · exact ⟨[], headingText stamp, List.cons_ne_nil _ _, rfl⟩
    · refine ⟨News.sectionLines stamp before ++ [n.task.summaryLine],
        n.task.locationLine n.task.digest, by simp [Task.locationLine], ?_⟩
      simp [News.sectionLines, Task.format]
  rw [hlines, dropEmptyEnd_concat_nil, dropEmptyEnd_concat hlast]

/-- **The lines of a section** are the lines of its parts. -/
theorem linesOf_sectionText (stamp : Text) (news : List News) :
    linesOf (sectionText (News.sectionLines stamp news)) =
      (News.sectionLines stamp news).flatMap linesOf := by
  calc
    linesOf (sectionText (News.sectionLines stamp news)) =
        (dropEmptyEnd (News.sectionLines stamp news) ++ [[]]).flatMap linesOf := by
      rw [sectionText_eq_flatMap, linesOf_flatMap, List.flatMap_append]
      rfl
    _ = (News.sectionLines stamp news).flatMap linesOf := by rw [dropEmptyEnd_sectionLines]

/-- All parts of a section are single lines, but for the second lines of the tasks. -/
theorem linesOf_sectionText_eq (hs : '\n' ∉ stamp) :
    linesOf (sectionText (News.sectionLines stamp news)) = [headingText stamp, []] ++
      news.flatMap fun n =>
        n.task.summaryLine :: linesOf (n.task.locationLine n.task.digest) ++ [[]] := by
  have hheading := linesOf_of_not_mem (newline_not_mem_headingText hs)
  have hnil : linesOf [] = [[]] := rfl
  rw [linesOf_sectionText, News.sectionLines, List.flatMap_append, List.flatMap_assoc]
  simp only [Task.format, List.cons_append, List.nil_append, List.flatMap_cons, List.flatMap_nil,
    List.append_nil, hheading, hnil, Task.linesOf_summaryLine]

/-- A section has three line feeds for every task and one more, and those of the paths. -/
theorem lineFeeds_sectionText (hs : '\n' ∉ stamp) :
    lineFeeds (sectionText (News.sectionLines stamp news)) =
      3 * news.length + 1 + (news.map fun n => lineFeeds n.task.path).sum := by
  have htask (n : News) :
      (n.task.summaryLine :: linesOf (n.task.locationLine n.task.digest) ++ [[]]).length =
        lineFeeds n.task.path + 3 := by
    rw [List.length_append, List.length_cons, length_linesOf,
      n.task.lineFeeds_locationLine n.task.isDigest_digest, List.length_singleton]
  have hlines := length_linesOf (sectionText (News.sectionLines stamp news))
  rw [linesOf_sectionText_eq hs, List.length_append, List.length_flatMap] at hlines
  simp only [htask, List.sum_map_add, List.map_const', List.sum_replicate, Nat.nsmul_eq_mul,
    List.length_cons, List.length_nil] at hlines
  omega

theorem lineFeeds_sectionText_eq_iff (hs : '\n' ∉ stamp) :
    lineFeeds (sectionText (News.sectionLines stamp news)) = 3 * news.length + 1 ↔
      ∀ n ∈ news, '\n' ∉ n.task.path := by
  rw [lineFeeds_sectionText hs, Nat.add_eq_left, List.sum_eq_zero_iff_forall_eq_nat]
  simp only [List.mem_map, forall_exists_index, and_imp, forall_apply_eq_imp_iff₂,
    lineFeeds_eq_zero_iff]

/-- **A section has the lines that were put into it** exactly if no path has a line feed. -/
theorem linesOf_sectionText_eq_iff (hs : '\n' ∉ stamp) :
    linesOf (sectionText (News.sectionLines stamp news)) = News.sectionLines stamp news ↔
      ∀ n ∈ news, '\n' ∉ n.task.path := by
  constructor
  · intro h
    have hlength : (News.sectionLines stamp news).length = 3 * news.length + 2 := by
      simp [News.sectionLines, Task.format]
      omega
    have hlines := length_linesOf (sectionText (News.sectionLines stamp news))
    rw [h, hlength] at hlines
    exact (lineFeeds_sectionText_eq_iff hs).1 (by omega)
  · intro h
    rw [linesOf_sectionText_eq hs, News.sectionLines]
    refine congrArg _ (List.flatMap_congr fun n hn => ?_)
    rw [n.task.linesOf_locationLine n.task.isDigest_digest (h n hn)]
    rfl

/-! ### What a note says of tasks -/

/-- What the lines of a note say of tasks. -/
def references (text : Text) : List Reference := (linesOf text).filterMap Reference.ofLine?

@[simp] theorem references_nil : references [] = [] := List.filterMap_cons_none Reference.ofLine?_nil

theorem references_append_newline (a b : Text) :
    references (a ++ '\n' :: b) = references a ++ references b := by
  rw [references, linesOf_append_newline, List.filterMap_append]
  rfl

theorem references_sectionText (hs : '\n' ∉ stamp) (h : ∀ n ∈ news, '\n' ∉ n.task.path) :
    references (sectionText (News.sectionLines stamp news)) = news.map fun n => n.task.reference := by
  rw [references, (linesOf_sectionText_eq_iff hs).2 h, Reference.filterMap_sectionLines]

/-- Merging a section adds what it says, if none of its parts has a line feed. -/
theorem references_merge (existing : Text) {a : Addition} (hs : '\n' ∉ a.stamp)
    (h : ∀ n ∈ a.news, '\n' ∉ n.task.path) :
    references (Text.trimRight (merge existing a.text)) =
      references (Text.trimRight existing) ++ a.news.map fun n => n.task.reference := by
  have hfront : references (leading existing ++ a.text) =
      references (Text.trimRight existing) ++ a.news.map fun n => n.task.reference := by
    rw [← references_sectionText hs h, leading]
    split
    · next hblank => rw [Text.trimRight_eq_nil_iff.2 hblank, references_nil]; rfl
    · rw [← List.nil_append (references (sectionText _)), ← references_nil,
        ← references_append_newline, ← references_append_newline, List.append_assoc]
      rfl
  -- trimming takes away the last line feed, behind which nothing stands
  obtain ⟨-, htrim⟩ := a.trimRight_append_text (leading existing)
  rw [← hfront, merge_text]
  conv_rhs => rw [← htrim, references_append_newline, references_nil, List.append_nil]

/-- **A note says of all tasks that were added where they are**, whatever was in it before: what is
read from it is what was read before, and behind it, in their order, the tasks of all sections. -/
theorem references_foldl_merge (existing : Text) {additions : List Addition}
    (h : ∀ a ∈ additions, '\n' ∉ a.stamp ∧ ∀ n ∈ a.news, '\n' ∉ n.task.path) :
    references (Text.trimRight (additions.foldl (fun note a => merge note a.text) existing)) =
      references (Text.trimRight existing) ++
        additions.flatMap fun a => a.news.map fun n => n.task.reference := by
  induction additions generalizing existing with
  | nil => simp
  | cons a rest ih =>
    obtain ⟨⟨hs, hn⟩, hrest⟩ := List.forall_mem_cons.1 h
    rw [List.foldl_cons, ih _ hrest, references_merge existing hs hn, List.flatMap_cons,
      List.append_assoc]

end Note

/-- **Second lines can be read back.** Those of two tasks with digests are the same only if the
tasks are in the same line of the same file and the digests are the same; and every one of them is
read as what it says, whatever is in the path. So what is read from the lines of a section is where
its tasks are and their digests, in their order, and nothing else. As long as no path has a line
feed, the same is read from the text of a note to which sections were added, behind what was read
from it before. -/
theorem locationLine_read_back {t t' : Task} {d d' : Text} (h : IsDigest d) (h' : IsDigest d') :
    (t.locationLine d = t'.locationLine d' ↔ t.path = t'.path ∧ t.line = t'.line ∧ d = d') ∧
    Reference.ofLine? (t.locationLine d) = some ⟨t.path, t.line, d⟩ ∧
    (∀ stamp news, (News.sectionLines stamp news).filterMap Reference.ofLine? =
      news.map fun n => n.task.reference) ∧
    ∀ (existing : Text) (additions : List Note.Addition),
      (∀ a ∈ additions, '\n' ∉ a.stamp ∧ ∀ n ∈ a.news, '\n' ∉ n.task.path) →
      Note.references (Text.trimRight (additions.foldl (fun note a => Note.merge note a.text) existing)) =
        Note.references (Text.trimRight existing) ++
          additions.flatMap fun a => a.news.map fun n => n.task.reference := by
  refine ⟨?_, Reference.ofLine?_locationLine t h.length, Reference.filterMap_sectionLines,
    fun existing _ => Note.references_foldl_merge existing⟩
  constructor
  · intro he
    have hr := Reference.ofLine?_locationLine t h.length
    rw [he, Reference.ofLine?_locationLine t' h'.length, Option.some.injEq, Reference.mk.injEq] at hr
    exact ⟨hr.1.symm, hr.2.1.symm, hr.2.2.symm⟩
  · rintro ⟨hpath, hline, rfl⟩
    rw [Task.locationLine, hpath, hline, Task.locationLine]

/-- A path that looks like the line of another task is told apart from its path. -/
theorem locationLine_read_back_nested :
    let t : Task := ⟨⟨"TODO".toList, "x".toList, {}⟩, "a.c:1  [hash:".toList, 2⟩
    let t' : Task := ⟨⟨"TODO".toList, "x".toList, {}⟩, "a.c".toList, 1⟩
    IsDigest "0123cdef".toList ∧ IsDigest "89abcdef".toList ∧
      t.locationLine "0123cdef".toList ≠ t'.locationLine "89abcdef".toList ∧
      Reference.ofLine? "a.c:1  [hash::2  [hash:0123cdef]".toList =
        some ⟨"a.c:1  [hash:".toList, 2, "0123cdef".toList⟩ := by
  intro t t'
  have h : IsDigest "0123cdef".toList := ⟨by decide, List.all_eq_true.1 (by decide)⟩
  have h' : IsDigest "89abcdef".toList := ⟨by decide, List.all_eq_true.1 (by decide)⟩
  obtain ⟨hsame, hread, -⟩ := @locationLine_read_back t t' _ _ h h'
  exact ⟨h, h', fun he => absurd (hsame.1 he).2.1 (by decide), hread⟩

end CommentTasks
