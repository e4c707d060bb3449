import CommentTasks.Proofs.Note.Section
import CommentTasks.Proofs.Text.Words
import CommentTasks.Run.News

/-!
# A note is its old text with the sections behind it

Merging trims the end of a note, and all that a section has to be trimmed is the line feed of its
last line. So a section stays as it was written when others are merged behind it, one empty line
apart: `foldl_merge_additions`.
-/

namespace CommentTasks.Note

/-- What a run adds to a note: a heading with its stamp, and at least one task. -/
structure Addition where
  stamp : Text
  news : List News
  ne_nil : news ≠ []

namespace Addition

/-- The section. -/
def text (a : Addition) : Text := sectionText (News.sectionLines a.stamp a.news)

end Addition

/-! ### Where a section begins and ends -/

theorem dropEmptyEnd_concat_nil (lines : List Text) :
    dropEmptyEnd (lines ++ [[]]) = dropEmptyEnd lines := by
  unfold dropEmptyEnd
  rw [List.reverse_concat, List.dropWhile_cons_of_pos (by simp)]

theorem dropEmptyEnd_concat {line : Text} (hne : line ≠ []) (lines : List Text) :
    dropEmptyEnd (lines ++ [line]) = lines ++ [line] := by
  unfold dropEmptyEnd
  rw [List.reverse_concat, List.dropWhile_cons_of_neg (by simpa using hne), List.reverse_cons,
    List.reverse_reverse]

theorem sectionText_concat {line : Text} (hne : line ≠ []) (lines : List Text) :
    sectionText (lines ++ [line] ++ [[]]) =
      (lines.flatMap fun l => l ++ ['\n']) ++ line ++ ['\n'] := by
  rw [sectionText_eq_flatMap, dropEmptyEnd_concat_nil, dropEmptyEnd_concat hne, List.flatMap_append,
    List.flatMap_singleton, List.append_assoc]

namespace Addition

/-- **A section begins with the mark of its heading, and ends with the bracket behind a digest and
one line feed.** -/
theorem exists_text_eq (a : Addition) : ∃ body, a.text = ('#' :: body) ++ "]\n".toList := by
  obtain ⟨stamp, news, hne⟩ := a
  obtain ⟨first, hfirst⟩ : ∃ first, text ⟨stamp, news, hne⟩ = '#' :: first :=
    ⟨_, sectionText_cons (List.cons_ne_nil _ _) _⟩
  obtain ⟨front, hlast⟩ : ∃ front, text ⟨stamp, news, hne⟩ = front ++ "]\n".toList := by
    obtain ⟨before, n, rfl⟩ : ∃ before n, news = before ++ [n] :=
      ⟨_, _, (List.dropLast_concat_getLast hne).symm⟩
    -- the last line that is not empty tells where the last task is
    have hlines : News.sectionLines stamp (before ++ [n]) =
        News.sectionLines stamp before ++ [n.task.summaryLine] ++
          [n.task.locationLine n.task.digest] ++ [[]] := by
      simp [News.sectionLines, Task.format]
    obtain ⟨place, hplace⟩ : ∃ place, n.task.locationLine n.task.digest = place ++ "]".toList :=
      ⟨_, rfl⟩
    have hline : n.task.locationLine n.task.digest ≠ [] := by simp [hplace]
    rw [text, hlines, sectionText_concat hline, hplace, ← List.append_assoc, List.append_assoc]
    exact ⟨_, rfl⟩
  cases front with
  | nil => exact absurd (hfirst.symm.trans hlast) (by simp)
  | cons c body =>
    obtain ⟨rfl, -⟩ := List.cons.inj (hfirst.symm.trans hlast)
    exact ⟨body, hlast⟩

/-- Nothing but the last line feed is trimmed, whatever stands in front. -/
theorem trimRight_append_text (a : Addition) (t : Text) :
    Text.trimRight (t ++ a.text) ≠ [] ∧ Text.trimRight (t ++ a.text) ++ ['\n'] = t ++ a.text := by
  obtain ⟨body, h⟩ := a.exists_text_eq
  have hsplit : t ++ a.text = (t ++ '#' :: body) ++ [']'] ++ ['\n'] := by simp [h]
  have hbracket : Text.trimRight [']'] = [']'] := by decide
  have htrim : Text.trimRight (t ++ a.text) = (t ++ '#' :: body) ++ [']'] := by
    rw [hsplit, Text.trimRight_append_of_blank (List.forall_mem_singleton.2 rfl),
      Text.trimRight_append_of_ne_nil (by simp [hbracket]), hbracket]
  rw [htrim, hsplit]
  exact ⟨by simp, rfl⟩

end Addition

/-! ### Merging one section after the other -/

/-- What a note holds in front of its next section: its text without the blanks at the end, and the
end of this line and an empty line, or nothing if it is blank. -/
def leading (existing : Text) : Text :=
  if Text.isAllBlank existing then [] else Text.trimRight existing ++ "\n\n".toList

/-- A section is put behind what the note holds. -/
theorem merge_text (existing : Text) (a : Addition) :
    merge existing a.text = leading existing ++ a.text := by
  have hend : endLine a.text = a.text := by
    obtain ⟨body, h⟩ := a.exists_text_eq
    rw [h]
    exact if_pos (List.getLast?_append_of_ne_nil _ (by simp))
  simp only [merge, leading, hend, Text.trimRight_eq_nil_iff]
  split <;> rfl

/-- Behind a section an empty line is all that is missing. -/
theorem leading_append_text (t : Text) (a : Addition) :
    leading (t ++ a.text) = t ++ a.text ++ ['\n'] := by
  obtain ⟨hne, htrim⟩ := a.trimRight_append_text t
  have hblank : ¬Text.isAllBlank (t ++ a.text) := fun h => hne (Text.trimRight_eq_nil_iff.2 h)
  calc
    leading (t ++ a.text) = Text.trimRight (t ++ a.text) ++ ['\n'] ++ ['\n'] := by
      rw [leading, if_neg hblank, List.append_assoc]
      rfl
    _ = t ++ a.text ++ ['\n'] := by rw [htrim]

/-- Sections that are merged behind a section leave it and all in front of it as they are. -/
theorem foldl_merge_append_text (t : Text) (a : Addition) (rest : List Addition) :
    rest.foldl (fun note b => merge note b.text) (t ++ a.text) =
      t ++ Text.join "\n" ((a :: rest).map Addition.text) := by
  induction rest generalizing t a with
  | nil => simp
  | cons b rest ih =>
    rw [List.foldl_cons, merge_text, leading_append_text, ih, List.map_cons, List.map_cons,
      List.map_cons, Text.join, Text.join, List.intercalate_cons_cons, List.append_assoc,
      List.append_assoc, List.append_assoc]
    rfl

/-- **A note is its old text and its sections.** Merging sections one after the other puts all of
them behind the old text, in order and as they were written. Each of them begins with the mark of
its heading and ends with a bracket and one line feed, so exactly one empty line stands between
neighbours and in front of the first one, and the note ends with exactly one line feed. -/
theorem foldl_merge_additions (existing : Text) {additions : List Addition} (h : additions ≠ []) :
    additions.foldl (fun note a => merge note a.text) existing =
        (if Text.isAllBlank existing then [] else Text.trimRight existing ++ "\n\n".toList) ++
          Text.join "\n" (additions.map Addition.text) ∧
      (∀ a ∈ additions, ∃ body, a.text = '#' :: (body ++ "]\n".toList)) ∧
      (∀ c ∈ (Text.trimRight existing).getLast?, Text.isBlank c = false) ∧
      ∃ front, additions.foldl (fun note a => merge note a.text) existing =
        front ++ "]\n".toList := by
  obtain ⟨first, rest, rfl⟩ := List.exists_cons_of_ne_nil h
  refine ⟨?_, fun a _ => a.exists_text_eq, ?_, ?_⟩
  · rw [List.foldl_cons, merge_text, foldl_merge_append_text]
    rfl
  · intro c hc
    rw [Text.trimRight, List.getLast?_reverse] at hc
    exact Text.eq_false_of_head?_dropWhile hc
  · obtain ⟨before, last, hlast⟩ : ∃ before last, first :: rest = before ++ [last] :=
      ⟨_, _, (List.dropLast_concat_getLast h).symm⟩
    obtain ⟨body, hbody⟩ := last.exists_text_eq
    rw [hlast, List.foldl_append, List.foldl_cons, List.foldl_nil, merge_text, hbody,
      ← List.append_assoc]
    exact ⟨_, rfl⟩

namespace TwoRuns

def stamp : Text := "0001-01-01T00:00:00.000Z".toList

/-- A section with one task. -/
def first : Addition := ⟨stamp, [⟨⟨⟨"TODO".toList, "x".toList, {}⟩, "a.c".toList, 1⟩, stamp⟩], by simp⟩

/-- A section with one task that has no message. -/
def second : Addition := ⟨stamp, [⟨⟨⟨"TODO".toList, [], {}⟩, "b.c".toList, 2⟩, stamp⟩], by simp⟩

end TwoRuns

theorem foldl_merge_additions_two_runs :
    [TwoRuns.first, TwoRuns.second] ≠ [] ∧
      [TwoRuns.first, TwoRuns.second].foldl (fun note a => merge note a.text) "# Old \n\n".toList =
        "# Old\n\n".toList ++ TwoRuns.first.text ++ "\n".toList ++ TwoRuns.second.text := by
  have hne : [TwoRuns.first, TwoRuns.second] ≠ [] := List.cons_ne_nil _ _
  have hblank : ¬Text.isAllBlank "# Old \n\n".toList := by decide
  have htrim : Text.trimRight "# Old \n\n".toList = "# Old".toList := by decide
  obtain ⟨hfold, -⟩ := foldl_merge_additions "# Old \n\n".toList hne
  refine ⟨hne, ?_⟩
  rw [hfold, if_neg hblank, htrim, List.map_cons, List.map_singleton, Text.join,
    List.intercalate_cons_cons, List.intercalate_singleton]
  simp only [List.append_assoc]
  rfl

end CommentTasks.Note
