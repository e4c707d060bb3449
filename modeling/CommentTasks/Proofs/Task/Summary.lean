import CommentTasks.Proofs.Comment.Place
import CommentTasks.Proofs.Comment.Spelling
import CommentTasks.Proofs.Comment.Tags
import CommentTasks.Proofs.Note.Reading

/-!
# The first line of a task

The first line of a task has words alone, with single spaces between them. The first word is the
icon, and the label of a task that a comment states has at least one word more: the keyword is found
at the front of a text without blanks there, and no blank comes into its capital form.
-/

namespace CommentTasks

/-! ### The label -/

/-- A keyword begins as the text does in which it is found, so with no blank if that is trimmed. -/
theorem Body.exists_keyword_eq_cons {ks : Keywords} {u : Text} {body : Body} (hu : Text.IsTrimmed u)
    (h : Body.parse? ks u = some body) : ∃ c r, body.keyword = c :: r ∧ Text.isBlank c = false := by
  obtain ⟨found, rest, hm, hkeyword⟩ := exists_of_parse?_eq_some h
  obtain ⟨k, hk, rfl, hletters, -⟩ := Keywords.exists_of_match?_eq_some hm
  obtain ⟨a, m, rfl⟩ := List.exists_cons_of_ne_nil (hletters.ne_nil (ks.ne_nil_of_mem k hk))
  have ha : Text.isBlank a = false := hu.head a rfl
  obtain ⟨c, r, hc⟩ := List.exists_cons_of_ne_nil (Text.capitalForm_ne_nil a)
  refine ⟨c, r ++ Text.upper m, ?_, Text.isBlank_of_mem_capitalForm ha (hc ▸ List.mem_cons_self)⟩
  rw [hkeyword, Text.upper, List.flatMap_cons, hc]
  rfl

theorem exists_parse?_of_mem_tasksIn {ks : Keywords} {path content : Text} {t : Task}
    (h : t ∈ tasksIn ks path content) : ∃ u, Text.IsTrimmed u ∧ Body.parse? ks u = some t.toBody := by
  rcases List.mem_append.1 h with h | h
  · obtain ⟨-, line, -, -, hb⟩ := exists_of_mem_tasksOfLines h
    obtain ⟨u, -, hu, hp⟩ := exists_infix_of_lineBody? hb
    exact ⟨u, hu, hp⟩
  · obtain ⟨d, -, h⟩ := List.mem_flatMap.1 h
    obtain ⟨⟨opens, interior⟩, -, h⟩ := List.mem_flatMap.1 h
    obtain ⟨-, line, -, -, hb⟩ := exists_of_mem_tasksOfLines h
    obtain ⟨u, -, hu, hp⟩ := exists_infix_of_blockLineBody? hb
    exact ⟨u, hu, hp⟩

namespace Task

variable {t : Task}

theorem exists_label_eq_cons {ks : Keywords} {u : Text} (hu : Text.IsTrimmed u)
    (h : Body.parse? ks u = some t.toBody) : ∃ c r, t.label = c :: r ∧ Text.isBlank c = false := by
  unfold label
  simp only
  split
  · exact Body.exists_keyword_eq_cons hu h
  · next hne =>
    obtain ⟨c, r, hc⟩ := List.exists_cons_of_ne_nil hne
    exact ⟨c, r, hc, (Text.isTrimmed_trim t.message).head c (hc ▸ rfl)⟩

theorem exists_summaryLine_eq (h : ∃ c r, t.label = c :: r ∧ Text.isBlank c = false) :
    ∃ rest, rest ≠ [] ∧ t.summaryLine = t.icon ++ ' ' :: rest := by
  obtain ⟨c, r, hlabel, hc⟩ := h
  obtain ⟨i, hicon, hi, -⟩ := t.exists_icon_eq
  obtain ⟨first, more, hwords⟩ := Text.exists_words_cons hc r
  have hsolid : Text.words t.icon = [t.icon] := by
    rw [hicon]
    exact Text.words_of_solid (List.cons_ne_nil _ _) (by simpa using hi)
  obtain ⟨ws, hws⟩ : ∃ ws, Text.words t.summaryLine = t.icon :: (c :: first) :: ws := by
    rw [words_summaryLine]
    simp only [List.cons_append, List.nil_append, List.flatMap_cons, hsolid, hlabel, hwords]
    exact ⟨_, rfl⟩
  have hareWords : Text.AreWords (t.icon :: (c :: first) :: ws) := hws ▸ Text.areWords_words _
  refine ⟨Text.join " " ((c :: first) :: ws), fun hnil => ?_, ?_⟩
  · have hne : ∀ w ∈ (c :: first) :: ws, w ≠ [] := fun w hw =>
      (hareWords w (List.mem_cons_of_mem _ hw)).1
    exact absurd ((Text.join_eq_nil_iff hne).1 hnil) (List.cons_ne_nil _ _)
  · rw [← t.join_words_summaryLine, hws, Text.join_cons_cons]

end Task

/-- A line that shows a task: an icon, a space and something more, and blanks only as single
spaces. -/
structure ShowsTask (line : Text) : Prop where
  icon : ∃ icon ∈ plainIcon :: priorityIcons.map Prod.snd, ∃ rest, rest ≠ [] ∧ line = icon ++ ' ' :: rest
  singlySpaced : Text.SinglySpaced line

/-- **The first line of a task** that a comment states shows it. -/
theorem showsTask_of_mem_tasksIn {ks : Keywords} {path content : Text} {t : Task}
    (h : t ∈ tasksIn ks path content) : ShowsTask t.summaryLine := by
  obtain ⟨u, hu, hp⟩ := exists_parse?_of_mem_tasksIn h
  exact ⟨⟨t.icon, t.icon_mem, Task.exists_summaryLine_eq (Task.exists_label_eq_cons hu hp)⟩,
    Text.singlySpaced_squeeze _⟩

end CommentTasks
