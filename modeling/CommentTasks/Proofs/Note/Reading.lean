import CommentTasks.Proofs.Comment.Append
import CommentTasks.Proofs.Comment.Layout
import CommentTasks.Proofs.Note.Section
import CommentTasks.Proofs.Source.Decode
import CommentTasks.Proofs.Text.Decimal
import CommentTasks.Proofs.Text.Words
import CommentTasks.Run.News

/-!
# A note that is read as a source file

A note may stand among the source files. What a run writes there begins with a heading and with
icons, which are no comments: only a line that tells where a comment is can look like a line
comment, and only block comments may come out of the messages. If neither happens, and the text of
the note was settled, the note states no task that it did not state before.
-/

namespace CommentTasks

/-! ### Lines that are no comments -/

namespace LineMark

/-- The marks begin with these characters. -/
def heads : List Char := ['/', '#', '-', ';']

theorem at?_eq_none_of_head {c : Char} {r : Text} (h : c ∉ heads) : at? (c :: r) = none := by
  have hf (m : LineMark) : ∃ d ∈ heads, ∃ more, m.text = d :: more := by
    cases m
    · exact ⟨'/', by decide, _, rfl⟩
    · exact ⟨'#', by decide, _, rfl⟩
    · exact ⟨'-', by decide, _, rfl⟩
    · exact ⟨';', by decide, _, rfl⟩
  unfold at?
  rw [List.find?_eq_none]
  intro m _
  obtain ⟨d, hd, more, hm⟩ := hf m
  have hdc : (d == c) = false := by
    rw [beq_eq_false_iff_ne]
    rintro rfl
    exact h hd
  simp [isAt, hm, List.isPrefixOf, hdc]

end LineMark

/-! ### Texts that state no task -/

section

variable {ks : Keywords} {path a b : Text} {d : Delimiters}

theorem tasksIn_eq_nil_iff : tasksIn ks path a = [] ↔
    lineTasks ks path a = [] ∧ ∀ d ∈ Delimiters.all, blockTasks ks d path a = [] := by
  rw [tasksIn, List.append_eq_nil_iff, List.flatMap_eq_nil_iff]

theorem lineTasks_eq_nil_iff : lineTasks ks path a = [] ↔
    ∀ line ∈ linesOf a, lineBody? ks line = none := by
  unfold lineTasks
  generalize linesOf a = lines, (1 : Int) = first
  induction lines generalizing first with
  | nil => simp [tasksOfLines]
  | cons line rest ih =>
    rw [tasksOfLines, List.append_eq_nil_iff, ih, List.forall_mem_cons]
    cases lineBody? ks line <;> simp

theorem lineTasks_of_not_mem (h : '\n' ∉ a) (hb : lineBody? ks a = none) :
    lineTasks ks path a = [] := by
  rw [lineTasks_of_line h, hb]
  rfl

theorem blockTasks_of_no_opening (h : Text.breakOn? d.opening a = none) :
    blockTasks ks d path a = [] := by
  have hr : d.firstRegion? a = none := by
    unfold Delimiters.firstRegion?
    rw [h]
  rw [blockTasks, Delimiters.regions_eq_nil hr]
  rfl

theorem lineTasks_nil : lineTasks ks path [] = [] :=
  lineTasks_of_not_mem List.not_mem_nil rfl

theorem lineTasks_flatMap {lines : List Text} (h : ∀ line ∈ lines, lineTasks ks path line = []) :
    lineTasks ks path (lines.flatMap fun line => line ++ ['\n']) = [] := by
  induction lines with
  | nil => exact lineTasks_nil
  | cons line rest ih =>
    rw [List.flatMap_cons, List.append_assoc, List.singleton_append, lineTasks_append_newline,
      h line List.mem_cons_self, ih fun l hl => h l (List.mem_cons_of_mem _ hl)]
    rfl

/-- Lines that state no task leave the tasks of a text in front of them what they were, if it leaves
no block comment open. -/
theorem tasksIn_append_of_eq_nil (ha : ∀ d ∈ Delimiters.all, d.Closed a)
    (hb : tasksIn ks path b = []) : tasksIn ks path (a ++ '\n' :: b) = tasksIn ks path a := by
  obtain ⟨hl, hblock⟩ := tasksIn_eq_nil_iff.1 hb
  unfold tasksIn
  rw [lineTasks_append_newline, hl, List.map_nil, List.append_nil]
  congr 1
  refine List.flatMap_congr fun d hd => ?_
  rw [blockTasks_append_of_closed (Delimiters.solid_of_mem_all hd) ks path (ha d hd), hblock d hd,
    List.map_nil, List.append_nil]

end

/-! ### The lines of a section -/

/-- A heading is no comment that states a task: behind the first mark stands another. -/
theorem lineBody?_headingText (stamp : Text) : lineBody? .usual (headingText stamp) = none := by
  have hhash : Text.isBlank '#' = false := by decide
  obtain ⟨s, hs⟩ : ∃ s, Text.trim (headingText stamp) = '#' :: '#' :: s := by
    refine ⟨Text.trimRight (" Imported from comments (".toList ++ stamp ++ ")".toList), ?_⟩
    have hh : headingText stamp =
        '#' :: '#' :: (" Imported from comments (".toList ++ stamp ++ ")".toList) := rfl
    rw [hh, Text.trim, Text.trimLeft, List.dropWhile_cons_of_neg (by decide), Text.trimRight_cons,
      if_neg (by simp [hhash]), Text.trimRight_cons, if_neg (by simp [hhash])]
  have hmark : LineMark.at? ('#' :: '#' :: s) = some .hash := rfl
  obtain ⟨s', hs'⟩ := Text.exists_trim_cons hhash s
  have hparse : Body.parse? .usual ('#' :: s') = none := by
    have hl : ∀ k ∈ Keywords.usual.words, Text.matchLetters? k ('#' :: s') = none := by
      have hheads : ∀ k ∈ Keywords.standard,
          (k.head?.map fun c => Text.sameLetter c '#') = some false := by decide +kernel
      intro k hk
      obtain ⟨c, hc, hletter⟩ := Option.map_eq_some_iff.1 (hheads k hk)
      obtain ⟨r, rfl⟩ := List.head?_eq_some_iff.1 hc
      rw [Text.matchLetters?, hletter]
      rfl
    have hm : Keywords.usual.match? ('#' :: s') = none := by
      rw [Keywords.match?, List.findSome?_eq_none_iff]
      intro k hk
      rw [Keywords.matchOne?, hl k hk]
    rw [Body.parse?, hm]
  unfold lineBody?
  simp only [hs, hmark]
  rw [show ('#' :: '#' :: s).drop LineMark.hash.text.length = '#' :: s from rfl, hs',
    if_neg (List.cons_ne_nil _ _), hparse]

theorem Task.icon_mem (t : Task) : t.icon ∈ plainIcon :: priorityIcons.map Prod.snd := by
  unfold icon
  cases h : t.metadata.priority.bind fun p => priorityIcons.lookup p with
  | none => exact List.mem_cons_self
  | some value =>
    obtain ⟨p, -, hp⟩ := Option.bind_eq_some_iff.1 h
    obtain ⟨before, after, hs, -⟩ := List.lookup_eq_some_iff.1 hp
    refine List.mem_cons_of_mem _ (List.mem_map.2 ⟨(p, value), ?_, rfl⟩)
    rw [hs]
    exact List.mem_append_right _ List.mem_cons_self

/-- An icon is a single character that begins no comment. -/
theorem Task.exists_icon_eq (t : Task) :
    ∃ c, t.icon = [c] ∧ Text.isBlank c = false ∧ c ∉ LineMark.heads := by
  have fine : ∀ icon ∈ plainIcon :: priorityIcons.map Prod.snd,
      ∃ c, icon = [c] ∧ Text.isBlank c = false ∧ c ∉ LineMark.heads := by
    intro icon hm
    simp only [priorityIcons, List.map_cons, List.map_nil, List.mem_cons, List.not_mem_nil,
      or_false] at hm
    rcases hm with rfl | rfl | rfl | rfl
    · exact ⟨'•', rfl, by decide, by decide⟩
    · exact ⟨'⏫', rfl, by decide, by decide⟩
    · exact ⟨'🔼', rfl, by decide, by decide⟩
    · exact ⟨'🔽', rfl, by decide, by decide⟩
  exact fine _ t.icon_mem

/-- The first line of a task begins with its icon, which begins no comment. -/
theorem lineTasks_summaryLine (ks : Keywords) (path : Text) (t : Task) :
    lineTasks ks path t.summaryLine = [] := by
  obtain ⟨c, hicon, hblank, hc⟩ := t.exists_icon_eq
  obtain ⟨s, hs⟩ : ∃ s, t.summaryLine = c :: s := by
    unfold Task.summaryLine
    rw [List.append_assoc, List.append_assoc, List.cons_append, Text.join, hicon,
      List.intercalate_cons_cons_left]
    exact Text.exists_squeeze_cons hblank _
  refine lineTasks_of_not_mem (Text.newline_not_mem_squeeze _) ?_
  obtain ⟨s', hs'⟩ := Text.exists_trim_cons hblank s
  unfold lineBody?
  simp only [hs, hs', LineMark.at?_eq_none_of_head hc]

theorem newline_not_mem_stamp {m : Moment} {stamp : Text} (h : m.stamp? = some stamp) :
    '\n' ∉ stamp := by
  have hn (width n : Nat) : '\n' ∉ Text.ofNatPadded width n := by
    rw [Text.ofNatPadded, List.mem_append, not_or]
    exact ⟨fun hm => absurd (List.eq_of_mem_replicate hm) (by decide),
      fun hm => absurd (Text.isDigit_of_mem_ofNat hm) (by decide)⟩
  unfold Moment.stamp? at h
  split at h
  · cases h
    simp [Moment.civilText, hn]
  · cases h

theorem newline_not_mem_headingText {stamp : Text} (h : '\n' ∉ stamp) : '\n' ∉ headingText stamp := by
  intro hm
  rcases List.mem_append.1 hm with hm | hm
  · exact (List.mem_append.1 hm).elim (by decide) h
  · exact absurd hm (by decide)

/-- **A section states no task in a line comment**, unless a line that tells where a comment is
does. -/
theorem lineTasks_sectionText {stamp : Text} {news : List News} {path : Text} (hs : '\n' ∉ stamp)
    (h : ∀ n ∈ news, lineTasks .usual path (n.task.locationLine n.task.digest) = []) :
    lineTasks .usual path (Note.sectionText (News.sectionLines stamp news)) = [] := by
  have hheading : lineTasks .usual path (headingText stamp) = [] :=
    lineTasks_of_not_mem (newline_not_mem_headingText hs) (lineBody?_headingText stamp)
  rw [Note.sectionText_eq_flatMap]
  refine lineTasks_flatMap fun line hm => ?_
  have hm : line ∈ News.sectionLines stamp news :=
    List.mem_reverse.1 ((List.dropWhile_sublist _).mem (List.mem_reverse.1 hm))
  simp only [News.sectionLines, Task.format, List.mem_append, List.mem_cons, List.not_mem_nil,
    or_false, List.mem_flatMap] at hm
  rcases hm with (hm | hm) | ⟨n, hn, (hm | hm) | hm⟩
  · rw [hm, hheading]
  · rw [hm, lineTasks_nil]
  · rw [hm, lineTasks_summaryLine]
  · rw [hm, h n hn]
  · rw [hm, lineTasks_nil]

/-! ### A note with a section behind it -/

section

variable {ks : Keywords} {path text addition z blanks rest : Text} {task : Task}

theorem tasksIn_nil : tasksIn ks path [] = [] :=
  tasksIn_eq_nil_iff.2 ⟨lineTasks_nil, fun _ hd => blockTasks_of_no_opening
    (Text.breakOn?_nil (Delimiters.solid_of_mem_all hd).opening_ne_nil)⟩

/-- Blanks at the end of a text take away no task. -/
theorem tasksIn_sublist_append_blanks (hb : ∀ c ∈ blanks, Text.isBlank c) :
    (tasksIn ks path z).Sublist (tasksIn ks path (z ++ blanks)) := by
  by_cases hn : '\n' ∈ blanks
  · -- the blanks up to the first line feed end the line, and the others are lines of their own
    obtain ⟨s, more, rfl, hs⟩ := List.eq_append_cons_of_mem hn
    have hpad := (relaid_append z ⟨s, fun c hc => hb c (List.mem_append_left _ hc), hs⟩).tasksIn ks path
    rw [← hpad, ← List.append_assoc]
    exact tasksIn_sublist_append ks path _ _
  · rw [(relaid_append z ⟨blanks, hb, hn⟩).tasksIn ks path]

theorem head?_append_ne (hz : z.head? ≠ some markChar) (hr : rest.head? ≠ some markChar) :
    (z ++ rest).head? ≠ some markChar := by
  cases z with
  | nil => exact hr
  | cons c z => exact hz

theorem head?_unifyLineEnds_ne (hz : z.head? ≠ some markChar) :
    (Utf8.unifyLineEnds z).head? ≠ some markChar := by
  fun_cases Utf8.unifyLineEnds z with
  | case1 => exact hz
  | case2 => exact fun h => absurd (Option.some.inj h) (by decide)
  | case3 c r =>
    rw [List.head?_cons]
    split
    · exact fun h => absurd (Option.some.inj h) (by decide)
    · exact hz

/-- The text of a note that can be added to without an effect on the tasks in it: up to the blanks
at its end, carriage returns only stand before line feeds and no block comment is left open; and the
file looks like text. -/
structure Note.Settled (text : Text) : Prop where
  readable : looksLikeText (Utf8.encode text)
  returns : ∀ a b, Text.trimRight text = a ++ '\r' :: b → b.head? = some '\n'
  closed : ∀ d ∈ Delimiters.all, d.Closed (Text.trimRight text)

/-- **A section that states no task adds none to a note**: what is read from the note with the
section behind it was read from the note, if it was settled. -/
theorem Note.Settled.mem_tasksIn_of_merge (ht : Note.Settled text)
    (hend : Note.endLine addition = addition) (hmark : addition.head? ≠ some markChar)
    (hs : tasksIn ks path addition = [])
    (h : task ∈ tasksIn ks path
      ((Note.merge (Utf8.unifyLineEnds text) addition).dropWhile (· == markChar))) :
    task ∈ tasksIn ks path (text.dropWhile (· == markChar)) := by
  obtain ⟨blanks, htext, hblanks⟩ := Text.exists_eq_trimRight_append text
  obtain ⟨marks, z, hz, hmarks, hhead⟩ := exists_marks (Text.trimRight text)
  unfold Note.merge at h
  simp only [Text.trimRight_unifyLineEnds, Utf8.unifyLineEnds_eq_nil_iff, hend] at h
  split at h
  · -- nothing is left of the note
    rw [dropWhile_mark_of_head hmark, hs] at h
    cases h
  · have hreturn : '\r' ∉ marks := fun hm => absurd (hmarks _ hm) (by decide)
    have hrelaid : Relaid (Utf8.unifyLineEnds z) z := relaid_unifyLineEnds fun a b hab =>
      ht.returns (marks ++ a) b (by rw [hz, hab, List.append_assoc])
    have hclosed : ∀ d ∈ Delimiters.all, d.Closed (Utf8.unifyLineEnds z) := by
      have hopening : ∀ d ∈ Delimiters.all, markChar ∉ d.opening := by decide
      intro d hd
      refine hrelaid.closed (Delimiters.solid_of_mem_all hd) ?_
      have hc := ht.closed d hd
      rw [hz] at hc
      exact hc.of_append (Delimiters.solid_of_mem_all hd) fun c hm => hmarks c hm ▸ hopening d hd
    have hempty : tasksIn ks path ([] ++ '\n' :: addition) = [] := by
      rw [tasksIn_append_of_eq_nil (fun d hd => .plain ?_) hs, tasksIn_nil]
      exact Text.breakOn?_nil (Delimiters.solid_of_mem_all hd).opening_ne_nil
    have hline : ("\n\n".toList ++ addition).head? ≠ some markChar :=
      show some '\n' ≠ some markChar by decide
    have hmerged : (Utf8.unifyLineEnds (Text.trimRight text) ++ "\n\n".toList ++ addition).dropWhile
        (· == markChar) = Utf8.unifyLineEnds z ++ '\n' :: ([] ++ '\n' :: addition) := by
      rw [hz, Utf8.unifyLineEnds_append hreturn, List.append_assoc, List.append_assoc]
      exact dropWhile_marks hmarks (head?_append_ne (head?_unifyLineEnds_ne hhead) hline)
    rw [hmerged, tasksIn_append_of_eq_nil hclosed hempty, ← hrelaid.tasksIn] at h
    -- the blanks at the end were lines without tasks
    have hblank : blanks.head? ≠ some markChar := by
      intro hb
      obtain ⟨r, rfl⟩ := List.head?_eq_some_iff.1 hb
      exact absurd (hblanks _ List.mem_cons_self) (by decide)
    rw [htext, hz, List.append_assoc, dropWhile_marks hmarks (head?_append_ne hhead hblank)]
    exact (tasksIn_sublist_append_blanks hblanks).mem h

end

end CommentTasks
