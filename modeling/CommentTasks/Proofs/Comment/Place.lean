import CommentTasks.Proofs.Comment.Greedy
import CommentTasks.Proofs.Text.Squeeze

/-!
# The lines of tasks

A task names a line of its text. Part of that line is the body of the comment, whether it is a line
of the text or a line of the interior of a block comment: a part of a text has its lines within the
lines of the text, as many lines further down as line feeds stand in front of it
(`exists_line_of_part`).
-/

namespace CommentTasks

open Delimiters (lineFeeds)

/-! ### The lines of a part of a text -/

/-- What holds no line feed only makes the first line of a text longer. -/
theorem linesOf_append_of_not_mem {l b first : Text} {more : List Text} (hl : '\n' ∉ l)
    (hb : linesOf b = first :: more) : linesOf (l ++ b) = (l ++ first) :: more := by
  induction b using linesInduction with
  | last b h =>
    rw [linesOf_of_not_mem h] at hb
    cases hb
    exact linesOf_of_not_mem (by simp [hl, h])
  | cons b t h _ =>
    rw [linesOf_cons_line h] at hb
    cases hb
    rw [← List.append_assoc, linesOf_cons_line (by simp [hl, h])]

theorem exists_linesOf_eq_cons (t : Text) : ∃ first more, linesOf t = first :: more :=
  List.exists_cons_of_ne_nil (List.splitOn_ne_nil '\n' t)

/-- A text stands in front: the lines are found further down. -/
theorem exists_line_append_left (a : Text) {b line : Text} {i : Nat}
    (h : (linesOf b)[i]? = some line) :
    ∃ whole, (linesOf (a ++ b))[lineFeeds a + i]? = some whole ∧ line <:+: whole := by
  induction a using linesInduction with
  | last l hl =>
    obtain ⟨first, more, hb⟩ := exists_linesOf_eq_cons b
    have hn : lineFeeds l = 0 := List.count_eq_zero_of_not_mem hl
    rw [linesOf_append_of_not_mem hl hb, hn, Nat.zero_add]
    rw [hb] at h
    cases i with
    | zero =>
      obtain rfl : first = line := by simpa using h
      exact ⟨l ++ first, by simp, (List.suffix_append l first).isInfix⟩
    | succ i => exact ⟨line, by simpa using h, List.infix_refl line⟩
  | cons l t hl ih =>
    obtain ⟨whole, hw, hi⟩ := ih
    have hn : lineFeeds (l ++ '\n' :: t) + i = lineFeeds t + i + 1 := by
      have hl : lineFeeds l = 0 := List.count_eq_zero_of_not_mem hl
      have ht : lineFeeds ('\n' :: t) = lineFeeds t + 1 := List.count_cons_self
      rw [Delimiters.lineFeeds_append]
      omega
    refine ⟨whole, ?_, hi⟩
    rw [List.append_assoc, List.cons_append, linesOf_cons_line hl, hn, List.getElem?_cons_succ]
    exact hw

/-- A text stands behind: the lines keep their places. -/
theorem exists_line_append_right {a line : Text} {i : Nat} (h : (linesOf a)[i]? = some line)
    (b : Text) : ∃ whole, (linesOf (a ++ b))[i]? = some whole ∧ line <:+: whole := by
  induction a using linesInduction generalizing i with
  | last l hl =>
    obtain ⟨first, more, hb⟩ := exists_linesOf_eq_cons b
    rw [linesOf_of_not_mem hl, List.getElem?_singleton] at h
    split at h
    · next hi =>
      rw [Option.some.injEq] at h
      subst h
      refine ⟨l ++ first, ?_, (List.prefix_append l first).isInfix⟩
      rw [linesOf_append_of_not_mem hl hb, hi, List.getElem?_cons_zero]
    · cases h
  | cons l t hl ih =>
    rw [linesOf_cons_line hl] at h
    rw [List.append_assoc, List.cons_append, linesOf_cons_line hl]
    cases i with
    | zero => exact ⟨line, h, List.infix_refl line⟩
    | succ i => exact ih h

/-- **A line of a part of a text is part of a line of the text.** -/
theorem exists_line_of_part (a b : Text) {part line : Text} {i : Nat}
    (h : (linesOf part)[i]? = some line) :
    ∃ whole, (linesOf (a ++ part ++ b))[lineFeeds a + i]? = some whole ∧ line <:+: whole := by
  obtain ⟨longer, hl, hline⟩ := exists_line_append_left a h
  obtain ⟨whole, hw, hlonger⟩ := exists_line_append_right hl b
  exact ⟨whole, hw, hline.trans hlonger⟩

/-! ### Where block comments stand -/

namespace Delimiters

variable {d : Delimiters} {x : Int × Text}

/-- The interior of a block comment stands in the text, on the line that is told. -/
theorem exists_of_mem_regions (hd : d.Solid) (a t : Text) (h : x ∈ d.regions (1 + lineFeeds a) t) :
    ∃ u v, a ++ t = u ++ x.2 ++ v ∧ x.1 = 1 + lineFeeds u := by
  have hne := hd.not_both_nil
  induction t using regionsInduction hne generalizing a with
  | none t hr =>
    rw [regions_eq_nil hr] at h
    cases h
  | some t before interior rest hr ih =>
    rw [regions_eq_cons hne hr] at h
    have ht := eq_of_firstRegion? hr
    rcases List.mem_cons.1 h with rfl | h
    · -- an opening delimiter ends no line
      have ho : lineFeeds d.opening = 0 :=
        List.count_eq_zero_of_not_mem (hd.not_mem_opening '\n' rfl)
      refine ⟨a ++ before ++ d.opening, d.closing ++ rest, by simp [ht], ?_⟩
      simp only [lineFeeds_append, ho]
      push_cast
      ring
    · have hl : (1 : Int) + lineFeeds a + lineFeeds before +
          lineFeeds (d.opening ++ interior ++ d.closing) =
            1 + lineFeeds (a ++ before ++ d.opening ++ interior ++ d.closing) := by
        simp only [lineFeeds_append]
        push_cast
        ring
      rw [hl] at h
      obtain ⟨u, v, huv, hx⟩ := ih _ h
      exact ⟨u, v, by rw [← huv, ht]; simp, hx⟩

theorem le_of_mem_regions (hd : d.Solid) {line : Int} {t : Text} (h : x ∈ d.regions line t) :
    line ≤ x.1 := by
  have hne := hd.not_both_nil
  induction t using regionsInduction hne generalizing line with
  | none t hr =>
    rw [regions_eq_nil hr] at h
    cases h
  | some t before interior rest hr ih =>
    rw [regions_eq_cons hne hr] at h
    rcases List.mem_cons.1 h with rfl | h
    · show line ≤ line + lineFeeds before
      omega
    · have := ih h
      omega

/-- A block comment begins on the last line of the one before it or further down. -/
theorem pairwise_regions (hd : d.Solid) (line : Int) (t : Text) :
    (d.regions line t).Pairwise fun x y => (x.1 + lineFeeds x.2 : Int) ≤ y.1 := by
  have hne := hd.not_both_nil
  induction t using regionsInduction hne generalizing line with
  | none t hr =>
    rw [regions_eq_nil hr]
    exact .nil
  | some t before interior rest hr ih =>
    rw [regions_eq_cons hne hr]
    refine .cons (fun y hy => ?_) (ih _)
    have hle := le_of_mem_regions hd hy
    simp only [lineFeeds_append] at hle
    push_cast at hle
    show line + lineFeeds before + lineFeeds interior ≤ y.1
    omega

end Delimiters

/-! ### Numbered lines -/

section

variable {body? : Text → Option Body} {path : Text} {first : Int} {lines : List Text}

/-- What a task of numbered lines is: the body of one of them, and its number. -/
theorem exists_of_mem_tasksOfLines {t : Task} (h : t ∈ tasksOfLines body? path first lines) :
    ∃ (n : Nat) (line : Text),
      lines[n]? = some line ∧ t.line = first + n ∧ body? line = some t.toBody := by
  induction lines generalizing first with
  | nil => cases h
  | cons line rest ih =>
    rw [tasksOfLines, List.mem_append, Option.mem_toList, Option.map_eq_some_iff] at h
    rcases h with ⟨body, hb, rfl⟩ | h
    · exact ⟨0, line, rfl, (add_zero first).symm, hb⟩
    · obtain ⟨n, l, hl, hn, hb⟩ := ih h
      refine ⟨n + 1, l, hl, ?_, hb⟩
      push_cast
      omega

theorem pairwise_tasksOfLines :
    (tasksOfLines body? path first lines).Pairwise fun t t' => t.line < t'.line := by
  induction lines generalizing first with
  | nil => exact .nil
  | cons line rest ih =>
    rw [tasksOfLines]
    cases body? line with
    | none => exact ih
    | some body =>
      refine .cons (fun t ht => ?_) ih
      obtain ⟨n, -, -, hn, -⟩ := exists_of_mem_tasksOfLines ht
      show first < t.line
      omega

end

/-! ### The parts of a line that are read -/

section

variable {ks : Keywords} {line : Text} {body : Body}

/-- What is read of a line comment is a part of its line without blanks at the ends. -/
theorem exists_infix_of_lineBody? (h : lineBody? ks line = some body) :
    ∃ u, u <:+: line ∧ Text.IsTrimmed u ∧ Body.parse? ks u = some body := by
  unfold lineBody? at h
  simp only at h
  split at h
  · next mark _ =>
    split at h
    · cases h
    · refine ⟨_, ?_, Text.isTrimmed_trim _, h⟩
      exact (Text.trim_infix _).trans ((List.drop_suffix _ _).isInfix.trans (Text.trim_infix line))
  · cases h

theorem isTrimmed_cleanBlockLine (line : Text) : Text.IsTrimmed (cleanBlockLine line) := by
  unfold cleanBlockLine
  simp only
  split
  · exact Text.isTrimmed_trim []
  · exact Text.isTrimmed_trim _

theorem exists_infix_of_blockLineBody? {d : Delimiters} (h : blockLineBody? ks d line = some body) :
    ∃ u, u <:+: line ∧ Text.IsTrimmed u ∧ Body.parse? ks u = some body := by
  unfold blockLineBody? at h
  simp only at h
  split at h
  · cases h
  · exact ⟨_, cleanBlockLine_infix line, isTrimmed_cleanBlockLine line, h⟩

end

/-! ### Tasks -/

/-- Part of a line of the text reads as the task, and the task has the number of the line. -/
def StandsIn (ks : Keywords) (content : Text) (t : Task) : Prop :=
  ∃ (n : Nat) (line u : Text), t.line = 1 + n ∧ (linesOf content)[n]? = some line ∧ u <:+: line ∧
    Body.parse? ks u = some t.toBody

section

variable {ks : Keywords} {path content : Text} {t : Task}

theorem StandsIn.line_le (h : StandsIn ks content t) :
    1 ≤ t.line ∧ t.line ≤ 1 + lineFeeds content := by
  obtain ⟨n, line, -, hn, hl, -⟩ := h
  obtain ⟨hlt, -⟩ := List.getElem?_eq_some_iff.1 hl
  rw [length_linesOf] at hlt
  omega

theorem standsIn_of_mem_lineTasks (h : t ∈ lineTasks ks path content) : StandsIn ks content t := by
  obtain ⟨n, line, hl, hn, hb⟩ := exists_of_mem_tasksOfLines h
  obtain ⟨u, hu, -, hp⟩ := exists_infix_of_lineBody? hb
  exact ⟨n, line, u, hn, hl, hu, hp⟩

theorem standsIn_of_mem_blockTasks {d : Delimiters} (hd : d.Solid)
    (h : t ∈ blockTasks ks d path content) : StandsIn ks content t := by
  obtain ⟨⟨opens, interior⟩, hx, ht⟩ := List.mem_flatMap.1 h
  obtain ⟨n, line, hl, hn, hb⟩ := exists_of_mem_tasksOfLines ht
  obtain ⟨u, hu, -, hp⟩ := exists_infix_of_blockLineBody? hb
  have hx : (opens, interior) ∈ d.regions (1 + lineFeeds []) content := hx
  obtain ⟨a, b, hcontent, hopens⟩ := Delimiters.exists_of_mem_regions hd [] content hx
  obtain ⟨whole, hw, hline⟩ := exists_line_of_part a b hl
  refine ⟨lineFeeds a + n, whole, u, ?_, ?_, hu.trans hline, hp⟩
  · have hopens : opens = 1 + lineFeeds a := hopens
    rw [hn, hopens]
    push_cast
    ring
  · rw [← hw, ← hcontent, List.nil_append]

/-- The tasks in block comments of one kind come in the order of their lines. -/
theorem pairwise_blockTasks {d : Delimiters} (hd : d.Solid) :
    (blockTasks ks d path content).Pairwise fun t t' => t.line ≤ t'.line := by
  unfold blockTasks
  rw [List.pairwise_flatMap]
  refine ⟨fun x _ => pairwise_tasksOfLines.imp Int.le_of_lt, ?_⟩
  refine (Delimiters.pairwise_regions hd 1 content).imp fun {x y} hxy t ht t' ht' => ?_
  -- the tasks of one block comment lie between its first and its last line
  obtain ⟨n, line, hl, hn, -⟩ := exists_of_mem_tasksOfLines ht
  obtain ⟨n', -, -, hn', -⟩ := exists_of_mem_tasksOfLines ht'
  obtain ⟨hlt, -⟩ := List.getElem?_eq_some_iff.1 hl
  rw [length_linesOf] at hlt
  omega

end

/-- **Tasks stand where they say.** The line of a task is a line of the text, and part of that line
reads as the task. The tasks in line comments come first, with increasing lines; behind them those
in block comments, kind by kind, the lines of each kind never decreasing. -/
theorem tasksIn_stand (ks : Keywords) (path content : Text) :
    (∀ t ∈ tasksIn ks path content,
      1 ≤ t.line ∧ t.line ≤ 1 + lineFeeds content ∧ StandsIn ks content t) ∧
    tasksIn ks path content =
      lineTasks ks path content ++ blockTasks ks ⟨"/*".toList, "*/".toList⟩ path content ++
        blockTasks ks ⟨"<!--".toList, "-->".toList⟩ path content ∧
    (lineTasks ks path content).Pairwise (fun t t' => t.line < t'.line) ∧
    ∀ d ∈ Delimiters.all, (blockTasks ks d path content).Pairwise fun t t' => t.line ≤ t'.line := by
  refine ⟨fun t ht => ?_, ?_, pairwise_tasksOfLines,
    fun d hd => pairwise_blockTasks (Delimiters.solid_of_mem_all hd)⟩
  · have hs : StandsIn ks content t := by
      rcases List.mem_append.1 ht with h | h
      · exact standsIn_of_mem_lineTasks h
      · obtain ⟨d, hd, h⟩ := List.mem_flatMap.1 h
        exact standsIn_of_mem_blockTasks (Delimiters.solid_of_mem_all hd) h
    exact ⟨hs.line_le.1, hs.line_le.2, hs⟩
  · simp [tasksIn, Delimiters.all]

namespace MixedLineEnds

/-- Line comments and block comments, with several of them on one line and with both kinds of line
ends. -/
def text : Text :=
  "/* TODO a */ /*\r\n FIXME b */ /* NOTE c */\n; TODO d <!--\n\r\n-- NOTE e\r\n-->".toList

/-- The task of the block comment that opens on the last line of another. -/
def task : Task := ⟨⟨"NOTE".toList, "c".toList, {}⟩, "a.c".toList, 2⟩

end MixedLineEnds

theorem tasksIn_stand_mixed_line_ends :
    MixedLineEnds.task ∈ tasksIn .usual "a.c".toList MixedLineEnds.text ∧
      StandsIn .usual MixedLineEnds.text MixedLineEnds.task ∧
      (tasksIn .usual "a.c".toList MixedLineEnds.text).map (fun t => (t.message, t.line)) =
        [("d <!--".toList, 3), ("e".toList, 5), ("a".toList, 1), ("b".toList, 2), ("c".toList, 2)] := by
  have ht : (tasksIn .usual "a.c".toList MixedLineEnds.text).map (fun t => (t.message, t.line)) =
      [("d <!--".toList, 3), ("e".toList, 5), ("a".toList, 1), ("b".toList, 2), ("c".toList, 2)] := by
    decide +kernel
  have hm : MixedLineEnds.task ∈ tasksIn .usual "a.c".toList MixedLineEnds.text := by decide +kernel
  exact ⟨hm, ((tasksIn_stand .usual "a.c".toList MixedLineEnds.text).1 _ hm).2.2, ht⟩

end CommentTasks
