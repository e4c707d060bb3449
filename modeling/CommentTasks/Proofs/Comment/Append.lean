import CommentTasks.Proofs.Comment.Regions
import Mathlib.Data.List.Flatten

/-!
# Tasks of a text with lines behind it

No delimiter lies across a line feed. So lines that are put behind a text leave its tasks what they
were, and if the text leaves no block comment open, the tasks of the two together are those of the
text followed by those of the lines, further down.
-/

namespace CommentTasks

open Delimiters (lineFeeds)

theorem lineTasks_of_line {line : Text} (h : '\n' ∉ line) (ks : Keywords) (path : Text) :
    lineTasks ks path line = ((lineBody? ks line).map (Task.ofBody path 1)).toList := by
  rw [lineTasks, linesOf_of_not_mem h, tasksOfLines, tasksOfLines, List.append_nil]

/-- The lines of the second text are read as they are on their own, further down. -/
theorem lineTasks_append_newline (ks : Keywords) (path a b : Text) :
    lineTasks ks path (a ++ '\n' :: b) =
      lineTasks ks path a ++ (lineTasks ks path b).map (Task.shift (1 + lineFeeds a)) := by
  unfold lineTasks
  rw [linesOf_append_newline, tasksOfLines_append, length_linesOf, ← tasksOfLines_add]
  push_cast
  rw [add_comm (lineFeeds a : Int)]

/-! ### Block comments -/

namespace Delimiters

variable {d : Delimiters} {a before interior rest : Text}

/-- The first block comment stays the first. -/
theorem firstRegion?_append_of_eq_some (hd : d.Solid)
    (h : d.firstRegion? a = some (before, interior, rest)) (b : Text) :
    d.firstRegion? (a ++ '\n' :: b) = some (before, interior, rest ++ '\n' :: b) := by
  rw [firstRegion?_eq_some_iff] at h ⊢
  obtain ⟨inner, ho, hc⟩ := h
  exact ⟨_, Text.breakOn?_append_cons_of_eq_some (hd.not_mem_opening '\n' rfl) ho,
    Text.breakOn?_append_cons_of_eq_some (hd.not_mem_closing '\n' rfl) hc⟩

/-- If nothing opens in the first text, the first block comment is the first one of the second. -/
theorem firstRegion?_append_of_eq_none (hd : d.Solid) (h : Text.breakOn? d.opening a = none)
    (b : Text) :
    d.firstRegion? (a ++ '\n' :: b) =
      (d.firstRegion? b).map fun r => (a ++ '\n' :: r.1, r.2.1, r.2.2) := by
  unfold firstRegion?
  rw [Text.breakOn?_append_cons_of_eq_none (hd.not_mem_opening '\n' rfl) h]
  cases Text.breakOn? d.opening b with
  | none => rfl
  | some p =>
    simp only [Option.map_some]
    split <;> rfl

theorem regions_isPrefix_append (hd : d.Solid) (line : Int) (a b : Text) :
    d.regions line a <+: d.regions line (a ++ '\n' :: b) := by
  have hne := hd.not_both_nil
  induction a using regionsInduction hne generalizing line with
  | none a h =>
    rw [regions_eq_nil h]
    exact List.nil_prefix
  | some a before interior rest h ih =>
    rw [regions_eq_cons hne h, regions_eq_cons hne (firstRegion?_append_of_eq_some hd h b)]
    exact (List.prefix_cons_inj _).2 (ih _)

/-- The block comments of the second text follow if the first leaves none open. -/
theorem regions_append_of_closed (hd : d.Solid) (h : d.Closed a) (line : Int) (b : Text) :
    d.regions line (a ++ '\n' :: b) =
      d.regions line a ++ d.regions (line + (1 + lineFeeds a)) b := by
  have hne := hd.not_both_nil
  induction h generalizing line with
  | @plain a h =>
    have ha : d.firstRegion? a = none := by
      unfold firstRegion?
      rw [h]
    have hb := firstRegion?_append_of_eq_none hd h b
    rw [regions_eq_nil ha, List.nil_append]
    cases hr : d.firstRegion? b with
    | none =>
      rw [hr] at hb
      rw [regions_eq_nil hb, regions_eq_nil hr]
    | some r =>
      obtain ⟨before, interior, rest⟩ := r
      rw [hr] at hb
      have hl : (lineFeeds (a ++ '\n' :: before) : Int) = 1 + lineFeeds a + lineFeeds before := by
        have hc : lineFeeds ('\n' :: before) = lineFeeds before + 1 := List.count_cons_self
        rw [lineFeeds_append, hc]
        push_cast
        ring
      rw [regions_eq_cons hne hb, regions_eq_cons hne hr, hl]
      simp only [add_assoc]
  | @region a before interior rest h hr ih =>
    -- the text is counted piece by piece
    have hl : (lineFeeds a : Int) =
        lineFeeds before + lineFeeds (d.opening ++ interior ++ d.closing) + lineFeeds rest := by
      have ha := congrArg lineFeeds (eq_of_firstRegion? h)
      simp only [lineFeeds_append] at ha ⊢
      omega
    rw [regions_eq_cons hne h, regions_eq_cons hne (firstRegion?_append_of_eq_some hd h b), ih, hl,
      List.cons_append]
    congr 3
    ring

end Delimiters

/-- The tasks in block comments that were found. -/
def tasksOfRegions (ks : Keywords) (d : Delimiters) (path : Text) (regions : List (Int × Text)) :
    List Task :=
  regions.flatMap fun x => tasksOfLines (blockLineBody? ks d) path x.1 (linesOf x.2)

theorem blockTasks_eq (ks : Keywords) (d : Delimiters) (path content : Text) :
    blockTasks ks d path content = tasksOfRegions ks d path (d.regions 1 content) := rfl

/-- Block comments further down have the same tasks further down. -/
theorem tasksOfRegions_add (ks : Keywords) (d : Delimiters) (path : Text) (n : Int)
    (regions : List (Int × Text)) :
    tasksOfRegions ks d path (regions.map fun x => (x.1 + n, x.2)) =
      (tasksOfRegions ks d path regions).map (Task.shift n) := by
  unfold tasksOfRegions
  rw [List.flatMap_map, List.map_flatMap]
  exact List.flatMap_congr fun x _ => tasksOfLines_add _ path x.1 n _

section

variable {d : Delimiters}

theorem blockTasks_isPrefix_append (hd : d.Solid) (ks : Keywords) (path a b : Text) :
    blockTasks ks d path a <+: blockTasks ks d path (a ++ '\n' :: b) := by
  obtain ⟨more, h⟩ := Delimiters.regions_isPrefix_append hd 1 a b
  rw [blockTasks_eq, blockTasks_eq, ← h, tasksOfRegions, tasksOfRegions, List.flatMap_append]
  exact List.prefix_append _ _

theorem blockTasks_append_of_closed (hd : d.Solid) (ks : Keywords) (path : Text) {a : Text}
    (h : d.Closed a) (b : Text) :
    blockTasks ks d path (a ++ '\n' :: b) =
      blockTasks ks d path a ++ (blockTasks ks d path b).map (Task.shift (1 + lineFeeds a)) := by
  rw [blockTasks_eq, Delimiters.regions_append_of_closed hd h, Delimiters.regions_add hd,
    tasksOfRegions, List.flatMap_append, ← tasksOfRegions, ← tasksOfRegions, tasksOfRegions_add]
  rfl

end

/-! ### All comments -/

/-- Lines behind a text add tasks and change none. -/
theorem tasksIn_sublist_append (ks : Keywords) (path a b : Text) :
    (tasksIn ks path a).Sublist (tasksIn ks path (a ++ '\n' :: b)) := by
  unfold tasksIn
  refine List.Sublist.append ?_ ?_
  · rw [lineTasks_append_newline]
    exact List.sublist_append_left _ _
  · exact List.Sublist.flatMap_right _ fun d hd =>
      (blockTasks_isPrefix_append (Delimiters.solid_of_mem_all hd) ks path a b).sublist

/-- **The tasks of a text with lines behind it.** The line comments of the lines follow those of the
text, further down. The tasks in block comments of the text come first, and if it leaves none of
them open, those of the lines follow, further down. So what was found before is found again. -/
theorem tasks_append_newline (ks : Keywords) (path a b : Text) :
    lineTasks ks path (a ++ '\n' :: b) =
        lineTasks ks path a ++ (lineTasks ks path b).map (Task.shift (1 + lineFeeds a)) ∧
      (∀ d ∈ Delimiters.all,
        blockTasks ks d path a <+: blockTasks ks d path (a ++ '\n' :: b) ∧
          (d.Closed a →
            blockTasks ks d path (a ++ '\n' :: b) =
              blockTasks ks d path a ++
                (blockTasks ks d path b).map (Task.shift (1 + lineFeeds a)))) ∧
      (tasksIn ks path a).Sublist (tasksIn ks path (a ++ '\n' :: b)) := by
  refine ⟨lineTasks_append_newline ks path a b, fun d hd => ?_, tasksIn_sublist_append ks path a b⟩
  have hs := Delimiters.solid_of_mem_all hd
  exact ⟨blockTasks_isPrefix_append hs ks path a b,
    fun h => blockTasks_append_of_closed hs ks path h b⟩

namespace TwoComments

/-- A comment of two lines, the first of which ends with a carriage return. -/
def upper : Text := "x /*\r\n * TODO up */\r".toList

/-- A comment of one line. -/
def lower : Text := "\n/* FIXME low */".toList

/-- The delimiters of the comments. -/
def delimiters : Delimiters := ⟨"/*".toList, "*/".toList⟩

theorem closed_upper : delimiters.Closed upper := by
  have hr : delimiters.firstRegion? upper =
      some ("x ".toList, "\r\n * TODO up ".toList, "\r".toList) := by decide
  exact .region hr (.plain (by decide))

end TwoComments

theorem tasks_append_newline_two_comments :
    TwoComments.delimiters ∈ Delimiters.all ∧
      TwoComments.delimiters.Closed TwoComments.upper ∧
      blockTasks Keywords.usual TwoComments.delimiters []
          (TwoComments.upper ++ '\n' :: TwoComments.lower) =
        [⟨⟨"TODO".toList, "up".toList, {}⟩, [], 2⟩, ⟨⟨"FIXME".toList, "low".toList, {}⟩, [], 4⟩] := by
  have hd : TwoComments.delimiters ∈ Delimiters.all := by decide
  have hu : blockTasks Keywords.usual TwoComments.delimiters [] TwoComments.upper =
      [⟨⟨"TODO".toList, "up".toList, {}⟩, [], 2⟩] := by decide +kernel
  have hl : blockTasks Keywords.usual TwoComments.delimiters [] TwoComments.lower =
      [⟨⟨"FIXME".toList, "low".toList, {}⟩, [], 2⟩] := by decide +kernel
  obtain ⟨-, h, -⟩ := tasks_append_newline Keywords.usual [] TwoComments.upper
    TwoComments.lower
  refine ⟨hd, TwoComments.closed_upper, ?_⟩
  rw [(h _ hd).2 TwoComments.closed_upper, hu, hl]
  rfl

end CommentTasks
