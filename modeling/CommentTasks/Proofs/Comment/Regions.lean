import CommentTasks.Comment.Block
import CommentTasks.Proofs.Text.Break
import Mathlib.Tactic.Ring

/-!
# Lines and block comments by parts

The lines of two texts with a line feed between them are the lines of the one and those of the
other, and numbering lines from a later number on shifts their tasks. Block comments are told one
after the other by two equations, `regions_eq_cons` and `regions_eq_nil`; that a text leaves none
open is the inductive `Closed`.
-/

namespace CommentTasks

/-! ### Lines -/

/-- The task with its line moved down. -/
def Task.shift (n : Int) (t : Task) : Task := { t with line := t.line + n }

theorem linesOf_append_newline (a b : Text) : linesOf (a ++ '\n' :: b) = linesOf a ++ linesOf b :=
  List.splitOnP_append_cons a b (beq_self_eq_true '\n')

theorem linesOf_of_not_mem {l : Text} (h : '\n' ∉ l) : linesOf l = [l] := by
  refine List.splitOnP_eq_singleton fun c hc => ?_
  rw [beq_eq_false_iff_ne]
  rintro rfl
  exact h hc

theorem linesOf_cons_line {l : Text} (hl : '\n' ∉ l) (t : Text) :
    linesOf (l ++ '\n' :: t) = l :: linesOf t := by
  rw [linesOf_append_newline, linesOf_of_not_mem hl, List.singleton_append]

/-- What holds of a line, and of a text once there is a line more in front, holds of all texts. -/
@[elab_as_elim]
theorem linesInduction {motive : Text → Prop} (last : ∀ l, '\n' ∉ l → motive l)
    (cons : ∀ l t, '\n' ∉ l → motive t → motive (l ++ '\n' :: t)) (t : Text) : motive t := by
  induction hn : t.length using Nat.strong_induction_on generalizing t with
  | _ n ih =>
    by_cases h : '\n' ∈ t
    · obtain ⟨l, rest, rfl, hl⟩ := List.eq_append_cons_of_mem h
      refine cons l rest hl (ih rest.length ?_ rest rfl)
      rw [← hn, List.length_append, List.length_cons]
      omega
    · exact last t h

theorem length_linesOf (t : Text) : (linesOf t).length = Delimiters.lineFeeds t + 1 := by
  unfold linesOf Delimiters.lineFeeds List.splitOn
  induction t with
  | nil => rfl
  | cons c t ih =>
    rw [List.splitOnP_cons_eq_if_modifyHead, List.count_cons]
    split
    · rw [List.length_cons, ih]
    · rw [List.length_modifyHead, ih]

section

variable (body? : Text → Option Body) (path : Text)

/-- Lines that are numbered from a later number on have the same tasks further down. -/
theorem tasksOfLines_add (first n : Int) (lines : List Text) :
    tasksOfLines body? path (first + n) lines =
      (tasksOfLines body? path first lines).map (Task.shift n) := by
  induction lines generalizing first with
  | nil => rfl
  | cons line rest ih =>
    rw [tasksOfLines, tasksOfLines, List.map_append, ← ih, add_right_comm]
    congr 1
    cases body? line <;> rfl

theorem tasksOfLines_append (first : Int) (lines more : List Text) :
    tasksOfLines body? path first (lines ++ more) =
      tasksOfLines body? path first lines ++
        tasksOfLines body? path (first + lines.length) more := by
  induction lines generalizing first with
  | nil => simp [tasksOfLines]
  | cons line rest ih =>
    rw [List.cons_append, tasksOfLines, ih, tasksOfLines, List.append_assoc, List.length_cons]
    push_cast
    rw [add_assoc first, add_comm 1]

end

/-! ### Block comments -/

namespace Delimiters

@[simp] theorem lineFeeds_append (a b : Text) : lineFeeds (a ++ b) = lineFeeds a + lineFeeds b :=
  List.count_append

/-- Both delimiters say something, and neither holds a blank. -/
structure Solid (d : Delimiters) : Prop where
  opening_ne_nil : d.opening ≠ []
  closing_ne_nil : d.closing ≠ []
  not_mem_opening : ∀ c, Text.isBlank c → c ∉ d.opening
  not_mem_closing : ∀ c, Text.isBlank c → c ∉ d.closing

theorem Solid.not_both_nil {d : Delimiters} (hd : d.Solid) : ¬(d.opening = [] ∧ d.closing = []) :=
  fun h => hd.opening_ne_nil h.1

theorem solid_of_mem_all {d : Delimiters} (h : d ∈ all) : d.Solid := by
  have hb : ∀ d ∈ all, d.opening.any Text.isBlank = false ∧ d.closing.any Text.isBlank = false := by
    decide
  have hne : ∀ d ∈ all, d.opening ≠ [] ∧ d.closing ≠ [] := by decide
  exact ⟨(hne d h).1, (hne d h).2, fun c hc hm => List.any_eq_false.1 (hb d h).1 c hm hc,
    fun c hc hm => List.any_eq_false.1 (hb d h).2 c hm hc⟩

variable {d : Delimiters} {t before interior rest : Text}

/-- **A text with a block comment**: the first one, and those of the text behind it. -/
theorem regions_eq_cons (hne : ¬(d.opening = [] ∧ d.closing = []))
    (h : d.firstRegion? t = some (before, interior, rest)) (line : Int) :
    d.regions line t = (line + lineFeeds before, interior) ::
      d.regions (line + lineFeeds before + lineFeeds (d.opening ++ interior ++ d.closing)) rest := by
  rw [regions, dif_neg hne]
  split
  · next hr =>
    rw [h] at hr
    cases hr
    rfl
  · next hr =>
    rw [h] at hr
    cases hr

theorem regions_eq_nil (h : d.firstRegion? t = none) (line : Int) : d.regions line t = [] := by
  rw [regions]
  split
  · rfl
  · split
    · next hr =>
      rw [h] at hr
      cases hr
    · rfl

theorem firstRegion?_eq_some_iff : d.firstRegion? t = some (before, interior, rest) ↔
    ∃ inner, Text.breakOn? d.opening t = some (before, inner) ∧
      Text.breakOn? d.closing inner = some (interior, rest) := by
  unfold firstRegion?
  constructor
  · intro h
    split at h
    · next ho =>
      split at h
      · next hc =>
        cases h
        exact ⟨_, ho, hc⟩
      · cases h
    · cases h
  · rintro ⟨inner, ho, hc⟩
    simp only [ho, hc]

theorem length_rest_lt (hne : ¬(d.opening = [] ∧ d.closing = []))
    (h : d.firstRegion? t = some (before, interior, rest)) : rest.length < t.length := by
  have hl := congrArg List.length (eq_of_firstRegion? h)
  have hd : ¬(d.opening.length = 0 ∧ d.closing.length = 0) := by
    simpa only [List.length_eq_zero_iff] using hne
  simp only [List.length_append] at hl
  omega

/-- What holds of a text without a block comment, and of a text if it holds of what stands behind
its first block comment, holds of all texts. -/
@[elab_as_elim]
theorem regionsInduction {motive : Text → Prop} (hne : ¬(d.opening = [] ∧ d.closing = []))
    (none : ∀ t, d.firstRegion? t = none → motive t)
    (some : ∀ t before interior rest, d.firstRegion? t = some (before, interior, rest) →
      motive rest → motive t) (t : Text) : motive t := by
  induction hn : t.length using Nat.strong_induction_on generalizing t with
  | _ n ih =>
    cases h : d.firstRegion? t with
    | none => exact none t h
    | some r =>
      obtain ⟨before, interior, rest⟩ := r
      exact some t before interior rest h (ih _ (hn ▸ length_rest_lt hne h) rest rfl)

/-- No block comment of the text is left open: the closing delimiters are all there, and behind the
last of them nothing opens. -/
inductive Closed (d : Delimiters) : Text → Prop
  | plain {t : Text} (h : Text.breakOn? d.opening t = none) : Closed d t
  | region {t before interior rest : Text}
    (h : d.firstRegion? t = some (before, interior, rest)) (hr : Closed d rest) : Closed d t

/-- What stands in front without a delimiter leaves nothing open. -/
theorem Closed.of_append {a : Text} (hd : d.Solid) (ha : ∀ c ∈ a, c ∉ d.opening)
    (h : d.Closed (a ++ t)) : d.Closed t := by
  have hb := Text.breakOn?_append_left hd.opening_ne_nil ha t
  cases h with
  | plain h =>
    rw [hb] at h
    exact .plain (Option.map_eq_none_iff.1 h)
  | region h hr =>
    obtain ⟨inner, ho, hc⟩ := firstRegion?_eq_some_iff.1 h
    rw [hb] at ho
    obtain ⟨⟨before, inner'⟩, ho', he⟩ := Option.map_eq_some_iff.1 ho
    cases he
    exact .region (firstRegion?_eq_some_iff.2 ⟨_, ho', hc⟩) hr

theorem regions_add (hd : d.Solid) (line n : Int) (t : Text) :
    d.regions (line + n) t = (d.regions line t).map fun x => (x.1 + n, x.2) := by
  induction t using regionsInduction hd.not_both_nil generalizing line with
  | none t h => rw [regions_eq_nil h, regions_eq_nil h]; rfl
  | some t before interior rest h ih =>
    rw [regions_eq_cons hd.not_both_nil h, regions_eq_cons hd.not_both_nil h, List.map_cons, ← ih]
    congr 2 <;> ring

end Delimiters

end CommentTasks
