import CommentTasks.Proofs.Comment.Regions
import CommentTasks.Proofs.Text.LineEnds
import CommentTasks.Proofs.Text.Occurrence
import CommentTasks.Proofs.Text.Words

/-!
# Block comments from left to right

`Greedy` says by indices alone where the block comments of a text stand: each opens at the first
opening delimiter behind the one before, and closes at the first closing delimiter behind that.
Every text has exactly one such list of spans, and the tasks in its block comments are those that
the lines between the delimiters state, line by line.
-/

namespace CommentTasks

open Text (OccursAt FirstAt)

/-- Where a block comment stands in a text: the index of its opening delimiter, and that of its
closing one. -/
structure Span where
  opens : Nat
  closes : Nat
  deriving DecidableEq, Repr

namespace Delimiters

/-- The index behind the opening delimiter. -/
def inner (d : Delimiters) (s : Span) : Nat := s.opens + d.opening.length

/-- The index behind the closing delimiter. -/
def stop (d : Delimiters) (s : Span) : Nat := s.closes + d.closing.length

/-- The text between the delimiters. -/
def interior (d : Delimiters) (t : Text) (s : Span) : Text :=
  (t.drop (d.inner s)).take (s.closes - d.inner s)

/-- The number of the line on which an index of a text stands. -/
def lineAt (t : Text) (i : Nat) : Int := 1 + lineFeeds (t.take i)

/-- The block comments of a text from an index on. The list ends where nothing opens any more, or
where what opens is not closed. -/
inductive Greedy (d : Delimiters) (t : Text) : Nat → List Span → Prop
  | noOpening {start : Nat} (h : ∀ i, start ≤ i → ¬OccursAt d.opening t i) : Greedy d t start []
  | notClosed {start i : Nat} (ho : FirstAt d.opening t start i)
    (hc : ∀ j, i + d.opening.length ≤ j → ¬OccursAt d.closing t j) : Greedy d t start []
  | region {start : Nat} {s : Span} {rest : List Span} (ho : FirstAt d.opening t start s.opens)
    (hc : FirstAt d.closing t (d.inner s) s.closes) (hr : Greedy d t (d.stop s) rest) :
    Greedy d t start (s :: rest)

namespace Greedy

variable {d : Delimiters} {t : Text} {start : Nat} {spans spans' : List Span} {s s' : Span}

/-- There is one list of block comments. -/
theorem unique (h : d.Greedy t start spans) (h' : d.Greedy t start spans') : spans = spans' := by
  induction h generalizing spans' with
  | noOpening h =>
    cases h' with
    | noOpening => rfl
    | notClosed => rfl
    | region ho => exact absurd ho.occurs (h _ ho.le)
  | @notClosed start i ho hc =>
    cases h' with
    | noOpening => rfl
    | notClosed => rfl
    | @region _ s _ ho' hc' =>
      have hi := ho.unique ho'
      subst hi
      exact absurd hc'.occurs (hc _ hc'.le)
  | @region start s rest ho hc _ ih =>
    obtain ⟨opens, closes⟩ := s
    cases h' with
    | noOpening h => exact absurd ho.occurs (h _ ho.le)
    | notClosed ho' hc' =>
      have hi := ho.unique ho'
      subst hi
      exact absurd hc.occurs (hc' _ hc.le)
    | @region _ s' _ ho' hc' hr' =>
      obtain ⟨opens', closes'⟩ := s'
      obtain rfl : opens = opens' := ho.unique ho'
      obtain rfl : closes = closes' := hc.unique hc'
      rw [ih hr']

theorem le_opens (h : d.Greedy t start spans) (hs : s ∈ spans) : start ≤ s.opens := by
  induction h with
  | noOpening => cases hs
  | notClosed => cases hs
  | @region start s₀ rest ho hc _ ih =>
    rcases List.mem_cons.1 hs with rfl | hs
    · exact ho.le
    · have hi : d.stop s₀ ≤ s.opens := ih hs
      have hl := hc.le
      have hb := ho.le
      unfold stop at hi
      unfold inner at hl
      omega

theorem firstAt_closes (h : d.Greedy t start spans) (hs : s ∈ spans) :
    FirstAt d.closing t (d.inner s) s.closes := by
  induction h with
  | noOpening => cases hs
  | notClosed => cases hs
  | region _ hc _ ih =>
    rcases List.mem_cons.1 hs with rfl | hs
    · exact hc
    · exact ih hs

/-- Block comments follow one another. -/
theorem pairwise (h : d.Greedy t start spans) :
    spans.Pairwise fun s s' => d.stop s ≤ s'.opens := by
  induction h with
  | noOpening => exact .nil
  | notClosed => exact .nil
  | region _ _ hr ih => exact .cons (fun s' hs => hr.le_opens hs) ih

/-- What opens behind the beginning of a block comment opens behind its end. -/
theorem stop_le_opens (h : d.Greedy t start spans) (hs : s ∈ spans) (hs' : s' ∈ spans)
    (hlt : s.opens < s'.opens) : d.stop s ≤ s'.opens := by
  induction h with
  | noOpening => cases hs
  | notClosed => cases hs
  | @region start s₀ rest _ hc hr ih =>
    rcases List.mem_cons.1 hs with rfl | hm
    · rcases List.mem_cons.1 hs' with rfl | hm'
      · omega
      · exact hr.le_opens hm'
    · rcases List.mem_cons.1 hs' with rfl | hm'
      · -- the first block comment opens before the others
        have hb := hr.le_opens hm
        have hl := hc.le
        unfold stop at hb
        unfold inner at hl
        omega
      · exact ih hm hm'

/-- No block comment opens where one is left open, or behind. -/
theorem opens_lt_of_not_closed (h : d.Greedy t start spans) (hs : s ∈ spans) {i : Nat}
    (hi : ∀ j, i + d.opening.length ≤ j → ¬OccursAt d.closing t j) : s.opens < i := by
  have hc := h.firstAt_closes hs
  by_contra hle
  refine hi s.closes ?_ hc.occurs
  have hl := hc.le
  unfold inner at hl
  omega

end Greedy

variable {d : Delimiters}

/-- The closing delimiter does not stand between the delimiters. -/
theorem not_infix_interior {t : Text} {s : Span} (h : FirstAt d.closing t (d.inner s) s.closes)
    (hne : d.closing ≠ []) : ¬d.closing <:+: d.interior t s := by
  rintro ⟨x, y, hxy⟩
  have hclosing := List.length_pos_iff.2 hne
  have hlen := congrArg List.length hxy
  simp only [interior, List.length_append, List.length_take, List.length_drop] at hlen
  -- an occurrence between the delimiters would be an earlier one
  have ho : OccursAt d.closing t (d.inner s + x.length) := by
    have ht : t = t.take (d.inner s) ++ x ++ d.closing ++ (y ++ (t.drop (d.inner s)).drop
        (s.closes - d.inner s)) := by
      have hi := List.take_append_drop (s.closes - d.inner s) (t.drop (d.inner s))
      rw [interior] at hxy
      rw [← hxy] at hi
      conv_lhs => rw [← List.take_append_drop (d.inner s) t, ← hi]
      simp only [List.append_assoc]
    have h := Text.occursAt_of_eq ht
    rw [List.length_append, List.length_take_of_le (by have := h.1; omega)] at h
    exact h
  have hf := h.first _ (Nat.le_add_right _ _) ho
  omega

/-- **Every text has its list of block comments**, and it is the one that is read. -/
theorem exists_greedy (hne : ¬(d.opening = [] ∧ d.closing = [])) (t a : Text) :
    ∃ spans, d.Greedy (a ++ t) a.length spans ∧
      d.regions (1 + lineFeeds a) t =
        spans.map fun s => (lineAt (a ++ t) s.opens, d.interior (a ++ t) s) := by
  induction t using regionsInduction hne generalizing a with
  | none t h =>
    refine ⟨[], ?_, regions_eq_nil h _⟩
    unfold firstRegion? at h
    split at h
    · next before inner ho =>
      split at h
      · cases h
      · next hc =>
        refine .notClosed (Text.firstAt_of_breakOn? a ho) fun j hj => ?_
        rw [Text.eq_of_breakOn? ho, ← List.append_assoc]
        refine Text.not_occursAt_of_breakOn? _ hc ?_
        simpa [Nat.add_assoc] using hj
    · next ho => exact .noOpening fun i hi => Text.not_occursAt_of_breakOn? a ho hi
  | some t before interior rest h ih =>
    obtain ⟨behind, ho, hc⟩ := firstRegion?_eq_some_iff.1 h
    obtain ⟨spans, hs, hr⟩ := ih (a ++ before ++ d.opening ++ interior ++ d.closing)
    have htext : a ++ before ++ d.opening ++ interior ++ d.closing ++ rest = a ++ t := by
      rw [eq_of_firstRegion? h]
      simp only [List.append_assoc]
    have hinner : a ++ before ++ d.opening ++ behind = a ++ t := by
      rw [Text.eq_of_breakOn? ho]
      simp only [List.append_assoc]
    rw [htext] at hs hr
    let s : Span := ⟨(a ++ before).length, (a ++ before ++ d.opening ++ interior).length⟩
    have hopens : FirstAt d.opening (a ++ t) a.length s.opens := by
      have hf := Text.firstAt_of_breakOn? a ho
      rwa [← List.length_append] at hf
    have hcloses : FirstAt d.closing (a ++ t) (d.inner s) s.closes := by
      have hf := Text.firstAt_of_breakOn? (a ++ before ++ d.opening) hc
      rwa [hinner, ← List.length_append, List.length_append] at hf
    have hline : lineAt (a ++ t) s.opens = 1 + lineFeeds a + lineFeeds before := by
      have htake : (a ++ t).take s.opens = a ++ before := by
        rw [← hinner, List.append_assoc]
        exact List.take_left
      rw [lineAt, htake, lineFeeds_append]
      push_cast
      ring
    have hinterior : d.interior (a ++ t) s = interior := by
      have hi : d.inner s = (a ++ before ++ d.opening).length := List.length_append.symm
      have hc' : s.closes = (a ++ before ++ d.opening).length + interior.length := List.length_append
      rw [Delimiters.interior, hi, hc', Nat.add_sub_cancel_left, ← hinner, List.drop_left,
        Text.eq_of_breakOn? hc, List.append_assoc]
      exact List.take_left
    refine ⟨s :: spans, .region hopens hcloses ?_, ?_⟩
    · rwa [List.length_append] at hs
    · rw [regions_eq_cons hne h, List.map_cons, hline, hinterior, ← hr]
      simp only [lineFeeds_append]
      push_cast
      congr 2
      ring

end Delimiters

/-! ### What the lines between the delimiters state -/

/-- The tasks of numbered lines, line by line. -/
theorem tasksOfLines_eq_filterMap (body? : Text → Option Body) (path : Text) (first : Int) (n : Nat)
    (lines : List Text) :
    tasksOfLines body? path (first + n) lines =
      (lines.zipIdx n).filterMap fun x => (body? x.1).map (Task.ofBody path (first + x.2)) := by
  induction lines generalizing n with
  | nil => rfl
  | cons line rest ih =>
    have ih := ih (n + 1)
    push_cast at ih
    rw [tasksOfLines, List.zipIdx_cons, List.filterMap_cons, add_assoc, ih]
    cases body? line <;> rfl

theorem cleanBlockLine_infix (line : Text) : cleanBlockLine line <:+: line := by
  unfold cleanBlockLine
  simp only
  split
  · exact List.nil_infix
  · exact (Text.trim_infix _).trans
      ((List.dropWhile_suffix _).isInfix.trans (Text.trim_infix line))

/-- A line that does not hold the closing delimiter is read as what is left of it. -/
theorem blockLineBody?_eq_parse? (ks : Keywords) {d : Delimiters} {line : Text}
    (h : d.closing ≠ [] → ¬d.closing <:+: line) :
    blockLineBody? ks d line = Body.parse? ks (cleanBlockLine line) := by
  unfold blockLineBody?
  simp only
  split
  · next hc =>
    have hnil : cleanBlockLine line = [] := by
      rcases hc with hc | hc
      · exact hc
      · by_contra hne
        rw [hc] at hne
        exact h hne (hc ▸ cleanBlockLine_infix line)
    rw [hnil, Body.parse?_nil]
  · rfl

theorem infix_of_mem_linesOf {line t : Text} (h : line ∈ linesOf t) : line <:+: t := by
  induction t using linesInduction with
  | last l hl =>
    rw [linesOf_of_not_mem hl, List.mem_singleton] at h
    rw [h]
  | cons l t hl ih =>
    rw [linesOf_cons_line hl] at h
    rcases List.mem_cons.1 h with rfl | h
    · exact (List.prefix_append _ _).isInfix
    · exact (ih h).trans ((List.suffix_cons '\n' t).trans (List.suffix_append l _)).isInfix

/-- **Block comments are read from left to right.** A text has one list of block comments of a kind:
each opens at the first opening delimiter behind the one before and closes at the first closing
delimiter behind that, up to where nothing opens or what opens is not closed. They follow one
another, none holds its closing delimiter inside, none opens inside another or behind one that is
left open; and their tasks are those that their lines state. -/
theorem blockTasks_from_left (ks : Keywords) {d : Delimiters}
    (hd : ¬(d.opening = [] ∧ d.closing = [])) (path content : Text) :
    ∃ spans, d.Greedy content 0 spans ∧ (∀ spans', d.Greedy content 0 spans' → spans' = spans) ∧
      d.regions 1 content =
        spans.map (fun s => (Delimiters.lineAt content s.opens, d.interior content s)) ∧
      spans.Pairwise (fun s s' => d.stop s ≤ s'.opens) ∧
      (∀ s ∈ spans, ∀ s' ∈ spans, s.opens < s'.opens → d.stop s ≤ s'.opens) ∧
      (∀ s ∈ spans, d.closing ≠ [] → ¬d.closing <:+: d.interior content s) ∧
      (∀ i, (∀ j, i + d.opening.length ≤ j → ¬OccursAt d.closing content j) →
        ∀ s ∈ spans, s.opens < i) ∧
      blockTasks ks d path content = spans.flatMap fun s =>
        (linesOf (d.interior content s)).zipIdx.filterMap fun x =>
          (Body.parse? ks (cleanBlockLine x.1)).map
            (Task.ofBody path (Delimiters.lineAt content s.opens + x.2)) := by
  obtain ⟨spans, hg, hr⟩ := Delimiters.exists_greedy hd content []
  have hinterior : ∀ s ∈ spans, d.closing ≠ [] → ¬d.closing <:+: d.interior content s :=
    fun s hs hne => Delimiters.not_infix_interior (hg.firstAt_closes hs) hne
  refine ⟨spans, hg, fun spans' h => h.unique hg, hr, hg.pairwise,
    fun s hs s' hs' => hg.stop_le_opens hs hs', hinterior,
    fun i hi s hs => hg.opens_lt_of_not_closed hs hi, ?_⟩
  have hr : d.regions 1 content =
      spans.map fun s => (Delimiters.lineAt content s.opens, d.interior content s) := hr
  rw [blockTasks, hr, List.flatMap_map]
  refine List.flatMap_congr fun s hs => ?_
  have hl := tasksOfLines_eq_filterMap (blockLineBody? ks d) path (Delimiters.lineAt content s.opens) 0
    (linesOf (d.interior content s))
  rw [Nat.cast_zero, add_zero] at hl
  refine hl.trans (List.filterMap_congr fun x hx => ?_)
  have hline := infix_of_mem_linesOf (List.fst_mem_of_mem_zipIdx hx)
  rw [blockLineBody?_eq_parse? ks fun hne h => hinterior s hs hne (h.trans hline)]

namespace NestedOpenings

/-- An opening delimiter that shares its asterisk with what looks like a closing one, one inside a
block comment, and one that is left open. -/
def text : Text := "/*/ TODO a */ /* TODO b /* c */\n/*\n * FIXME d\n */ /* NOTE e".toList

def delimiters : Delimiters := ⟨"/*".toList, "*/".toList⟩

end NestedOpenings

theorem blockTasks_from_left_nested_openings :
    ¬(NestedOpenings.delimiters.opening = [] ∧ NestedOpenings.delimiters.closing = []) ∧
      ∃ spans, NestedOpenings.delimiters.Greedy NestedOpenings.text 0 spans ∧
        spans.map (fun s => (Delimiters.lineAt NestedOpenings.text s.opens,
            NestedOpenings.delimiters.interior NestedOpenings.text s)) =
          [(1, "/ TODO a ".toList), (1, " TODO b /* c ".toList), (2, "\n * FIXME d\n ".toList)] ∧
        blockTasks .usual NestedOpenings.delimiters "a.c".toList NestedOpenings.text =
          [⟨⟨"TODO".toList, "b /* c".toList, {}⟩, "a.c".toList, 1⟩,
            ⟨⟨"FIXME".toList, "d".toList, {}⟩, "a.c".toList, 3⟩] := by
  have hd : ¬(NestedOpenings.delimiters.opening = [] ∧ NestedOpenings.delimiters.closing = []) := by
    decide
  have hr : NestedOpenings.delimiters.regions 1 NestedOpenings.text =
      [(1, "/ TODO a ".toList), (1, " TODO b /* c ".toList), (2, "\n * FIXME d\n ".toList)] := by
    decide +kernel
  obtain ⟨spans, hg, -, hs, -⟩ :=
    blockTasks_from_left .usual hd "a.c".toList NestedOpenings.text
  exact ⟨hd, spans, hg, hs.symm.trans hr, by decide +kernel⟩

end CommentTasks
