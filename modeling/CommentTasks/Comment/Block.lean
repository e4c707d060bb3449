import CommentTasks.Comment.Line

/-!
# Block comments

A block comment runs from an opening delimiter to the first closing delimiter behind it; the next
one opens behind that. An opening delimiter without a closing one ends the search. Every line of the
interior is read on its own, without the column of asterisks that may stand before it.
-/

namespace CommentTasks

/-- The two delimiters of a kind of block comment. -/
structure Delimiters where
  opening : Text
  closing : Text
  deriving DecidableEq, Repr

namespace Delimiters

/-- The kinds of block comment that are looked for, in this order. -/
def all : List Delimiters :=
  [⟨"/*".toList, "*/".toList⟩, ⟨"<!--".toList, "-->".toList⟩]

/-- The first block comment of a text: the text before it, its interior, and the text behind it. -/
def firstRegion? (d : Delimiters) (t : Text) : Option (Text × Text × Text) :=
  match Text.breakOn? d.opening t with
  | some (before, rest) =>
    match Text.breakOn? d.closing rest with
    | some (interior, rest) => some (before, interior, rest)
    | none => none
  | none => none

/-- Nothing of the text is lost. -/
theorem eq_of_firstRegion? {d : Delimiters} {t before interior rest : Text}
    (h : d.firstRegion? t = some (before, interior, rest)) :
    t = before ++ d.opening ++ interior ++ d.closing ++ rest := by
  unfold firstRegion? at h
  split at h
  · next hb =>
    split at h
    · next hc =>
      simp only [Option.some.injEq, Prod.mk.injEq] at h
      obtain ⟨rfl, rfl, rfl⟩ := h
      rw [Text.eq_of_breakOn? hb, Text.eq_of_breakOn? hc]
      simp
    · cases h
  · cases h

/-- The number of line feeds in a text. -/
def lineFeeds (t : Text) : Nat := t.count '\n'

/-- The block comments of a text whose first line has the number `line`: for each the line on which
it opens, and its interior. Two empty delimiters enclose nothing. -/
def regions (d : Delimiters) (line : Int) (t : Text) : List (Int × Text) :=
  if h : d.opening = [] ∧ d.closing = [] then []
  else
    match hr : d.firstRegion? t with
    | some (before, interior, rest) =>
      let opens := line + lineFeeds before
      have : rest.length < t.length := by
        have hl := congrArg List.length (eq_of_firstRegion? hr)
        have hd : ¬(d.opening.length = 0 ∧ d.closing.length = 0) := by
          simpa only [List.length_eq_zero_iff] using h
        simp only [List.length_append] at hl
        omega
      (opens, interior) ::
        regions d (opens + lineFeeds (d.opening ++ interior ++ d.closing)) rest
    | none => []
termination_by t.length

end Delimiters

/-- A line of a block comment without its decoration: the blanks at both ends and the asterisks at
its front. A line of decoration alone is left empty. -/
def cleanBlockLine (line : Text) : Text :=
  let line := Text.trim line
  if ["*".toList, "*/".toList, "-->".toList].contains line then []
  else Text.trim (line.dropWhile (· == '*'))

/-- The task in one line of a block comment. -/
def blockLineBody? (ks : Keywords) (d : Delimiters) (line : Text) : Option Body :=
  let line := cleanBlockLine line
  if line = [] ∨ line = d.closing then none else Body.parse? ks line

/-- The tasks in the block comments of one kind in a text. -/
def blockTasks (ks : Keywords) (d : Delimiters) (path content : Text) : List Task :=
  (d.regions 1 content).flatMap fun (line, interior) =>
    tasksOfLines (blockLineBody? ks d) path line (linesOf interior)

/-- The tasks in the comments of a text: those of line comments, then those of block comments, kind
by kind. -/
def tasksIn (ks : Keywords) (path content : Text) : List Task :=
  lineTasks ks path content ++ Delimiters.all.flatMap fun d => blockTasks ks d path content

end CommentTasks
