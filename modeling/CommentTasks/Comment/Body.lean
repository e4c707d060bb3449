import CommentTasks.Comment.Keyword
import CommentTasks.Comment.Metadata

/-!
# The body of a comment

What a comment says once its comment marks are gone. A body is a task if a keyword stands at its
front; the rest is the message, apart from the annotations.
-/

namespace CommentTasks

/-- A task as a comment states it. -/
structure Body where
  /-- The capital form of the keyword as the comment spells it. -/
  keyword : Text
  /-- What is to be done. -/
  message : Text
  /-- What the annotations say. -/
  metadata : Metadata := {}
  deriving DecidableEq, Repr

namespace Body

/-- The character may stand between a keyword and the message. -/
def isSeparator (c : Char) : Bool := c == ':' || c == '-' || Text.isBlank c

/-- The character may be left at the front of a message once the annotations are gone: a separator
or one of the longer dashes. -/
def isDebris (c : Char) : Bool := isSeparator c || c == '\u2013' || c == '\u2014'

/-- The message in a text without annotations. -/
def cleanMessage (t : Text) : Text := Text.trim (t.dropWhile isDebris)

/-- The task in the body of a comment, if a keyword stands at its front. -/
def parse? (ks : Keywords) (t : Text) : Option Body :=
  match ks.match? t with
  | some (found, rest) =>
    let (metadata, left) := Metadata.extract (rest.dropWhile isSeparator)
    some { keyword := Text.upper found, message := cleanMessage left, metadata := metadata }
  | none => none

/-- No keyword stands at the front of nothing. -/
theorem parse?_nil (ks : Keywords) : parse? ks [] = none := by
  have hm : ks.match? [] = none := by
    refine List.findSome?_eq_none_iff.2 fun k hk => ?_
    obtain ⟨c, k, rfl⟩ := List.exists_cons_of_ne_nil (ks.ne_nil_of_mem k hk)
    rfl
  rw [parse?, hm]

/-- A task is found exactly where a keyword is, and is what the text behind it says. -/
theorem parse?_eq_some_iff {ks : Keywords} {t : Text} {body : Body} : parse? ks t = some body ↔
    ∃ found rest, ks.match? t = some (found, rest) ∧
      body = { keyword := Text.upper found
               message := cleanMessage (Metadata.extract (rest.dropWhile isSeparator)).2
               metadata := (Metadata.extract (rest.dropWhile isSeparator)).1 } := by
  unfold parse?
  constructor
  · intro h
    split at h
    · next found rest hm => exact ⟨found, rest, hm, (Option.some.inj h).symm⟩
    · cases h
  · rintro ⟨found, rest, hm, rfl⟩
    rw [hm]

end Body

end CommentTasks
