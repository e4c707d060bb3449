import CommentTasks.Text.Blank
import CommentTasks.Text.Case
import CommentTasks.Text.Word

/-!
# Keywords

The keywords that make a comment a task. A keyword is found only at the front of a text, in any
letter case, and only where a word ends behind it; of several keywords the first of the list that
fits counts.
-/

namespace CommentTasks

/-- A list of keywords that can be looked for: there is at least one, and none is empty. -/
structure Keywords where
  /-- The keywords in the order in which they are tried. -/
  words : List Text
  words_ne_nil : words ≠ []
  ne_nil_of_mem : ∀ k ∈ words, k ≠ []

namespace Keywords

/-- The keywords among the texts of a list: what is left of each text without the blanks at its
ends, unless nothing is left. -/
def usable (ts : List Text) : List Text := (ts.map Text.trim).filter (· ≠ [])

/-- The keywords of a list of texts, if there are any. -/
def ofTexts? (ts : List Text) : Option Keywords :=
  if h : usable ts = [] then none
  else some ⟨usable ts, h, fun k hk => by simpa using (List.mem_filter.1 hk).2⟩

@[simp] theorem ofTexts?_eq_none {ts : List Text} : ofTexts? ts = none ↔ usable ts = [] := by
  unfold ofTexts?
  split <;> simp_all

theorem words_of_ofTexts? {ts : List Text} {ks : Keywords} (h : ofTexts? ts = some ks) :
    ks.words = usable ts := by
  unfold ofTexts? at h
  split at h
  · cases h
  · cases h
    rfl

/-- The keywords that are looked for when none are given. -/
def standard : List Text := ["TODO".toList, "FIXME".toList, "NOTE".toList]

/-- The standard keywords as keywords that can be looked for. -/
def usual : Keywords := ⟨standard, by decide, by decide⟩

@[simp] theorem ofTexts?_standard : ofTexts? standard = some usual := rfl

/-- Match one keyword at the front of a text: the part of the text that matches, and the rest. -/
def matchOne? (k t : Text) : Option (Text × Text) :=
  match Text.matchLetters? k t with
  | some (found, rest) => if Text.isWordBoundary found rest then some (found, rest) else none
  | none => none

/-- The first keyword that fits at the front of a text: the part of the text that matches, and the
rest. -/
def match? (ks : Keywords) (t : Text) : Option (Text × Text) :=
  ks.words.findSome? fun k => matchOne? k t

end Keywords

end CommentTasks
