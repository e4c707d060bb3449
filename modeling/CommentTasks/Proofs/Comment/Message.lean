import CommentTasks.Comment.Body
import CommentTasks.Proofs.Comment.Metadata
import CommentTasks.Proofs.Text.Squeeze
import CommentTasks.Task.Identity

/-!
# The message of a task

The message is what is left of a comment once the annotations are taken out: its words with single
spaces between them, without the debris in front. Messages have a normal form, and the normal form
is what all the steps of cleaning leave as it is (`isNormal_iff`); so a task is called by its
message as it stands.
-/

namespace CommentTasks

namespace Body

variable {message : Text}

/-- The normal form of a message: blanks only as single spaces inside, and no colon or dash in
front. -/
structure IsNormal (message : Text) : Prop where
  spaced : Text.SinglySpaced message
  front : ∀ c ∈ message.head?, c ∉ [':', '-', '\u2013', '\u2014']

theorem isDebris_iff {c : Char} : isDebris c ↔ c ∈ [':', '-', '\u2013', '\u2014'] ∨ Text.isBlank c := by
  simp only [isDebris, isSeparator, Bool.or_eq_true, beq_iff_eq, List.mem_cons, List.not_mem_nil]
  tauto

theorem IsNormal.squeeze_eq (h : IsNormal message) : Text.squeeze message = message :=
  h.spaced.squeeze_eq

theorem IsNormal.trim_eq (h : IsNormal message) : Text.trim message = message :=
  h.spaced.isTrimmed.trim_eq

theorem IsNormal.dropWhile_isDebris (h : IsNormal message) :
    message.dropWhile isDebris = message := by
  cases hm : message with
  | nil => rfl
  | cons c r =>
    have hc : c ∈ message.head? := by rw [hm]; rfl
    refine List.dropWhile_cons_of_neg fun hdebris => ?_
    rcases isDebris_iff.1 hdebris with hmark | hblank
    · exact h.front c hc hmark
    · rw [h.spaced.isTrimmed.head c hc] at hblank
      cases hblank

/-- **Cleaning leads to the normal form.** -/
theorem isNormal_cleanMessage (t : Text) : IsNormal (cleanMessage (Text.squeeze t)) := by
  obtain ⟨ws, hws, hleft⟩ := (Text.areWords_words t).exists_dropWhile_join (p := isDebris) rfl
  have hclean : cleanMessage (Text.squeeze t) = Text.join " " ws := by
    rw [cleanMessage, Text.squeeze_eq_join, hleft, hws.trim_join]
  rw [hclean]
  refine ⟨hws.singlySpaced_join, fun c hc hmark => ?_⟩
  have hdebris : isDebris c = false := by
    rw [← hleft] at hc
    exact Text.eq_false_of_head?_dropWhile hc
  rw [isDebris_iff.2 (.inl hmark)] at hdebris
  cases hdebris

/-- **The normal form is what cleaning leaves as it is.** -/
theorem isNormal_iff : IsNormal message ↔ cleanMessage (Text.squeeze message) = message := by
  constructor
  · intro h
    rw [h.squeeze_eq, cleanMessage, h.dropWhile_isDebris, h.trim_eq]
  · intro h
    rw [← h]
    exact isNormal_cleanMessage message

end Body

/-- A due date and an assignee have no blanks at their ends, and no closing parenthesis. -/
theorem Metadata.isTrimmed_of_extract {t v : Text}
    (h : (extract t).1.due = some v ∨ (extract t).1.assignee = some v) :
    Text.IsTrimmed v ∧ ')' ∉ v := by
  have htrim {k : Kind} {t : Text} (hk : k ≠ .priority) (h : (k.take t).1.map Text.trim = some v) :
      Text.IsTrimmed v ∧ ')' ∉ v := by
    obtain ⟨value, htake, rfl⟩ := Option.map_eq_some_iff.1 h
    obtain ⟨-, -, hclosed⟩ := Kind.value_of_take hk htake
    exact ⟨Text.isTrimmed_trim value, fun hm => hclosed ((Text.trim_infix value).mem hm)⟩
  rw [extract_eq] at h
  rcases h with h | h
  · exact htrim (by decide) h
  · exact htrim (by decide) h

/-- **Messages are in normal form**, so each step of cleaning leaves them as they are, and a task is
called by its message unless that is empty. A due date and an assignee are trimmed and hold no
closing parenthesis. -/
theorem parse?_normal {ks : Keywords} {t : Text} {body : Body} (h : Body.parse? ks t = some body) :
    Body.IsNormal body.message ∧
      Text.squeeze body.message = body.message ∧ Text.trim body.message = body.message ∧
      body.message.dropWhile Body.isDebris = body.message ∧
      Body.cleanMessage (Text.squeeze body.message) = body.message ∧
      (∀ path line, (Task.ofBody path line body).label =
        if body.message = [] then body.keyword else body.message) ∧
      ∀ v, body.metadata.due = some v ∨ body.metadata.assignee = some v →
        Text.IsTrimmed v ∧ ')' ∉ v := by
  obtain ⟨found, rest, -, hbody⟩ := Body.parse?_eq_some_iff.1 h
  have hnormal : Body.IsNormal body.message := by
    simp only [hbody, Metadata.extract_eq]
    exact Body.isNormal_cleanMessage _
  refine ⟨hnormal, hnormal.squeeze_eq, hnormal.trim_eq, hnormal.dropWhile_isDebris,
    Body.isNormal_iff.1 hnormal, fun path line => ?_, fun v hv => ?_⟩
  · simp only [Task.label, Task.ofBody, hnormal.trim_eq]
  · simp only [hbody] at hv
    exact Metadata.isTrimmed_of_extract hv

/-- Separators of all kinds behind the keyword and between the annotations. -/
theorem parse?_normal_separators :
    Body.parse? .usual "todo - \u2014 @assignee(\u3000riku ) :\t\u2013fix\t\u3000-it @due( )".toList =
        some ⟨"TODO".toList, "fix -it".toList, [], some [], some "riku".toList, none⟩ ∧
      Body.IsNormal "fix -it".toList ∧ Text.IsTrimmed "riku".toList ∧
      (Task.ofBody "a.py".toList 1
        ⟨"TODO".toList, "fix -it".toList, [], some [], some "riku".toList, none⟩).label =
          "fix -it".toList := by
  have hparse : Body.parse? .usual
      "todo - \u2014 @assignee(\u3000riku ) :\t\u2013fix\t\u3000-it @due( )".toList =
        some ⟨"TODO".toList, "fix -it".toList, [], some [], some "riku".toList, none⟩ := by
    decide +kernel
  obtain ⟨hnormal, -, -, -, -, hlabel, hvalues⟩ := parse?_normal hparse
  exact ⟨hparse, hnormal, (hvalues _ (.inr rfl)).1, hlabel _ _⟩

end CommentTasks
