import CommentTasks.Proofs.Task.Identity
import CommentTasks.Source.Scan
import Mathlib

/-!
# Tasks of one identity

The text of an identity does not tell where the path ends: a path may go on with the line of another
task and with the front of its message. Two triples have one text exactly if they are the same or if
one reads on into the other in this way (`identityText_eq_iff`), and there are projects with two
such tasks (`NamedLikeATask`).
-/

namespace CommentTasks

variable {path path' message message' more : Text} {line line' : Int}

/-- The second path is the first path with its line behind a colon, and with `more` of the message
up to a colon; what the message has behind is the second line and the second message. -/
def ReadsOn (path : Text) (line : Int) (message path' : Text) (line' : Int) (message' : Text) : Prop :=
  ∃ more, path' = path ++ ':' :: Text.ofInt line ++ more ∧
    ':' :: message = more ++ ':' :: Text.ofInt line' ++ ':' :: message'

theorem ReadsOn.identityText_eq (h : ReadsOn path line message path' line' message') :
    identityText path line message = identityText path' line' message' := by
  obtain ⟨more, rfl, hm⟩ := h
  simp only [identityText, List.append_assoc, List.cons_append] at hm ⊢
  rw [hm]

/-- A path reads on if it is another path with something behind it and the texts are the same. -/
theorem eq_or_readsOn (h : identityText path line message = identityText (path ++ more) line' message') :
    (more = [] ∧ line = line' ∧ message = message') ∨
      ReadsOn path line message (path ++ more) line' message' := by
  have hline := Text.colon_not_mem_ofInt line
  simp only [identityText, List.append_assoc, List.append_cancel_left_eq, List.cons_append] at h
  cases more with
  | nil =>
    obtain ⟨hl, hm⟩ := append_colon_inj hline (Text.colon_not_mem_ofInt line') (List.cons.inj h).2
    exact .inl ⟨rfl, Text.ofInt_injective hl, hm⟩
  | cons c more =>
    obtain ⟨rfl, hrest⟩ := List.cons.inj h
    right
    -- the line has no colon, so the second path goes on at least to the end of it
    rcases List.append_eq_append_iff.1 hrest with ⟨rest, rfl, hm⟩ | ⟨rest, hl, hm⟩
    · exact ⟨rest, by simp, by simpa using hm⟩
    · cases rest with
      | nil =>
        rw [List.append_nil] at hl
        exact ⟨[], by simp [hl], by simpa using hm.symm⟩
      | cons d rest =>
        obtain ⟨rfl, -⟩ := List.cons.inj hm
        exact absurd (hl ▸ List.mem_append_right _ List.mem_cons_self) hline

/-- **Two triples have the text of one identity exactly if they are the same or one reads on into
the other.** -/
theorem identityText_eq_iff :
    identityText path line message = identityText path' line' message' ↔
      (path = path' ∧ line = line' ∧ message = message') ∨
        ReadsOn path line message path' line' message' ∨
        ReadsOn path' line' message' path line message := by
  constructor
  · intro h
    have hpaths := h
    simp only [identityText, List.append_assoc] at hpaths
    rcases List.append_eq_append_iff.1 hpaths with ⟨more, rfl, -⟩ | ⟨more, rfl, -⟩
    · rcases eq_or_readsOn h with ⟨rfl, rfl, rfl⟩ | hr
      · exact .inl ⟨(List.append_nil _).symm, rfl, rfl⟩
      · exact .inr (.inl hr)
    · rcases eq_or_readsOn h.symm with ⟨rfl, rfl, rfl⟩ | hr
      · exact .inl ⟨List.append_nil _, rfl, rfl⟩
      · exact .inr (.inr hr)
  · rintro (⟨rfl, rfl, rfl⟩ | h | h)
    · rfl
    · exact h.identityText_eq
    · exact h.identityText_eq.symm

/-! ### A file that is named like a task -/

namespace NamedLikeATask

set_option maxRecDepth 100000

/-- A project with two files, of which one has the path, the line and the front of the message of
the task in the other as its name. -/
def tree : FileTree :=
  ⟨[(["p".toList], .directory),
    (["p".toList, "a.c".toList], .file (Utf8.encode "/* TODO 2.c:3:x */\n".toList)),
    (["p".toList, "a.c:1:2.c".toList], .file (Utf8.encode "\n\n/* TODO x */\n".toList))],
    [], {}, by decide⟩

def project : PathName := .absolute ["p".toList]

def first : Task := ⟨⟨"TODO".toList, "2.c:3:x".toList, {}⟩, "a.c".toList, 1⟩

def second : Task := ⟨⟨"TODO".toList, "x".toList, {}⟩, "a.c:1:2.c".toList, 3⟩

theorem tasksOfFile_first :
    tree.tasksOfFile .usual project (project.child "a.c".toList) = [first] := by
  have hb : tree.readBytes (project.child "a.c".toList).toText =
      .ok (Utf8.encode "/* TODO 2.c:3:x */\n".toList) := by cbv
  have hc : decodeSource (Utf8.encode "/* TODO 2.c:3:x */\n".toList) =
      some "/* TODO 2.c:3:x */\n".toList := by decide +kernel
  have hs : shownPath project (project.child "a.c".toList) = "a.c".toList := by decide
  have ht : tasksIn .usual "a.c".toList "/* TODO 2.c:3:x */\n".toList = [first] := by
    decide +kernel
  exact FileTree.tasksOfFile_eq hb hc hs ht

theorem tasksOfFile_second :
    tree.tasksOfFile .usual project (project.child "a.c:1:2.c".toList) = [second] := by
  have hb : tree.readBytes (project.child "a.c:1:2.c".toList).toText =
      .ok (Utf8.encode "\n\n/* TODO x */\n".toList) := by cbv
  have hc : decodeSource (Utf8.encode "\n\n/* TODO x */\n".toList) =
      some "\n\n/* TODO x */\n".toList := by decide +kernel
  have hs : shownPath project (project.child "a.c:1:2.c".toList) = "a.c:1:2.c".toList := by decide
  have ht : tasksIn .usual "a.c:1:2.c".toList "\n\n/* TODO x */\n".toList = [second] := by
    decide +kernel
  exact FileTree.tasksOfFile_eq hb hc hs ht

theorem tasksOfProject : tree.tasksOfProject .usual ["c".toList] project = .ok [first, second] := by
  have hp : tree.isFile project.toText = .ok false := by cbv
  have hf : tree.walk ["c".toList] project =
      .ok [project.child "a.c".toList, project.child "a.c:1:2.c".toList] := by cbv
  rw [FileTree.tasksOfProject, hp]
  simp only [hf, bind, Except.bind, pure, Except.pure, Bool.false_eq_true, if_false,
    List.flatMap_cons, List.flatMap_nil, tasksOfFile_first, tasksOfFile_second]
  rfl

end NamedLikeATask

/-- The two tasks of the project differ in the file, the line and the message, and have one
identity. -/
theorem identity_of_two_tasks :
    NamedLikeATask.tree.tasksOfProject .usual ["c".toList] NamedLikeATask.project =
        .ok [NamedLikeATask.first, NamedLikeATask.second] ∧
      NamedLikeATask.first.identity = NamedLikeATask.second.identity ∧
      NamedLikeATask.first.digest = NamedLikeATask.second.digest ∧
      NamedLikeATask.first.path ≠ NamedLikeATask.second.path ∧
      NamedLikeATask.first.line ≠ NamedLikeATask.second.line ∧
      NamedLikeATask.first.label ≠ NamedLikeATask.second.label := by
  have hi : NamedLikeATask.first.identity = NamedLikeATask.second.identity := by decide +kernel
  refine ⟨NamedLikeATask.tasksOfProject, hi, ?_, by decide, by decide, by decide⟩
  exact congrArg (fun t => (Sha1.hexDigest (Utf8.encode t)).take digestLength) hi

end CommentTasks
