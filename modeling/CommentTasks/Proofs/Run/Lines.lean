import CommentTasks.Proofs.Note.Lines
import CommentTasks.Proofs.Run.Again
import CommentTasks.Proofs.Run.Import
import CommentTasks.Proofs.Task.Summary

/-!
# The lines that a run adds to a note

A run adds a heading and two lines for every task, with empty lines between them. The first line of
a task is cleaned as a whole, so whatever a comment says, it stays one line that shows the task. The
path in the second line is written as it is: a file whose name has a line feed breaks it.
-/

namespace CommentTasks

open Delimiters (lineFeeds)

namespace Run

variable {t : FileTree} {clock : Clock} {r : Request} {p : Plan}

theorem exists_mem_tasksIn_of_plan (hp : plan t clock r = .ok p) {n : News} (hn : n ∈ p.news) :
    ∃ ks path content, n.task ∈ tasksIn ks path content := by
  obtain ⟨-, -, -, -, -, found, hf, -⟩ := plan_eq_ok_iff.1 hp
  have hfound : n.task ∈ found := by
    refine (News.unknownTasks_sublist p.ledger.digests found).mem ?_
    rw [← news_of_plan hp hf]
    exact List.mem_map_of_mem hn
  unfold scanned tasks at hf
  obtain ⟨project, -, hf⟩ := bind_eq_ok_iff.1 hf
  obtain ⟨texts, -, hf⟩ := bind_eq_ok_iff.1 hf
  split at hf
  · next ks _ =>
    obtain ⟨-, -, file, -, -, content, -, -, hm⟩ :=
      (FileTree.mem_of_tasksOfProject (mapError_eq_ok_iff.1 hf)).1 hfound
    exact ⟨ks, _, content, hm⟩
  · split at hf
    · cases hf
    · obtain ⟨_, -, rfl⟩ := map_eq_ok_iff.1 hf
      cases hfound

end Run

/-- **The lines of the section that a run adds** are the heading, an empty line, and for every new
task in order its first line, which shows it, the lines of its second one, which ends with the
digest, and an empty line. The second line is as many lines more as the path has line feeds, so it
is one line, and the section has three line feeds for every task and one more, exactly if no path
has a line feed. -/
theorem linesOf_section {t : FileTree} {clock : Clock} {r : Request} {p : Run.Plan}
    (hp : Run.plan t clock r = .ok p) :
    linesOf p.sectionText = [headingText p.stamp, []] ++ p.news.flatMap (fun n =>
      n.task.summaryLine :: linesOf (n.task.locationLine n.task.digest) ++ [[]]) ∧
    (∀ n ∈ p.news, ShowsTask n.task.summaryLine ∧
      ∃ place, n.task.locationLine n.task.digest =
        place ++ "[hash:".toList ++ n.task.digest ++ "]".toList) ∧
    lineFeeds p.sectionText =
      3 * p.news.length + 1 + (p.news.map fun n => lineFeeds n.task.path).sum ∧
    (linesOf p.sectionText = News.sectionLines p.stamp p.news ↔ ∀ n ∈ p.news, '\n' ∉ n.task.path) ∧
    (lineFeeds p.sectionText = 3 * p.news.length + 1 ↔ ∀ n ∈ p.news, '\n' ∉ n.task.path) := by
  have hs := Run.newline_not_mem_stamp_of_plan hp
  refine ⟨Note.linesOf_sectionText_eq hs, fun n hn => ⟨?_, ?_⟩, Note.lineFeeds_sectionText hs,
    Note.linesOf_sectionText_eq_iff hs, Note.lineFeeds_sectionText_eq_iff hs⟩
  · obtain ⟨ks, path, content, hm⟩ := Run.exists_mem_tasksIn_of_plan hp hn
    exact showsTask_of_mem_tasksIn hm
  · have hmark : "  [hash:".toList = "  ".toList ++ "[hash:".toList := by decide
    refine ⟨n.task.path ++ ':' :: Text.ofInt n.task.line ++ "  ".toList, ?_⟩
    rw [Task.locationLine, hmark, ← List.append_assoc]

/-! ### A file whose name has a line feed -/

namespace BrokenName

set_option maxRecDepth 100000

def source : Text := "// TODO x\n".toList

def sourcePath : PathName := .absolute ["w".toList, "p".toList, "a\nb.c".toList]

/-- A project with one file. -/
def tree : FileTree :=
  ⟨[(["w".toList], .directory), (["w".toList, "p".toList], .directory),
    (["w".toList, "p".toList, "a\nb.c".toList], .file (Utf8.encode source))], ["w".toList], {},
    by decide⟩

def task : Task := ⟨⟨"TODO".toList, "x".toList, {}⟩, "a\nb.c".toList, 1⟩

/-- The plan of the run. -/
def plan : Run.Plan := TwoProjects.plan .empty [⟨task, TwoProjects.stamp⟩]

theorem scanned_tree : Run.scanned tree (TwoProjects.request "p") = .ok [task] := by
  have hd : Run.directory tree (TwoProjects.request "p").project =
      .ok (TwoProjects.projectPath "p") := by cbv
  have hp : tree.isFile (TwoProjects.projectPath "p").toText = .ok false := by cbv
  have hf : tree.walk (Settings.extensionTexts (TwoProjects.request "p").settings.extensions)
      (TwoProjects.projectPath "p") = .ok [sourcePath] := by cbv
  have hb : tree.readBytes sourcePath.toText = .ok (Utf8.encode source) := by cbv
  have hc : decodeSource (Utf8.encode source) = some source := by decide +kernel
  have hk : Keywords.ofTexts? Keywords.standard = some .usual := rfl
  have ht : tasksIn .usual "a\nb.c".toList source = [task] := by decide +kernel
  have hs : shownPath (TwoProjects.projectPath "p") sourcePath = "a\nb.c".toList := by decide
  exact Run.scanned_of_single_file hd (Run.keywords_standard rfl rfl) hk hp hf hb hc hs ht

theorem plan_tree : Run.plan tree TwoProjects.clock (TwoProjects.request "p") = .ok plan := by
  have hn : Run.notePath tree (TwoProjects.request "p") = .ok plan.note := by cbv
  have hl : Run.ledgerPath tree (TwoProjects.request "p") = .ok plan.ledgerPath := by cbv
  have hr : tree.readDocument plan.ledgerPath = .ok [] := by cbv
  have hload : Ledger.load tree plan.ledgerPath = .ok .empty :=
    Ledger.load_eq_ok_iff.2 ⟨[], hr, rfl⟩
  have hc : Run.stamp TwoProjects.clock 0 = .ok TwoProjects.stamp := by decide +kernel
  have hnews : Run.news TwoProjects.clock .empty [task] = .ok [⟨task, TwoProjects.stamp⟩] := by
    decide +kernel
  exact Run.plan_eq_ok_iff.2 ⟨rfl, hn, hl, hload, hc, _, scanned_tree, hnews⟩

end BrokenName

/-- The section with this file has a line more than were put into it. -/
theorem linesOf_section_broken_name :
    ∃ p, Run.plan BrokenName.tree TwoProjects.clock (TwoProjects.request "p") = .ok p ∧
      p.news.length = 1 ∧ lineFeeds p.sectionText = 5 ∧
      linesOf p.sectionText ≠ News.sectionLines p.stamp p.news := by
  obtain ⟨-, -, hfeeds, hlines, -⟩ := linesOf_section BrokenName.plan_tree
  refine ⟨_, BrokenName.plan_tree, rfl, hfeeds.trans (by decide), fun h => ?_⟩
  exact absurd (hlines.1 h _ (List.mem_singleton_self _)) (by decide)

end CommentTasks
