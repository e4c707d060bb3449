import CommentTasks.Proofs.Note.Section
import CommentTasks.Proofs.Run.Import

/-!
# What a run does to the note

A run adds its section behind the text of the note, whose blanks at the end go. The text was read as
lines, so what stands in the file afterwards begins with what stood there only if the text holds no
carriage return up to the blanks at its end.
-/

namespace CommentTasks

section

variable {t t' : FileTree} {clock : Clock} {r : Request} {p : Run.Plan} {report : Report}

/-- A note that is not blank keeps its lines, and the section follows one empty line below. -/
theorem Run.Plan.merge_unifyLineEnds (p : Run.Plan) {text : Text} (ht : Text.trimRight text ≠ []) :
    Note.merge (Utf8.unifyLineEnds text) p.sectionText =
      Utf8.unifyLineEnds (Text.trimRight text) ++ "\n\n".toList ++ p.sectionText := by
  have he : Text.trimRight (Utf8.unifyLineEnds text) ≠ [] := by
    rw [Text.trimRight_unifyLineEnds]
    exact fun h => ht (Utf8.unifyLineEnds_eq_nil_iff.1 h)
  have hm : headingText p.stamp ∈ News.sectionLines p.stamp p.news := List.mem_cons_self
  rw [sectionText, Note.merge_sectionText he hm (List.cons_ne_nil _ _), Text.trimRight_unifyLineEnds]

/-- The file that was the note before a run with news is the note afterwards: the old lines merged
with the section, unless the ledger was written to the same file. -/
theorem Run.Plan.locate_note_of_carryOut {l : Location} {bytes : Bytes} {text : Text}
    (hn : p.news ≠ []) (hc : p.carryOut t = (t', .ok ()))
    (hb : t.locate p.note.toText = .ok (.taken l (.file bytes)))
    (hd : Utf8.decode bytes = .ok text) :
    ∃ l', t'.locate p.ledgerPath.toText =
        .ok (.taken l' (.file (Utf8.encode p.newLedger.toText))) ∧
      t'.locate p.note.toText = .ok (.taken l (.file (if l = l' then
        Utf8.encode p.newLedger.toText
      else
        Utf8.encode (Note.merge (Utf8.unifyLineEnds text) p.sectionText)))) := by
  obtain ⟨existing, u, l₁, ⟨he, -, hw⟩, hsaved⟩ := Run.Plan.carryOut_eq_ok hn hc
  obtain ⟨-, l₂, hw'⟩ := Ledger.wrote_of_save hsaved
  cases he.symm.trans
    (FileTree.readDocument_of_locate hb (FileTree.readable_of_readDocument he hb) hd)
  -- the note is written where it was
  have hl₁ : l = l₁ := by
    have h := hw.locate.symm.trans (hw.locate_of_taken hb)
    split at h
    · assumption
    · cases h
      rfl
  subst hl₁
  refine ⟨l₂, hw'.locate, (hw'.locate_of_taken hw.locate).trans ?_⟩
  split
  · next h => rw [h]
  · rfl

/-- **What a run does to the bytes of a note**: nothing if there are no news. If there are, and the
ledger is another file, the bytes afterwards begin with the bytes before, without the blanks at
their end, exactly if no carriage return is among them; a note that is not blank keeps its lines,
and the section follows one empty line below. -/
theorem note_after_run {l : Location} {bytes : Bytes} {text : Text}
    (hp : Run.plan t clock r = .ok p) (h : Run.run t clock r = (t', .ok report))
    (hb : t.locate p.note.toText = .ok (.taken l (.file bytes)))
    (hd : Utf8.decode bytes = .ok text) :
    ∃ bytes', t'.locate p.note.toText = .ok (.taken l (.file bytes')) ∧
      (p.news = [] → bytes' = bytes) ∧
      (p.news ≠ [] → (∃ e, t'.locate p.ledgerPath.toText = .ok (.taken l e)) →
        bytes' = Utf8.encode p.newLedger.toText) ∧
      ((¬∃ e, t'.locate p.ledgerPath.toText = .ok (.taken l e)) →
        (Utf8.encode (Text.trimRight text) <+: bytes' ↔
          p.news = [] ∨ '\r' ∉ Text.trimRight text) ∧
        (p.news ≠ [] → Text.trimRight text ≠ [] →
          bytes' = Utf8.encode (Utf8.unifyLineEnds (Text.trimRight text)) ++
            Utf8.encode "\n\n".toList ++ Utf8.encode p.sectionText)) := by
  obtain ⟨p', hp', hc, -⟩ := Run.run_eq_ok_iff.1 h
  cases hp.symm.trans hp'
  by_cases hn : p.news = []
  · rw [p.carryOut_of_no_news hn] at hc
    cases hc
    refine ⟨bytes, hb, fun _ => rfl, fun h => absurd hn h, fun _ => ⟨?_, fun h => absurd hn h⟩⟩
    refine ⟨fun _ => .inl hn, fun _ => ?_⟩
    rw [← Utf8.decode_eq_ok_iff.1 hd, Utf8.encode_isPrefix_iff]
    exact Text.trimRight_isPrefix text
  · obtain ⟨l', hl', hnote⟩ := Run.Plan.locate_note_of_carryOut hn hc hb hd
    refine ⟨_, hnote, fun h => absurd h hn, fun _ he => ?_, fun he => ?_⟩
    · obtain ⟨e, he⟩ := he
      cases hl'.symm.trans he
      rw [if_pos rfl]
    · have hne : l ≠ l' := by
        rintro rfl
        exact he ⟨_, hl'⟩
      rw [if_neg hne]
      constructor
      · rw [Utf8.encode_isPrefix_iff, or_iff_right hn]
        by_cases ht : Text.trimRight text = []
        · simp [ht]
        · rw [p.merge_unifyLineEnds ht, List.append_assoc]
          exact Utf8.isPrefix_unifyLineEnds_append_iff _ _
      · intro _ ht
        rw [p.merge_unifyLineEnds ht, Utf8.encode_append, Utf8.encode_append]

end

/-! ### A note with carriage returns -/

namespace TwoProjects

set_option maxRecDepth 100000

/-- Two lines that end with a carriage return and a line feed. -/
def returns : Text := "a\r\nb\r\n".toList

/-- The plan of a run over the second project with this note and no ledger. -/
def returnsPlan : Run.Plan := plan .empty [⟨task, stamp⟩]

theorem locate_note (note ledger : Text) :
    (written note ledger).locate returnsPlan.note.toText =
      .ok (.taken noteLocation (.file (Utf8.encode note))) := by
  cbv

theorem plan_returns : Run.plan (written returns []) clock (request "q") = .ok returnsPlan := by
  have hr := FileTree.readDocument_of_locate (locate_ledger returns []) rfl (Utf8.decode_encode [])
  have hnews : Run.news clock .empty [task] = .ok [⟨task, stamp⟩] := by decide +kernel
  exact plan_second (Ledger.load_eq_ok_iff.2 ⟨[], hr, rfl⟩) hnews

/-- The files after the run. -/
def returnsAfter : FileTree :=
  written (Note.merge (Utf8.unifyLineEnds returns) returnsPlan.sectionText)
    returnsPlan.newLedger.toText

theorem carryOut_returnsPlan :
    returnsPlan.carryOut (written returns []) = (returnsAfter, .ok ()) := by
  have hr := FileTree.readDocument_of_locate (locate_note returns []) rfl
    (Utf8.decode_encode returns)
  have hn (note ledger new : Text) : (written note ledger).writeDocument returnsPlan.note new =
      ⟨written new ledger, none⟩ := by cbv
  have hl (note ledger new : Text) :
      (written note ledger).writeDocument returnsPlan.ledgerPath new =
        ⟨written note new, none⟩ := by cbv
  rw [Run.Plan.carryOut, if_neg (by decide), Run.Plan.write, hr]
  simp only [hn, Ledger.save_eq (l := returnsPlan.newLedger) rfl, hl]
  rfl

/-- The ledger is another file. -/
theorem locate_ledger_returnsAfter :
    ¬∃ e, returnsAfter.locate returnsPlan.ledgerPath.toText =
      .ok (.taken noteLocation e) := by
  rintro ⟨e, h⟩
  have hl := Except.ok.inj ((locate_ledger (Note.merge (Utf8.unifyLineEnds returns)
    returnsPlan.sectionText) returnsPlan.newLedger.toText).symm.trans h)
  have hloc : ledgerLocation = noteLocation := congrArg Place.location hl
  exact absurd hloc (by decide)

end TwoProjects

/-- The carriage return of the first line is gone. -/
theorem note_after_run_carriage_returns :
    Run.plan (TwoProjects.written TwoProjects.returns []) TwoProjects.clock
        (TwoProjects.request "q") = .ok TwoProjects.returnsPlan ∧
      Run.run (TwoProjects.written TwoProjects.returns []) TwoProjects.clock
        (TwoProjects.request "q") =
          (TwoProjects.returnsAfter, .ok TwoProjects.returnsPlan.report) ∧
      ∃ bytes', TwoProjects.returnsAfter.locate TwoProjects.returnsPlan.note.toText =
          .ok (.taken TwoProjects.noteLocation (.file bytes')) ∧
        ¬Utf8.encode (Text.trimRight TwoProjects.returns) <+: bytes' := by
  have hr : Run.run (TwoProjects.written TwoProjects.returns []) TwoProjects.clock
      (TwoProjects.request "q") = (TwoProjects.returnsAfter, .ok TwoProjects.returnsPlan.report) :=
    Run.run_eq_ok_iff.2
      ⟨_, TwoProjects.plan_returns, TwoProjects.carryOut_returnsPlan, rfl⟩
  obtain ⟨bytes', hb, -, -, h⟩ := note_after_run TwoProjects.plan_returns hr
    (TwoProjects.locate_note TwoProjects.returns []) (Utf8.decode_encode TwoProjects.returns)
  obtain ⟨hp, -⟩ := h TwoProjects.locate_ledger_returnsAfter
  refine ⟨TwoProjects.plan_returns, hr, bytes', hb, fun h => ?_⟩
  rcases hp.1 h with hn | hn
  · cases hn
  · exact absurd (by decide) hn

end CommentTasks
