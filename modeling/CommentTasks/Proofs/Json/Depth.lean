import CommentTasks.Json.Parser
import CommentTasks.Proofs.Depth

/-!
# Room for brackets

Where there is room for the brackets of a document, more room changes nothing: what is read with
some room is read in the same way without a limit.
-/

namespace CommentTasks.Json

variable {limit : Option Nat} {fuel : Nat}

section

variable (limit fuel)

def ValuesKeep : Prop := ∀ t, KeepsUnbounded fun room => readValue limit fuel room t

def ElementsKeep : Prop := ∀ t, KeepsUnbounded fun room => readElements limit fuel room t

def MembersKeep : Prop := ∀ before t, KeepsUnbounded fun room => readMembers limit fuel room before t

end

theorem valuesKeep_succ (he : ElementsKeep limit fuel) (hm : MembersKeep limit fuel) :
    ValuesKeep limit (fuel + 1) := by
  intro t
  simp only [readValue]
  split
  · exact keepsUnbounded_const _
  · refine KeepsUnbounded.down ?_ _
    split
    · exact keepsUnbounded_const _
    · exact (he _).bind fun _ => keepsUnbounded_const _
  · refine KeepsUnbounded.down ?_ _
    split
    · exact keepsUnbounded_const _
    · exact (hm _ _).bind fun _ => keepsUnbounded_const _
  · exact keepsUnbounded_const _

theorem elementsKeep_succ (hv : ValuesKeep limit fuel) (he : ElementsKeep limit fuel) :
    ElementsKeep limit (fuel + 1) := by
  intro t
  simp only [readElements]
  refine (hv t).bind fun (v, rest) => ?_
  split
  · exact keepsUnbounded_const _
  · exact (he _).bind fun _ => keepsUnbounded_const _
  · exact keepsUnbounded_const _

theorem membersKeep_succ (hv : ValuesKeep limit fuel) (hm : MembersKeep limit fuel) :
    MembersKeep limit (fuel + 1) := by
  intro before t
  simp only [readMembers]
  split
  · refine (keepsUnbounded_const _).bind fun (key, rest) => ?_
    split
    · refine (hv _).bind fun (v, rest) => ?_
      split
      · exact keepsUnbounded_const _
      · exact hm _ _
      · exact keepsUnbounded_const _
    · exact keepsUnbounded_const _
  · exact keepsUnbounded_const _

/-- The three readers call each other with less fuel. -/
theorem keep (fuel : Nat) :
    ValuesKeep limit fuel ∧ ElementsKeep limit fuel ∧ MembersKeep limit fuel := by
  induction fuel with
  | zero =>
    exact ⟨fun _ => keepsUnbounded_const _, fun _ => keepsUnbounded_const _,
      fun _ _ => keepsUnbounded_const _⟩
  | succ fuel ih =>
    obtain ⟨hv, he, hm⟩ := ih
    exact ⟨valuesKeep_succ he hm, elementsKeep_succ hv he, membersKeep_succ hv hm⟩

/-- **A document that is read on a host is read on one without limits.** -/
theorem parse_unbounded {host : Host} {t : Text} {v : Json Wide} (h : parse host t = .ok v) :
    parse {} t = .ok v := by
  have hread : KeepsUnbounded fun room => readDocument (some maxDigits) room t :=
    ((keep _).1 _).bind fun _ => keepsUnbounded_const _
  unfold parse parseWithin at h ⊢
  split at h
  · cases h
  · rw [mapError_eq_ok_iff] at h ⊢
    exact hread _ v h

end CommentTasks.Json
