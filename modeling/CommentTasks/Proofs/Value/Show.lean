import CommentTasks.Proofs.Depth
import CommentTasks.Value.Show

/-!
# Room for shown values

A value that is shown with some room is shown in the same way without a limit.
-/

namespace CommentTasks.Value

mutual

/-- The notation of a value is that of its parts, one call deeper. -/
theorem literal_keeps (v : Value) : KeepsUnbounded fun room => literal room v := by
  unfold literal
  refine KeepsUnbounded.down ?_ _
  cases v with
  | list items => exact (itemLiterals_keep items).map _
  | pair a b =>
    exact (literal_keeps a).bind fun _ => (literal_keeps b).bind fun _ => keepsUnbounded_const _
  | set items =>
    cases items with
    | nil => exact keepsUnbounded_const _
    | cons v vs => exact (itemLiterals_keep (v :: vs)).map _
  | map members => exact (memberLiterals_keep members).map _
  | bool b => cases b <;> exact keepsUnbounded_const _
  | again isMap => cases isMap <;> exact keepsUnbounded_const _
  | _ =>
    dsimp only
    exact keepsUnbounded_const _

theorem itemLiterals_keep (items : List Value) :
    KeepsUnbounded fun room => itemLiterals room items := by
  cases items with
  | nil =>
    unfold itemLiterals
    exact keepsUnbounded_const _
  | cons v vs =>
    unfold itemLiterals
    exact (literal_keeps v).bind fun _ => (itemLiterals_keep vs).bind fun _ => keepsUnbounded_const _

theorem memberLiterals_keep (members : List (Value × Value)) :
    KeepsUnbounded fun room => memberLiterals room members := by
  cases members with
  | nil =>
    unfold memberLiterals
    exact keepsUnbounded_const _
  | cons member rest =>
    obtain ⟨k, v⟩ := member
    unfold memberLiterals
    exact (literal_keeps k).bind fun _ => (literal_keeps v).bind fun _ =>
      (memberLiterals_keep rest).bind fun _ => keepsUnbounded_const _

end

theorem shown_keeps (v : Value) : KeepsUnbounded fun room => shown room v := by
  cases v
  case text | torn | date | time | dateTime => exact keepsUnbounded_const _
  all_goals exact literal_keeps _

end CommentTasks.Value
