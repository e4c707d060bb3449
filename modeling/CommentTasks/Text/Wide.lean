import CommentTasks.Text.Printable

/-!
# Texts with halves of surrogate pairs

A document may spell half a surrogate pair where a text is meant. What it spells is then no text but
a row of codes, and there are no bytes for it.
-/

namespace CommentTasks

/-- What a document spells where a text is meant. -/
inductive Wide
  | text (t : Text)
  /-- Codes among which there is half a surrogate pair. -/
  | torn (codes : List Nat)
  deriving DecidableEq, Repr

namespace Wide

/-- What codes spell. -/
def ofCodes (codes : List Nat) : Wide :=
  if codes.all fun n => n.isValidChar then .text (codes.map Char.ofNat) else .torn codes

/-- The text that is spelled, if it is one. -/
def text? : Wide → Option Text
  | .text t => some t
  | .torn _ => none

/-- What is spelled between quote marks, with escapes. -/
def quoted : Wide → Text
  | .text t => Text.quoted t
  | .torn codes =>
    let quote := Text.quoteMark (codes.map Char.ofNat)
    quote :: (codes.flatMap fun n =>
      if n.isValidChar then Text.escapeChar quote (Char.ofNat n)
      else "\\u".toList ++ Text.hexPadded 4 n) ++ [quote]

theorem ofCodes_toNat (t : Text) : ofCodes (t.map Char.toNat) = .text t := by
  have hvalid : (t.map Char.toNat).all (fun n => decide n.isValidChar) = true := by
    simp only [List.all_map, List.all_eq_true, Function.comp_apply, decide_eq_true_eq]
    exact fun c _ => c.valid
  rw [ofCodes, if_pos hvalid, List.map_map]
  exact congrArg _ ((List.map_congr_left fun c _ => Char.ofNat_toNat c).trans t.map_id)

end Wide

end CommentTasks
