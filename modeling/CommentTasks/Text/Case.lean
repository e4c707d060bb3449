import CommentTasks.Text.Basic
import CommentTasks.Text.CaseTable
import CommentTasks.Text.Ranges

/-!
# Letter case

The full case mappings of a text, and `sameLetter`, the comparison of letters that keywords and
metadata names are read with. The two are different notions: the comparison maps one letter to one
letter and counts some small letters as others, so texts that compare equal may have different
small and capital forms.
-/

namespace CommentTasks.Text

/-- The image of a code point under runs in increasing order, if one of them holds it. -/
def caseImage? (n : Nat) : List CaseRange → Option Nat
  | [] => none
  | r :: rest =>
    if n < r.first then none
    else if n ≤ r.last ∧ (n - r.first) % r.stride = 0 then some (r.image + (n - r.first))
    else caseImage? n rest

/-- The small form of a letter, one letter for one. -/
def smallLetter (c : Char) : Char :=
  if c == '\u0130' then 'i' else ((caseImage? c.toNat smallRanges).map Char.ofNat).getD c

/-- The letter that stands for all letters that compare as this one. -/
def letterClass (c : Char) : Char :=
  (letterVariants.lookup (smallLetter c)).getD (smallLetter c)

/-- The two letters are the same letter up to case. -/
def sameLetter (a b : Char) : Bool := letterClass a == letterClass b

/-- Match a word at the front of a text up to case: the part that matches, and the rest. -/
def matchLetters? : Text → Text → Option (Text × Text)
  | [], t => some ([], t)
  | _ :: _, [] => none
  | k :: ks, c :: cs =>
    if sameLetter k c then (matchLetters? ks cs).map fun (m, rest) => (c :: m, rest) else none

/-- The first character that a look at the neighbours of a sigma does not pass over is cased. -/
def sigmaNeighbourIsCased (t : Text) : Bool :=
  match t.dropWhile fun c => inRanges c.toNat caseIgnorableRanges with
  | [] => false
  | c :: _ => inRanges c.toNat casedRanges

/-- The small form of a text behind the letters in `before`, which are in reverse order. A capital
sigma at the end of a word has a small form of its own. -/
def lowerAfter (before : Text) : Text → Text
  | [] => []
  | c :: r =>
    let small : Text :=
      if c == '\u03a3' then
        if sigmaNeighbourIsCased before && !sigmaNeighbourIsCased r then ['\u03c2'] else ['\u03c3']
      else if c == '\u0130' then ['i', '\u0307']
      else [smallLetter c]
    small ++ lowerAfter (c :: before) r

/-- The small form of a text. -/
def lower (t : Text) : Text := lowerAfter [] t

/-- The capital form of one letter, which may take several letters. -/
def capitalForm (c : Char) : Text :=
  match capitalExpansions.lookup c with
  | some form => form.toList
  | none => [((caseImage? c.toNat capitalRanges).map Char.ofNat).getD c]

/-- The capital form of a text. -/
def upper (t : Text) : Text := t.flatMap capitalForm

end CommentTasks.Text
