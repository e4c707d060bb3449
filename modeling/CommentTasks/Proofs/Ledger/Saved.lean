import CommentTasks.Proofs.FileTree.WellFormed
import CommentTasks.Proofs.Ledger.File
import Mathlib

/-!
# Ledgers that are saved and loaded

A ledger that was saved is loaded again, and saving it again changes nothing. So what is in a file
that holds a ledger comes to rest after one load: whatever its stamps and its spelling were, from
then on the ledger and the bytes stay the same.
-/

namespace CommentTasks

namespace Ledger

variable {t v : FileTree} {l : Ledger}

/-- A ledger that was saved is loaded. -/
theorem load_of_save {path : PathName} (h : l.save t path = ⟨v, none⟩) : load v path = .ok l := by
  obtain ⟨htorn, loc, hwrote⟩ := wrote_of_save h
  exact load_eq_ok_iff.2 ⟨_, readDocument_of_wrote hwrote, ofText_toText _ _ htorn⟩

end Ledger

/-- **A ledger that is saved is loaded again**, whatever its digests and stamps are, and saving it
again changes nothing. One of texts can be saved where the path leads to a file or to a free place,
if the host takes it; in particular, what was loaded from a file is saved there, is loaded again,
and then stays as it is. -/
theorem load_save {t : FileTree} (ht : t.WellFormed) (path : Text) :
    (∀ (l : Ledger) (v : FileTree), l.save t (.ofText path) = ⟨v, none⟩ →
      Ledger.load v (.ofText path) = .ok l ∧ l.save v (.ofText path) = ⟨v, none⟩) ∧
    (∀ (l : Ledger) (loc : Location), l.isTorn = false →
      t.Accepts (PathName.ofText path).toText loc (Utf8.encode l.toText) →
      l.save t (.ofText path) = ⟨t.set loc (.file (Utf8.encode l.toText)), none⟩) ∧
    ∀ (l : Ledger) (loc : Location) (bytes : Bytes),
      t.locate (PathName.ofText path).toText = .ok (.taken loc (.file bytes)) →
      Ledger.load t (.ofText path) = .ok l → l.isTorn = false →
      t.host.refuses .write loc = none → t.host.cutsShort loc (Utf8.encode l.toText) = none →
      ∃ v, l.save t (.ofText path) = ⟨v, none⟩ ∧ Ledger.load v (.ofText path) = .ok l ∧
        l.save v (.ofText path) = ⟨v, none⟩ := by
  have hp := PathName.spelled_ofText path
  have again (l : Ledger) (v : FileTree) (h : l.save t (.ofText path) = ⟨v, none⟩) :
      Ledger.load v (.ofText path) = .ok l ∧ l.save v (.ofText path) = ⟨v, none⟩ := by
    obtain ⟨htorn, hw⟩ := Ledger.save_eq_whole_iff.1 h
    exact ⟨Ledger.load_of_save h, Ledger.save_eq_whole_iff.2 ⟨htorn, ht.writeDocument_again hp hw⟩⟩
  have saved (l : Ledger) (loc : Location) (htorn : l.isTorn = false)
      (h : t.Accepts (PathName.ofText path).toText loc (Utf8.encode l.toText)) :
      l.save t (.ofText path) = ⟨t.set loc (.file (Utf8.encode l.toText)), none⟩ :=
    Ledger.save_eq_whole_iff.2 ⟨htorn, ht.writeDocument_of_accepts hp h⟩
  refine ⟨again, saved, fun l loc bytes hb _ htorn hadmitted hwhole => ?_⟩
  have hs := saved l loc htorn ⟨.inl ⟨bytes, hb⟩, hadmitted, hwhole⟩
  exact ⟨_, hs, again l _ hs⟩

/-! ### A ledger spelled by hand -/

namespace HandMadeLedger

set_option maxRecDepth 100000

/-- One line, with a member of no account and a stamp that is a number. -/
def text : Text := "\x7b\"x\": [], \"seen\": \x7b\"a\": 1\x7d\x7d".toList

def location : Location := ["w".toList, "s".toList]

def tree : FileTree :=
  ⟨[(["w".toList], .directory), (location, .file (Utf8.encode text))], ["w".toList], {}, by decide⟩

/-- The stamp is the notation of the number. -/
def ledger : Ledger := ⟨[("a".toList, "1".toList)], false, by decide⟩

theorem wellFormed_tree : tree.WellFormed := FileTree.wellFormed_of_entries (by decide) (by decide)

theorem locate_tree : tree.locate (PathName.ofText "s".toList).toText =
    .ok (.taken location (.file (Utf8.encode text))) := by
  cbv

theorem load_tree : Ledger.load tree (.ofText "s".toList) = .ok ledger := by
  have he : (Ledger.ofText tree.host (PathName.ofText "s".toList).toText
      (Utf8.unifyLineEnds text)).toOption.map (fun l => (l.entries, l.isTorn)) =
        some (ledger.entries, ledger.isTorn) := by
    decide +kernel
  have ht : Ledger.ofText tree.host (PathName.ofText "s".toList).toText (Utf8.unifyLineEnds text) =
      .ok ledger := by
    cases h : Ledger.ofText tree.host (PathName.ofText "s".toList).toText (Utf8.unifyLineEnds text) with
    | error e => rw [h] at he; cases he
    | ok l =>
      rw [h] at he
      obtain ⟨hentries, htorn⟩ := Prod.mk.inj (Option.some.inj he)
      exact congrArg _ (Ledger.ext hentries htorn)
  exact Ledger.load_eq_ok_iff.2
    ⟨_, FileTree.readDocument_of_locate locate_tree rfl (Utf8.decode_encode text), ht⟩

end HandMadeLedger

/-- What is loaded from the file is saved in another spelling, and then stays. -/
theorem load_save_hand_made : HandMadeLedger.tree.WellFormed ∧
    Ledger.load HandMadeLedger.tree (.ofText "s".toList) = .ok HandMadeLedger.ledger ∧
    HandMadeLedger.ledger.toText ≠ HandMadeLedger.text ∧
    ∃ v, HandMadeLedger.ledger.save HandMadeLedger.tree (.ofText "s".toList) = ⟨v, none⟩ ∧
      Ledger.load v (.ofText "s".toList) = .ok HandMadeLedger.ledger ∧
      HandMadeLedger.ledger.save v (.ofText "s".toList) = ⟨v, none⟩ :=
  ⟨HandMadeLedger.wellFormed_tree, HandMadeLedger.load_tree, by decide,
    (load_save HandMadeLedger.wellFormed_tree "s".toList).2.2 _ _ _ HandMadeLedger.locate_tree
      HandMadeLedger.load_tree rfl rfl rfl⟩

end CommentTasks
