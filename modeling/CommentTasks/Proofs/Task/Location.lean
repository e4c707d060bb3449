import CommentTasks.Proofs.Text.Padded
import CommentTasks.Proofs.Text.Squeeze
import CommentTasks.Run.News

/-!
# Reading where tasks are

The second line of a task is read from its right end: the bracket and the digest have a fixed width,
so has the mark in front of them, and then come the digits of the line up to the last colon. What is
left is the path, whatever is in it. `Reference.ofLine?` reads these lines and no others.
-/

namespace CommentTasks

/-! ### Digests -/

/-- The text is as long as a digest, and of hexadecimal digits. -/
structure IsDigest (d : Text) : Prop where
  length : d.length = digestLength
  isHexDigit : ∀ c ∈ d, Text.isHexDigit c

namespace Text

theorem isHexDigit_digitChar : ∀ n < 16, isHexDigit n.digitChar := by
  decide

theorem isHexDigit_of_mem_toDigits {n : Nat} {c : Char} (h : c ∈ Nat.toDigits 16 n) :
    isHexDigit c := by
  induction n using Nat.strong_induction_on with
  | _ n ih =>
    by_cases hn : n < 16
    · rw [Nat.toDigits_of_lt_base hn, List.mem_singleton] at h
      exact h ▸ isHexDigit_digitChar n hn
    · rw [Nat.toDigits_of_base_le (by decide) (Nat.not_lt.1 hn), List.mem_append,
        List.mem_singleton] at h
      rcases h with h | h
      · exact ih (n / 16) (by omega) h
      · exact h ▸ isHexDigit_digitChar (n % 16) (Nat.mod_lt n (by decide))

theorem isHexDigit_of_mem_hexPadded {w n : Nat} {c : Char} (h : c ∈ hexPadded w n) :
    isHexDigit c := by
  rcases List.mem_append.1 h with h | h
  · rw [List.eq_of_mem_replicate h]
    decide
  · exact isHexDigit_of_mem_toDigits h

end Text

/-- **A digest is eight hexadecimal digits**: the first of the five words has just as many. -/
theorem isDigest_identityDigest (path : Text) (line : Int) (message : Text) :
    IsDigest (identityDigest path line message) := by
  rw [identityDigest, Sha1.hexDigest]
  generalize Sha1.compressAll _ _ _ = s
  refine ⟨?_, fun c hc => ?_⟩
  · have hword : (Text.hexPadded 8 s.a.toNat).length = 8 :=
      Text.length_hexPadded (by decide) s.a.toNat_lt
    rw [Sha1.State.words, List.flatMap_cons, List.length_take, List.length_append, hword]
    exact Nat.min_eq_left (Nat.le_add_right 8 _)
  · obtain ⟨w, -, hw⟩ := List.mem_flatMap.1 (List.mem_of_mem_take hc)
    exact Text.isHexDigit_of_mem_hexPadded hw

theorem Task.isDigest_digest (t : Task) : IsDigest t.digest := isDigest_identityDigest _ _ _

/-! ### Integers -/

/-- The value of the digits of an integer. -/
def Text.toInt : Text → Int
  | '-' :: digits => -(valueOf 10 digits : Int)
  | digits => valueOf 10 digits

@[simp] theorem Text.toInt_ofInt (i : Int) : toInt (ofInt i) = i := by
  cases i with
  | ofNat n =>
    have hfirst : ∀ digits, ofNat n ≠ '-' :: digits := fun digits h =>
      minus_not_mem_ofNat n (h ▸ List.mem_cons_self)
    rw [ofInt, toInt.eq_2 _ hfirst, valueOf_ofNat]
    rfl
  | negSucc n =>
    rw [ofInt, toInt, valueOf_ofNat]
    rfl

/-! ### The second line of a task -/

/-- What the second line of a task says: where the task is, and its digest. -/
structure Reference where
  path : Text
  line : Int
  digest : Text
  deriving DecidableEq, Repr

/-- The reference of a task. -/
def Task.reference (t : Task) : Reference := ⟨t.path, t.line, t.digest⟩

namespace Reference

/-- What stands in front of a digest. -/
def mark : Text := "  [hash:".toList

/-- The line that says it. -/
def text (r : Reference) : Text := r.path ++ ':' :: Text.ofInt r.line ++ mark ++ r.digest ++ "]".toList

/-- Read a line from its right end. The parts are cut out at their places, and count only if they
are the parts of this line. -/
def ofLine? (line : Text) : Option Reference :=
  let back := line.reverse.drop 1
  let place := back.drop (digestLength + mark.length)
  let r : Reference := {
    path := ((place.dropWhile (· ≠ ':')).drop 1).reverse
    line := Text.toInt (place.takeWhile (· ≠ ':')).reverse
    digest := (back.take digestLength).reverse }
  if r.text = line ∧ r.digest.length = digestLength then some r else none

/-- **The lines that are read** are those that say something with a digest of the right length, and
are read as what they say. -/
theorem ofLine?_eq_some_iff {line : Text} {r : Reference} :
    ofLine? line = some r ↔ line = r.text ∧ r.digest.length = digestLength := by
  constructor
  · intro h
    unfold ofLine? at h
    simp only at h
    split at h
    · next hr =>
      cases h
      exact ⟨hr.1.symm, hr.2⟩
    · cases h
  · rintro ⟨rfl, hlength⟩
    have hback : r.text.reverse.drop 1 =
        r.digest.reverse ++ (mark.reverse ++ ((Text.ofInt r.line).reverse ++ ':' :: r.path.reverse)) := by
      simp [text]
    have hdigest : (r.text.reverse.drop 1).take digestLength = r.digest.reverse := by
      rw [hback, List.take_left' (by rw [List.length_reverse, hlength])]
    have hplace : (r.text.reverse.drop 1).drop (digestLength + mark.length) =
        (Text.ofInt r.line).reverse ++ ':' :: r.path.reverse := by
      rw [hback, ← List.drop_drop, List.drop_left' (by rw [List.length_reverse, hlength]),
        List.drop_left' List.length_reverse]
    -- the first colon from the right is the one in front of the line
    have hcolon : ∀ c ∈ (Text.ofInt r.line).reverse, (decide (c ≠ ':')) = true := by
      intro c hc
      rw [decide_eq_true_iff]
      rintro rfl
      exact Text.colon_not_mem_ofInt r.line (List.mem_reverse.1 hc)
    simp only [ofLine?, hdigest, hplace, List.takeWhile_append_of_pos hcolon,
      List.dropWhile_append_of_pos hcolon]
    simp [hlength]

theorem ofLine?_locationLine (t : Task) {d : Text} (h : d.length = digestLength) :
    ofLine? (t.locationLine d) = some ⟨t.path, t.line, d⟩ :=
  ofLine?_eq_some_iff.2 ⟨rfl, h⟩

/-- No line with single spaces is read: two of them stand in front of the digest. -/
theorem ofLine?_of_singlySpaced {line : Text} (h : Text.SinglySpaced line) : ofLine? line = none := by
  rw [Option.eq_none_iff_forall_ne_some]
  intro r hr
  have hline : line = (r.path ++ ':' :: Text.ofInt r.line) ++
      ' ' :: ' ' :: ("[hash:".toList ++ r.digest ++ "]".toList) := by
    have hmark : mark = ' ' :: ' ' :: "[hash:".toList := by decide
    rw [(ofLine?_eq_some_iff.1 hr).1, text, hmark]
    simp only [List.append_assoc, List.cons_append]
  obtain ⟨-, -, y, hy, hblank⟩ := h _ _ _ hline (by decide)
  obtain rfl : ' ' = y := Option.some.inj hy
  exact absurd hblank (by decide)

/-- A heading ends with another bracket. -/
theorem ofLine?_headingText (stamp : Text) : ofLine? (headingText stamp) = none := by
  rw [Option.eq_none_iff_forall_ne_some]
  intro r hr
  have hlast := congrArg List.getLast? (ofLine?_eq_some_iff.1 hr).1
  have hheading : (headingText stamp).getLast? = some ')' := List.getLast?_concat
  have htext : r.text.getLast? = some ']' := List.getLast?_concat
  rw [hheading, htext] at hlast
  exact absurd (Option.some.inj hlast) (by decide)

theorem ofLine?_summaryLine (t : Task) : ofLine? t.summaryLine = none :=
  ofLine?_of_singlySpaced (Text.singlySpaced_squeeze _)

theorem ofLine?_nil : ofLine? [] = none := ofLine?_of_singlySpaced (Text.singlySpaced_squeeze [])

/-- The lines of a section say where its tasks are, one after the other, and nothing else. -/
theorem filterMap_sectionLines (stamp : Text) (news : List News) :
    (News.sectionLines stamp news).filterMap ofLine? = news.map fun n => n.task.reference := by
  have hfront : [headingText stamp, []].filterMap ofLine? = [] := by
    rw [List.filterMap_cons_none (ofLine?_headingText stamp), List.filterMap_cons_none ofLine?_nil,
      List.filterMap_nil]
  have htask (n : News) :
      (n.task.format n.task.digest ++ [[]]).filterMap ofLine? = [n.task.reference] := by
    rw [Task.format, List.cons_append, List.cons_append,
      List.filterMap_cons_none (ofLine?_summaryLine n.task),
      List.filterMap_cons_some (ofLine?_locationLine n.task n.task.isDigest_digest.length),
      List.nil_append, List.filterMap_cons_none ofLine?_nil, List.filterMap_nil]
    rfl
  rw [News.sectionLines, List.filterMap_append, hfront, List.nil_append, List.filterMap_flatMap]
  simp only [htask]
  exact List.map_eq_flatMap.symm

end Reference

end CommentTasks
