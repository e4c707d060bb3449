import CommentTasks.Proofs.Text.LineEnds
import CommentTasks.Text.Blank
import Mathlib.Data.List.Basic
import Mathlib.Data.List.TakeWhile

/-!
# Pieces and words of a text

A piece between separators holds none of them, so a word holds no blank. The pieces that are not
empty are told from left to right by `parts_of_separators` and `parts_solid`, whatever separates
them. Trimming and squeezing a text leave its first character in place unless it is a blank.
-/

namespace CommentTasks.Text

theorem of_mem_splitOnP {separates : Char → Bool} {t piece : Text}
    (h : piece ∈ t.splitOnP separates) : ∀ c ∈ piece, c ∈ t ∧ separates c = false := by
  induction t generalizing piece with
  | nil =>
    rw [List.splitOnP_nil, List.mem_singleton] at h
    subst h
    exact fun c hc => absurd hc List.not_mem_nil
  | cons c r ih =>
    have later {piece : Text} (h : piece ∈ r.splitOnP separates) :
        ∀ d ∈ piece, d ∈ c :: r ∧ separates d = false :=
      fun d hd => ⟨List.mem_cons_of_mem c (ih h d hd).1, (ih h d hd).2⟩
    rw [List.splitOnP_cons_eq_if_modifyHead] at h
    split at h
    · rcases List.mem_cons.1 h with rfl | h
      · exact fun c hc => absurd hc List.not_mem_nil
      · exact later h
    · next hc =>
      -- only the first piece has the character in front
      obtain ⟨first, more, hr⟩ := List.exists_cons_of_ne_nil (List.splitOnP_ne_nil separates r)
      rw [hr, List.modifyHead_cons] at h
      rw [hr] at later
      rcases List.mem_cons.1 h with rfl | h
      · intro d hd
        rcases List.mem_cons.1 hd with rfl | hd
        · exact ⟨List.mem_cons_self, by simpa using hc⟩
        · exact later List.mem_cons_self d hd
      · exact later (List.mem_cons_of_mem _ h)

theorem eq_false_of_mem_splitOnP {separates : Char → Bool} {t piece : Text}
    (h : piece ∈ t.splitOnP separates) : ∀ c ∈ piece, separates c = false :=
  fun c hc => (of_mem_splitOnP h c hc).2

theorem not_mem_of_mem_splitOn {separator : Char} {t piece : Text}
    (h : piece ∈ t.splitOn separator) : separator ∉ piece :=
  fun hm => absurd (eq_false_of_mem_splitOnP h separator hm) (by simp)

/-- What is left of a list from its first element on that a test refuses begins with this
element. -/
theorem eq_false_of_head?_dropWhile {α : Type} {p : α → Bool} {l : List α} {a : α}
    (h : a ∈ (l.dropWhile p).head?) : p a = false := by
  have ha := List.head?_dropWhile_not p l
  rw [Option.mem_def.1 h] at ha
  simpa using ha

/-! ### The pieces that are not empty -/

/-- The pieces of a text, each with `f` applied to it, as far as something is left of them. -/
def parts (separates : Char → Bool) (f : Text → Text) (t : Text) : List Text :=
  ((t.splitOnP separates).map f).filter (· ≠ [])

theorem words_eq_parts (t : Text) : words t = parts isBlank id t := by
  rw [words, parts, List.map_id]

section

variable {separates : Char → Bool} {f : Text → Text} {w s t : Text}

theorem parts_append_cons {c : Char} (hc : separates c) (a b : Text) :
    parts separates f (a ++ c :: b) = parts separates f a ++ parts separates f b := by
  unfold parts
  rw [List.splitOnP_append_cons a b hc, List.map_append, List.filter_append]

theorem parts_nil (hf : f [] = []) : parts separates f [] = [] := by
  unfold parts
  rw [List.splitOnP_nil, List.map_singleton, hf]
  rfl

theorem parts_of_separators (hf : f [] = []) (hs : ∀ c ∈ s, separates c) (t : Text) :
    parts separates f (s ++ t) = parts separates f t := by
  induction s with
  | nil => rfl
  | cons c s ih =>
    rw [List.forall_mem_cons] at hs
    rw [List.cons_append, ← List.nil_append (c :: _), parts_append_cons hs.1, parts_nil hf,
      List.nil_append, ih hs.2]

/-- A text without separators up to the next separator is the first piece. -/
theorem parts_solid (hf : f [] = []) (hw : ∀ c ∈ w, separates c = false) (hne : w ≠ [])
    (hfw : f w = w) (ht : ∀ c ∈ t.head?, separates c) :
    parts separates f (w ++ t) = w :: parts separates f t := by
  have hone : parts separates f w = [w] := by
    unfold parts
    rw [List.splitOnP_eq_singleton hw, List.map_singleton, hfw, List.filter_singleton]
    simp [hne]
  cases t with
  | nil => rw [List.append_nil, hone, parts_nil hf]
  | cons c t =>
    have hc : separates c := ht c rfl
    rw [parts_append_cons hc, hone, List.singleton_append, ← List.nil_append (c :: t),
      parts_append_cons hc, parts_nil hf, List.nil_append]

end

/-! ### Trimming and squeezing -/

theorem exists_eq_trimRight_append (t : Text) :
    ∃ blanks, t = trimRight t ++ blanks ∧ ∀ c ∈ blanks, isBlank c := by
  refine ⟨(t.reverse.takeWhile isBlank).reverse, ?_, fun c hc => ?_⟩
  · rw [trimRight, ← List.reverse_append, List.takeWhile_append_dropWhile, List.reverse_reverse]
  · exact List.mem_takeWhile_imp (List.mem_reverse.1 hc)

theorem trim_infix (t : Text) : trim t <:+: t :=
  (trimRight_isPrefix (trimLeft t)).isInfix.trans (List.dropWhile_suffix isBlank).isInfix

theorem trimLeft_append_of_blank {p : Text} (hp : ∀ c ∈ p, isBlank c) (t : Text) :
    trimLeft (p ++ t) = trimLeft t :=
  List.dropWhile_append_of_pos hp

theorem trimRight_append_of_blank {s : Text} (hs : ∀ c ∈ s, isBlank c) (t : Text) :
    trimRight (t ++ s) = trimRight t := by
  unfold trimRight
  rw [List.reverse_append, List.dropWhile_append_of_pos fun c hc => hs c (List.mem_reverse.1 hc)]

theorem trim_append_of_blank {p s : Text} (hp : ∀ c ∈ p, isBlank c) (hs : ∀ c ∈ s, isBlank c)
    (t : Text) : trim (p ++ t ++ s) = trim t := by
  unfold trim
  rw [List.append_assoc, trimLeft_append_of_blank hp]
  unfold trimLeft
  rw [List.dropWhile_append]
  split
  · next h =>
    -- the text is blank itself
    rw [List.isEmpty_iff] at h
    rw [h, List.dropWhile_eq_nil_iff.2 hs]
  · exact trimRight_append_of_blank hs _

/-- A text without blanks is left as it is. -/
theorem trimRight_of_solid {w : Text} (hw : ∀ c ∈ w, isBlank c = false) : trimRight w = w := by
  induction w with
  | nil => rfl
  | cons c w ih =>
    rw [List.forall_mem_cons] at hw
    rw [trimRight_cons, ih hw.2, if_neg (by simp [hw.1])]

theorem trimLeft_of_head {t : Text} (ht : ∀ c ∈ t.head?, isBlank c = false) : trimLeft t = t := by
  cases t with
  | nil => rfl
  | cons c t => exact List.dropWhile_cons_of_neg (by simp [ht c rfl])

theorem trim_of_solid {w : Text} (hw : ∀ c ∈ w, isBlank c = false) : trim w = w := by
  rw [trim, trimLeft_of_head fun c hc => hw c (List.mem_of_mem_head? hc), trimRight_of_solid hw]

theorem trimRight_eq_nil_iff {t : Text} : trimRight t = [] ↔ isAllBlank t := by
  rw [trimRight, List.reverse_eq_nil_iff, List.dropWhile_eq_nil_iff, isAllBlank, List.all_eq_true]
  simp only [List.mem_reverse]

/-- The end is trimmed within what stands behind, unless that is blank. -/
theorem trimRight_append_of_ne_nil {t : Text} (ht : trimRight t ≠ []) (a : Text) :
    trimRight (a ++ t) = a ++ trimRight t := by
  induction a with
  | nil => rfl
  | cons c a ih =>
    rw [List.cons_append, trimRight_cons, ih, if_neg (by simp [ht])]
    rfl

/-- Words with single spaces between them begin as the first word does. -/
theorem head?_join {ws : List Text} (hws : ∀ w ∈ ws, w ≠ []) :
    (join " " ws).head? = ws.head?.bind List.head? := by
  cases ws with
  | nil => rfl
  | cons w ws =>
    obtain ⟨c, r, rfl⟩ := List.exists_cons_of_ne_nil (hws w List.mem_cons_self)
    rw [join, List.intercalate_cons_cons_left]
    rfl

theorem join_eq_nil_iff {ws : List Text} (hws : ∀ w ∈ ws, w ≠ []) : join " " ws = [] ↔ ws = [] := by
  constructor
  · intro h
    cases ws with
    | nil => rfl
    | cons w ws =>
      have hh := head?_join hws
      rw [h] at hh
      exact absurd (List.head?_eq_none_iff.1 hh.symm) (hws w List.mem_cons_self)
  · rintro rfl
    rfl

/-- Nothing is trimmed off the front of a text that does not begin with a blank. -/
theorem exists_trim_cons {c : Char} (hc : isBlank c = false) (r : Text) :
    ∃ s, trim (c :: r) = c :: s := by
  refine ⟨trimRight r, ?_⟩
  rw [trim, trimLeft, List.dropWhile_cons_of_neg (by simp [hc]), trimRight_cons,
    if_neg (by simp [hc])]

/-- The first word begins as the text does, if that is with no blank. -/
theorem exists_words_cons {c : Char} (hc : isBlank c = false) (r : Text) :
    ∃ first more, words (c :: r) = (c :: first) :: more := by
  obtain ⟨first, more, hr⟩ := List.exists_cons_of_ne_nil (List.splitOnP_ne_nil isBlank r)
  refine ⟨first, more.filter (· ≠ []), ?_⟩
  rw [words, List.splitOnP_cons_eq_if_modifyHead, if_neg (by simp [hc]), hr, List.modifyHead_cons,
    List.filter_cons_of_pos (by simp)]

theorem exists_squeeze_cons {c : Char} (hc : isBlank c = false) (r : Text) :
    ∃ s, squeeze (c :: r) = c :: s := by
  obtain ⟨first, more, hw⟩ := exists_words_cons hc r
  rw [squeeze, hw, List.intercalate_cons_cons_left]
  exact ⟨_, rfl⟩

theorem newline_not_mem_squeeze (t : Text) : '\n' ∉ squeeze t := by
  have hw : ∀ word ∈ words t, '\n' ∉ word := fun word hm hn =>
    absurd (eq_false_of_mem_splitOnP (List.mem_filter.1 hm).1 _ hn) (by decide)
  unfold squeeze
  generalize words t = ws at hw
  induction ws with
  | nil => simp
  | cons word more ih =>
    have ih := ih fun w hm => hw w (List.mem_cons_of_mem _ hm)
    have hword := hw word List.mem_cons_self
    by_cases hm : more = []
    · subst hm
      rw [List.intercalate_singleton]
      exact hword
    · rw [List.intercalate_cons_of_ne_nil hm]
      simp [hword, ih]

end CommentTasks.Text
