import CommentTasks.Proofs.Text.Words

/-!
# Trimmed and squeezed texts

A text is trimmed if no blank stands at its ends, and singly spaced if blanks stand in it only as
single spaces between other characters. Trimming and squeezing give such texts, and leave them as
they are. Squeezing keeps the words of a text, and the words of joined texts are those of the one
after those of the other.
-/

namespace CommentTasks.Text

variable {t : Text} {ws : List Text}

/-! ### Trimmed texts -/

/-- No blank stands at the ends of the text. -/
structure IsTrimmed (t : Text) : Prop where
  head : ∀ c ∈ t.head?, isBlank c = false
  last : ∀ c ∈ t.getLast?, isBlank c = false

theorem trimRight_of_last (h : ∀ c ∈ t.getLast?, isBlank c = false) : trimRight t = t := by
  have hreverse : trimLeft t.reverse = t.reverse :=
    trimLeft_of_head fun c hc => h c (by rwa [List.head?_reverse] at hc)
  show (trimLeft t.reverse).reverse = t
  rw [hreverse, List.reverse_reverse]

theorem IsTrimmed.trim_eq (h : IsTrimmed t) : trim t = t := by
  rw [trim, trimLeft_of_head h.head, trimRight_of_last h.last]

theorem mem_head?_of_trimRight {c : Char} (h : c ∈ (trimRight t).head?) : c ∈ t.head? := by
  obtain ⟨s, hs⟩ := trimRight_isPrefix t
  rw [← hs, List.head?_append, Option.mem_def.1 h]
  rfl

theorem isTrimmed_trim (t : Text) : IsTrimmed (trim t) where
  head := fun _ hc => eq_false_of_head?_dropWhile (mem_head?_of_trimRight hc)
  last := by
    intro c hc
    rw [trim, trimRight, List.getLast?_reverse] at hc
    exact eq_false_of_head?_dropWhile hc

theorem trim_eq_self_iff : trim t = t ↔ IsTrimmed t := by
  constructor
  · intro h
    rw [← h]
    exact isTrimmed_trim t
  · exact IsTrimmed.trim_eq

theorem IsTrimmed.trimRight_append (h : IsTrimmed t) (s : Text) :
    trimRight (t ++ s) = t ++ trimRight s := by
  by_cases hs : trimRight s = []
  · obtain ⟨blanks, hblanks, hall⟩ := exists_eq_trimRight_append s
    rw [hs, List.nil_append] at hblanks
    rw [hs, hblanks, trimRight_append_of_blank hall, trimRight_of_last h.last, List.append_nil]
  · exact trimRight_append_of_ne_nil hs t

theorem IsTrimmed.trim_append (h : IsTrimmed t) (hne : t ≠ []) (s : Text) :
    trim (t ++ s) = t ++ trimRight s := by
  have hleft : trimLeft (t ++ s) = t ++ s :=
    trimLeft_of_head fun c hc => h.head c (by rwa [List.head?_append_of_ne_nil _ hne] at hc)
  rw [trim, hleft, h.trimRight_append]

theorem trim_trimRight (t : Text) : trim (trimRight t) = trim t := by
  obtain ⟨blanks, hblanks, hall⟩ := exists_eq_trimRight_append t
  have h := trim_append_of_blank (p := []) (by simp) hall (trimRight t)
  rw [List.nil_append, ← hblanks] at h
  exact h.symm

/-! ### The words of a text -/

/-- The texts are words: none is empty, and none holds a blank. -/
def AreWords (ws : List Text) : Prop := ∀ w ∈ ws, w ≠ [] ∧ ∀ c ∈ w, isBlank c = false

theorem areWords_words (t : Text) : AreWords (words t) := by
  intro w hw
  obtain ⟨hw, hne⟩ := List.mem_filter.1 hw
  exact ⟨by simpa using hne, eq_false_of_mem_splitOnP hw⟩

theorem squeeze_eq_join (t : Text) : squeeze t = join " " (words t) := rfl

theorem words_append_cons {c : Char} (hc : isBlank c) (a b : Text) :
    words (a ++ c :: b) = words a ++ words b := by
  simp only [words_eq_parts, parts_append_cons hc]

theorem words_of_solid {w : Text} (hne : w ≠ []) (hw : ∀ c ∈ w, isBlank c = false) :
    words w = [w] := by
  rw [words, List.splitOnP_eq_singleton hw, List.filter_singleton]
  simp [hne]

/-- A text is a word if it is the only word of its own. -/
theorem words_eq_singleton_iff (hne : t ≠ []) : words t = [t] ↔ ∀ c ∈ t, isBlank c = false := by
  constructor
  · intro h
    exact (areWords_words t t (by rw [h]; exact List.mem_singleton_self t)).2
  · exact words_of_solid hne

theorem join_cons_cons (w w' : Text) (ws : List Text) :
    join " " (w :: w' :: ws) = w ++ ' ' :: join " " (w' :: ws) := by
  rw [join, List.intercalate_cons_of_ne_nil (List.cons_ne_nil _ _), List.append_assoc]
  rfl

theorem words_join (ts : List Text) : words (join " " ts) = ts.flatMap words := by
  induction ts with
  | nil => rfl
  | cons t ts ih =>
    cases ts with
    | nil => rw [join, List.intercalate_singleton, List.flatMap_singleton]
    | cons t' ts =>
      rw [join_cons_cons, words_append_cons rfl, ih]
      exact (List.flatMap_cons (f := words)).symm

theorem AreWords.words_join (h : AreWords ws) : words (join " " ws) = ws := by
  have hone : ∀ w ∈ ws, words w = [w] := fun w hw => words_of_solid (h w hw).1 (h w hw).2
  rw [Text.words_join, List.flatMap_congr hone]
  exact List.flatMap_singleton' ws

theorem words_squeeze (t : Text) : words (squeeze t) = words t := (areWords_words t).words_join

theorem squeeze_append_cons {w b : Text} (hne : w ≠ []) (hw : ∀ c ∈ w, isBlank c = false)
    (hb : squeeze b ≠ []) : squeeze (w ++ ' ' :: b) = w ++ ' ' :: squeeze b := by
  rw [squeeze_eq_join] at hb
  rw [squeeze_eq_join, squeeze_eq_join, words_append_cons rfl, words_of_solid hne hw]
  cases hwords : words b with
  | nil =>
    rw [hwords] at hb
    exact absurd rfl hb
  | cons w' ws => exact join_cons_cons w w' ws

theorem AreWords.exists_dropWhile_join {p : Char → Bool} (h : AreWords ws) (hp : p ' ') :
    ∃ ws', AreWords ws' ∧ (join " " ws).dropWhile p = join " " ws' := by
  induction ws with
  | nil => exact ⟨[], h, rfl⟩
  | cons w ws ih =>
    obtain ⟨hw, hws⟩ : (w ≠ [] ∧ ∀ c ∈ w, isBlank c = false) ∧ AreWords ws := List.forall_mem_cons.1 h
    have hsolid : ∀ c ∈ w.dropWhile p, isBlank c = false :=
      fun c hc => hw.2 c ((List.dropWhile_suffix p).mem hc)
    by_cases hnil : w.dropWhile p = []
    · -- the first word is dropped, and the space behind it
      cases ws with
      | nil => exact ⟨[], hws, by rwa [join, List.intercalate_singleton]⟩
      | cons w' ws =>
        obtain ⟨ws', hws', hdrop⟩ := ih hws
        refine ⟨ws', hws', ?_⟩
        rw [join_cons_cons, List.dropWhile_append, hnil, ← hdrop]
        exact List.dropWhile_cons_of_pos hp
    · have hwords : AreWords (w.dropWhile p :: ws) := List.forall_mem_cons.2 ⟨⟨hnil, hsolid⟩, hws⟩
      refine ⟨_, hwords, ?_⟩
      cases ws with
      | nil => simp only [join, List.intercalate_singleton]
      | cons w' ws =>
        rw [join_cons_cons, join_cons_cons, List.dropWhile_append, if_neg (by simpa using hnil)]

/-! ### Singly spaced texts -/

/-- Blanks stand in the text only as single spaces between other characters. -/
def SinglySpaced (t : Text) : Prop := ∀ a c b, t = a ++ c :: b → isBlank c →
  c = ' ' ∧ (∃ x ∈ a.getLast?, isBlank x = false) ∧ ∃ y ∈ b.head?, isBlank y = false

theorem SinglySpaced.isTrimmed (h : SinglySpaced t) : IsTrimmed t where
  head := by
    intro c hc
    obtain ⟨b, rfl⟩ := List.head?_eq_some_iff.1 hc
    by_contra hblank
    obtain ⟨-, ⟨x, hx, -⟩, -⟩ := h [] c b rfl (by simpa using hblank)
    cases hx
  last := by
    intro c hc
    obtain ⟨a, rfl⟩ := List.getLast?_eq_some_iff.1 hc
    by_contra hblank
    obtain ⟨-, -, y, hy, -⟩ := h a c [] rfl (by simpa using hblank)
    cases hy

theorem SinglySpaced.append {w : Text} (ht : SinglySpaced t) (hne : t ≠ []) (hw : w ≠ [])
    (hsolid : ∀ c ∈ w, isBlank c = false) : SinglySpaced (w ++ ' ' :: t) := by
  have hlast : ∃ x ∈ w.getLast?, isBlank x = false :=
    ⟨w.getLast hw, List.getLast?_eq_some_getLast hw, hsolid _ (List.getLast_mem hw)⟩
  have hhead : ∃ y ∈ t.head?, isBlank y = false :=
    ⟨t.head hne, List.head?_eq_some_head hne, ht.isTrimmed.head _ (List.head?_eq_some_head hne)⟩
  intro a c b he hc
  rcases List.append_eq_append_iff.1 he with ⟨a', rfl, hs⟩ | ⟨a', rfl, hs⟩
  · cases a' with
    | nil =>
      obtain ⟨rfl, rfl⟩ := List.cons.inj hs
      rw [List.append_nil]
      exact ⟨rfl, hlast, hhead⟩
    | cons d a' =>
      obtain ⟨rfl, htext⟩ := List.cons.inj hs
      obtain ⟨hspace, ⟨x, hx, hxb⟩, hy⟩ := ht a' c b htext hc
      refine ⟨hspace, ⟨x, ?_, hxb⟩, hy⟩
      rw [Option.mem_def] at hx ⊢
      rw [List.getLast?_append, List.getLast?_cons, hx]
      rfl
  · cases a' with
    | nil =>
      obtain ⟨rfl, rfl⟩ := List.cons.inj hs
      rw [List.append_nil] at hlast
      exact ⟨rfl, hlast, hhead⟩
    | cons d a' =>
      -- the blank would stand in the word
      obtain ⟨rfl, -⟩ := List.cons.inj hs
      rw [hsolid c (by simp)] at hc
      cases hc

theorem AreWords.singlySpaced_join (h : AreWords ws) : SinglySpaced (join " " ws) := by
  induction ws with
  | nil =>
    intro a c b ht
    exact absurd ht.symm (List.append_ne_nil_of_right_ne_nil a (List.cons_ne_nil c b))
  | cons w ws ih =>
    obtain ⟨hw, hws⟩ : (w ≠ [] ∧ ∀ c ∈ w, isBlank c = false) ∧ AreWords ws := List.forall_mem_cons.1 h
    cases ws with
    | nil =>
      intro a c b ht hc
      rw [join, List.intercalate_singleton] at ht
      rw [hw.2 c (by simp [ht])] at hc
      cases hc
    | cons w' ws =>
      have hne : join " " (w' :: ws) ≠ [] :=
        mt (join_eq_nil_iff fun w hw => (hws w hw).1).1 (List.cons_ne_nil w' ws)
      rw [join_cons_cons]
      exact (ih hws).append hne hw.1 hw.2

theorem AreWords.trim_join (h : AreWords ws) : trim (join " " ws) = join " " ws :=
  h.singlySpaced_join.isTrimmed.trim_eq

theorem singlySpaced_squeeze (t : Text) : SinglySpaced (squeeze t) :=
  (areWords_words t).singlySpaced_join

theorem SinglySpaced.behind {a b : Text} {c : Char} (h : SinglySpaced (a ++ c :: b))
    (hc : isBlank c) : SinglySpaced b := by
  intro a' c' b' he hc'
  obtain ⟨hspace, ⟨x, hx, hxb⟩, hy⟩ := h (a ++ c :: a') c' b' (by simp [he]) hc'
  refine ⟨hspace, ⟨x, ?_, hxb⟩, hy⟩
  cases a' with
  | nil =>
    -- two blanks would stand side by side
    obtain rfl : c = x := by simpa using hx
    rw [hc] at hxb
    cases hxb
  | cons d a' => simpa using hx

theorem SinglySpaced.squeeze_eq (h : SinglySpaced t) : squeeze t = t := by
  induction hn : t.length using Nat.strong_induction_on generalizing t with
  | _ n ih =>
    cases hfind : t.find? isBlank with
    | none =>
      have hsolid : ∀ c ∈ t, isBlank c = false := by simpa using hfind
      by_cases hne : t = []
      · rw [hne]
        rfl
      · rw [squeeze, words_of_solid hne hsolid, List.intercalate_singleton]
    | some c =>
      -- the text is a word and what stands from the first blank on
      obtain ⟨hc, w, b, rfl, hw⟩ := List.find?_eq_some_iff_append.1 hfind
      have hw : ∀ c ∈ w, isBlank c = false := by simpa using hw
      obtain ⟨rfl, ⟨x, hx, -⟩, y, hy, -⟩ := h w c b rfl hc
      have hwne : w ≠ [] := by
        rintro rfl
        cases hx
      have hbne : b ≠ [] := by
        rintro rfl
        cases hy
      have hb : squeeze b = b := ih b.length (by simp [← hn]; omega) (h.behind hc) rfl
      rw [squeeze_append_cons hwne hw (by rwa [hb]), hb]

end CommentTasks.Text
