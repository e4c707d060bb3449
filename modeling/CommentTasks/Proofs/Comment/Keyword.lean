import CommentTasks.Comment.Keyword
import CommentTasks.Proofs.Text.Letters
import CommentTasks.Proofs.Text.Words

/-!
# Keywords at the front of a text

A keyword is found as a front of the text with its letters, up to case, where a word begins or ends.
A plain keyword consists of letters, digits and low lines below 128. Such keywords are found in a
way that does not depend on their order: what is found is the longest front of word characters,
`match?_of_plain`.
-/

namespace CommentTasks.Keywords

variable {ks : Keywords} {k t found rest : Text}

theorem matchOne?_eq_some_iff : matchOne? k t = some (found, rest) ↔
    t = found ++ rest ∧ Text.SameLetters k found ∧ Text.isWordBoundary found rest := by
  unfold matchOne?
  constructor
  · intro h
    split at h
    · next f r hm =>
      split at h
      · next hb =>
        cases h
        obtain ⟨ht, hs⟩ := Text.matchLetters?_eq_some_iff.1 hm
        exact ⟨ht, hs, hb⟩
      · cases h
    · cases h
  · rintro ⟨ht, hs, hb⟩
    rw [Text.matchLetters?_eq_some_iff.2 ⟨ht, hs⟩]
    exact if_pos hb

theorem exists_of_match?_eq_some (h : ks.match? t = some (found, rest)) :
    ∃ k ∈ ks.words, t = found ++ rest ∧ Text.SameLetters k found ∧
      Text.isWordBoundary found rest := by
  obtain ⟨k, hk, hm⟩ := List.exists_of_findSome?_eq_some h
  exact ⟨k, hk, matchOne?_eq_some_iff.1 hm⟩

theorem isWordBoundary_of_word (hword : ∀ c ∈ found, Text.isWordChar c) (hne : found ≠ []) :
    Text.isWordBoundary found rest = !Text.beginsWithWordChar rest := by
  obtain ⟨l, f, hf⟩ := List.exists_cons_of_ne_nil (List.reverse_ne_nil_iff.2 hne)
  have hl : Text.isWordChar l := hword l (by rw [← List.mem_reverse, hf]; exact List.mem_cons_self)
  rw [Text.isWordBoundary, hf]
  show (Text.isWordChar l != Text.beginsWithWordChar rest) = _
  rw [hl, Bool.true_bne]

/-- Word characters up to where the word ends are the longest front of word characters. -/
theorem takeWhile_word_append (hword : ∀ c ∈ found, Text.isWordChar c)
    (hrest : Text.beginsWithWordChar rest = false) :
    (found ++ rest).takeWhile Text.isWordChar = found ∧
      (found ++ rest).dropWhile Text.isWordChar = rest := by
  rw [List.takeWhile_append_of_pos hword, List.dropWhile_append_of_pos hword]
  cases rest with
  | nil => exact ⟨List.append_nil found, rfl⟩
  | cons c r =>
    have hc : Text.isWordChar c = false := hrest
    simp [hc]

/-- A keyword of letters, digits and low lines below 128. -/
structure IsPlain (k : Text) : Prop where
  ne_nil : k ≠ []
  plain : ∀ c ∈ k, Text.isPlainWordChar c

namespace IsPlain

theorem isWordChar_of_sameLetters (h : IsPlain k) (hs : Text.SameLetters k found) :
    ∀ c ∈ found, Text.isWordChar c := by
  intro c hc
  obtain ⟨a, ha, hac⟩ := hs.exists_of_mem hc
  exact Text.isWordChar_of_sameLetter (h.plain a ha) hac

theorem isBlank_eq_false (h : IsPlain k) : ∀ c ∈ k, Text.isBlank c = false := by
  intro c hc
  have hw := h.isWordChar_of_sameLetters (.refl k) c hc
  by_contra hb
  rw [Text.isWordChar_of_isBlank (by simpa using hb)] at hw
  cases hw

/-- **What a plain keyword finds** is the longest front of word characters. -/
theorem eq_of_matchOne? (h : IsPlain k) (hm : matchOne? k t = some (found, rest)) :
    found = t.takeWhile Text.isWordChar ∧ rest = t.dropWhile Text.isWordChar := by
  obtain ⟨rfl, hs, hb⟩ := matchOne?_eq_some_iff.1 hm
  have hword := h.isWordChar_of_sameLetters hs
  have hstop : Text.beginsWithWordChar rest = false := by
    rwa [isWordBoundary_of_word hword (hs.ne_nil h.ne_nil), Bool.not_eq_true'] at hb
  obtain ⟨htake, hdrop⟩ := takeWhile_word_append hword hstop
  exact ⟨htake.symm, hdrop.symm⟩

end IsPlain

/-- Among plain keywords, one that is spelled by the longest front of word characters finds it. -/
theorem match?_of_plain (hplain : ∀ k ∈ ks.words, IsPlain k) (hk : k ∈ ks.words)
    (hs : Text.SameLetters k (t.takeWhile Text.isWordChar)) :
    ks.match? t = some (t.takeWhile Text.isWordChar, t.dropWhile Text.isWordChar) := by
  have hm : matchOne? k t = some (t.takeWhile Text.isWordChar, t.dropWhile Text.isWordChar) := by
    refine matchOne?_eq_some_iff.2 ⟨List.takeWhile_append_dropWhile.symm, hs, ?_⟩
    have hk := hplain k hk
    rw [isWordBoundary_of_word (hk.isWordChar_of_sameLetters hs) (hs.ne_nil hk.ne_nil),
      Bool.not_eq_true']
    cases hr : t.dropWhile Text.isWordChar with
    | nil => rfl
    | cons c r =>
      have hc : c ∈ (t.dropWhile Text.isWordChar).head? := by rw [hr]; rfl
      exact show Text.isWordChar c = false from Text.eq_false_of_head?_dropWhile hc
  refine Text.findSome?_eq_some_of_forall hk hm fun k' hk' x hx => ?_
  obtain ⟨found, rest⟩ := x
  obtain ⟨rfl, rfl⟩ := (hplain k' hk').eq_of_matchOne? hx
  rfl

/-- **What plain keywords find** is the longest front of word characters, if it spells one of
them. -/
theorem match?_eq_some_iff_of_plain (hplain : ∀ k ∈ ks.words, IsPlain k) {x : Text × Text} :
    ks.match? t = some x ↔
      x = (t.takeWhile Text.isWordChar, t.dropWhile Text.isWordChar) ∧
        ∃ k ∈ ks.words, Text.SameLetters k (t.takeWhile Text.isWordChar) := by
  constructor
  · intro h
    obtain ⟨k, hk, hm⟩ := List.exists_of_findSome?_eq_some h
    obtain ⟨found, rest⟩ := x
    obtain ⟨rfl, rfl⟩ := (hplain k hk).eq_of_matchOne? hm
    exact ⟨rfl, k, hk, (matchOne?_eq_some_iff.1 hm).2.1⟩
  · rintro ⟨rfl, k, hk, hs⟩
    exact match?_of_plain hplain hk hs

/-- The same plain keywords in any order, and any number of times, find the same. -/
theorem match?_congr_of_plain {ks' : Keywords} (hplain : ∀ k ∈ ks.words, IsPlain k)
    (hsame : ∀ k, k ∈ ks.words ↔ k ∈ ks'.words) (t : Text) : ks.match? t = ks'.match? t := by
  have hplain' : ∀ k ∈ ks'.words, IsPlain k := fun k hk => hplain k ((hsame k).2 hk)
  refine Option.ext fun x => ?_
  rw [match?_eq_some_iff_of_plain hplain, match?_eq_some_iff_of_plain hplain']
  simp only [hsame]

/-- A plain keyword is found where it stands and no word character follows. -/
theorem match?_append_of_plain (hplain : ∀ k ∈ ks.words, IsPlain k) (hk : k ∈ ks.words)
    (hrest : Text.beginsWithWordChar rest = false) : ks.match? (k ++ rest) = some (k, rest) := by
  obtain ⟨htake, hdrop⟩ := takeWhile_word_append
    ((hplain k hk).isWordChar_of_sameLetters (.refl k)) hrest
  have hm := match?_of_plain (t := k ++ rest) hplain hk (by rw [htake]; exact .refl k)
  rwa [htake, hdrop] at hm

/-- Plain texts are all usable as they are. -/
theorem exists_ofTexts?_of_plain {texts : List Text} (hplain : ∀ p ∈ texts, IsPlain p)
    (hne : texts ≠ []) : ∃ ks, ofTexts? texts = some ks ∧ ks.words = texts := by
  have husable : usable texts = texts := by
    have hmap : texts.map Text.trim = texts := by
      refine (List.map_congr_left fun p hp => ?_).trans (List.map_id texts)
      exact Text.trim_of_solid (hplain p hp).isBlank_eq_false
    rw [usable, hmap, List.filter_eq_self]
    intro p hp
    simpa using (hplain p hp).ne_nil
  cases h : ofTexts? texts with
  | none =>
    rw [ofTexts?_eq_none, husable] at h
    exact absurd h hne
  | some ks => exact ⟨ks, rfl, (words_of_ofTexts? h).trans husable⟩

end CommentTasks.Keywords
