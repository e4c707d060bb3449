import CommentTasks.Proofs.Encoding.Utf8
import CommentTasks.Text.Blank
import CommentTasks.Text.Case
import CommentTasks.Text.Word
import Mathlib.Data.Bool.AllAny
import Mathlib.Data.List.Forall2
import Mathlib.Data.List.TakeWhile

/-!
# Letters up to case

`SameLetters` says that two texts have the same letters up to case, and reading a word at the front
of a text finds exactly the fronts with its letters: `matchLetters?_eq_some_iff`. Up to case the
characters below 128 are compared by their small forms, and only four others compare as one of them:
the dotted capital and the dotless small i, the long s, and the Kelvin sign.
-/

namespace CommentTasks.Text

/-! ### Words at the front of a text -/

/-- If all that is found is the same, it is what is found first. -/
theorem findSome?_eq_some_of_forall {α β : Type} {f : α → Option β} {l : List α} {a : α} {b : β}
    (ha : a ∈ l) (h : f a = some b) (hall : ∀ a' ∈ l, ∀ b', f a' = some b' → b' = b) :
    l.findSome? f = some b := by
  cases hl : l.findSome? f with
  | none =>
    have hn := List.findSome?_eq_none_iff.1 hl a ha
    rw [h] at hn
    cases hn
  | some b' =>
    obtain ⟨a', ha', hb⟩ := List.exists_of_findSome?_eq_some hl
    rw [hall a' ha' b' hb]

theorem sameLetter_iff {a c : Char} : sameLetter a c ↔ letterClass a = letterClass c := beq_iff_eq

@[simp] theorem sameLetter_self (c : Char) : sameLetter c c := sameLetter_iff.2 rfl

/-- The two texts have the same letters up to case. -/
def SameLetters (k m : Text) : Prop := List.Forall₂ (fun a c => sameLetter a c) k m

instance (k m : Text) : Decidable (SameLetters k m) := inferInstanceAs (Decidable (List.Forall₂ _ k m))

theorem SameLetters.refl (k : Text) : SameLetters k k := by
  induction k with
  | nil => exact .nil
  | cons a k ih => exact .cons (sameLetter_self a) ih

theorem SameLetters.ne_nil {k m : Text} (h : SameLetters k m) (hk : k ≠ []) : m ≠ [] := by
  rintro rfl
  exact hk (List.forall₂_nil_right_iff.1 h)

theorem SameLetters.exists_of_mem {k m : Text} {c : Char} (h : SameLetters k m) (hc : c ∈ m) :
    ∃ a ∈ k, sameLetter a c := by
  induction h with
  | nil => cases hc
  | cons hs _ ih =>
    rcases List.mem_cons.1 hc with rfl | hc
    · exact ⟨_, List.mem_cons_self, hs⟩
    · obtain ⟨a, ha, hac⟩ := ih hc
      exact ⟨a, List.mem_cons_of_mem _ ha, hac⟩

theorem matchLetters?_eq_some_iff {k t m rest : Text} :
    matchLetters? k t = some (m, rest) ↔ t = m ++ rest ∧ SameLetters k m := by
  induction k generalizing t m with
  | nil =>
    rw [matchLetters?]
    constructor
    · intro h
      cases h
      exact ⟨rfl, .nil⟩
    · rintro ⟨rfl, hm⟩
      cases hm
      rfl
  | cons a k ih =>
    cases t with
    | nil =>
      rw [matchLetters?]
      constructor
      · intro h
        cases h
      · rintro ⟨h, hm⟩
        cases hm
        cases h
    | cons c t =>
      rw [matchLetters?]
      constructor
      · intro h
        split at h
        · next hc =>
          obtain ⟨⟨m', r⟩, hm, he⟩ := Option.map_eq_some_iff.1 h
          cases he
          obtain ⟨rfl, hs⟩ := ih.1 hm
          exact ⟨rfl, .cons hc hs⟩
        · cases h
      · rintro ⟨h, hm⟩
        cases hm with
        | @cons _ c' _ m' hc hs =>
          obtain ⟨rfl, ht⟩ := List.cons.inj h
          rw [if_pos hc, ih.2 ⟨ht, hs⟩]
          rfl

theorem matchLetters?_cons_of_not {a c : Char} (h : sameLetter a c = false) (k t : Text) :
    matchLetters? (a :: k) (c :: t) = none := by
  rw [matchLetters?, h]
  rfl

/-! ### Characters below 128 -/

/-- An image comes from a run that holds the code point. -/
theorem exists_of_caseImage?_eq_some {n m : Nat} {ranges : List CaseRange}
    (h : caseImage? n ranges = some m) :
    ∃ r ∈ ranges, r.first ≤ n ∧ n ≤ r.last ∧ (n - r.first) % r.stride = 0 ∧
      m = r.image + (n - r.first) := by
  induction ranges with
  | nil => cases h
  | cons r rest ih =>
    rw [caseImage?] at h
    split at h
    · cases h
    · next hn =>
      split at h
      · next hl =>
        cases h
        exact ⟨r, List.mem_cons_self, Nat.not_lt.1 hn, hl.1, hl.2, rfl⟩
      · obtain ⟨r, hr, hrest⟩ := ih h
        exact ⟨r, List.mem_cons_of_mem _ hr, hrest⟩

/-- A capital letter comes with the run that holds it and with its small letter; all other letters
are their own small letters. -/
theorem smallLetter_cases (c : Char) :
    (c = '\u0130' ∧ smallLetter c = 'i') ∨ smallLetter c = c ∨
      ∃ r ∈ smallRanges, r.first ≤ c.toNat ∧ c.toNat ≤ r.last ∧
        (c.toNat - r.first) % r.stride = 0 ∧
        (smallLetter c).toNat = r.image + (c.toNat - r.first) := by
  have hvalid : ∀ r ∈ smallRanges, r.image + (r.last - r.first) < 0xD800 ∨
      0xDFFF < r.image ∧ r.image + (r.last - r.first) < 0x110000 := by
    decide +kernel
  by_cases hc : c = '\u0130'
  · subst hc
    exact .inl ⟨rfl, rfl⟩
  · have hs : smallLetter c = ((caseImage? c.toNat smallRanges).map Char.ofNat).getD c :=
      if_neg (by simpa using hc)
    rw [hs]
    cases h : caseImage? c.toNat smallRanges with
    | none => exact .inr (.inl rfl)
    | some m =>
      obtain ⟨r, hr, hf, hl, hd, rfl⟩ := exists_of_caseImage?_eq_some h
      have hvalid := hvalid r hr
      exact .inr (.inr ⟨r, hr, hf, hl, hd, Utf8.toNat_ofNat (by omega)⟩)

theorem letterClass_cases (c : Char) :
    (∃ v ∈ letterVariants, v.1 = smallLetter c ∧ letterClass c = v.2) ∨
      letterClass c = smallLetter c := by
  unfold letterClass
  cases h : letterVariants.lookup (smallLetter c) with
  | none => exact .inr rfl
  | some v =>
    obtain ⟨front, back, hl, -⟩ := List.lookup_eq_some_iff.1 h
    exact .inl ⟨(smallLetter c, v), by simp [hl], rfl, rfl⟩

/-- What holds of all characters below 128 can be checked one by one. -/
theorem forall_ascii {P : Char → Prop} (h : ∀ n < 128, P (Char.ofNat n)) (c : Char)
    (hc : c.toNat < 128) : P c := by
  have hp := h c.toNat hc
  rwa [Char.ofNat_toNat] at hp

theorem smallLetter_of_ascii : ∀ c : Char, c.toNat < 128 → smallLetter c = c.toLower :=
  forall_ascii (by decide +kernel)

theorem letterClass_of_ascii : ∀ c : Char, c.toNat < 128 → letterClass c = c.toLower :=
  forall_ascii (by decide +kernel)

theorem ascii_of_toLower {c : Char} (h : c.toLower.toNat < 128) : c.toNat < 128 := by
  unfold Char.toLower at h
  split at h
  · next hc =>
    have hle : c.toNat ≤ 'Z'.toNat := hc.2
    have hz : 'Z'.toNat = 90 := rfl
    omega
  · exact h

theorem sameLetter_toLower {c : Char} (h : c.toLower.toNat < 128) : sameLetter c.toLower c := by
  have hc := ascii_of_toLower h
  rw [sameLetter_iff, letterClass_of_ascii _ h, letterClass_of_ascii c hc]
  exact forall_ascii (P := fun c => c.toLower.toLower = c.toLower) (by decide) c hc

theorem sameLetter_ascii_iff {a c : Char} (ha : a.toNat < 128) (hc : c.toNat < 128) :
    sameLetter a c ↔ a.toLower = c.toLower := by
  rw [sameLetter_iff, letterClass_of_ascii a ha, letterClass_of_ascii c hc]

theorem sameLetters_toLower {m : Text} (h : ∀ c ∈ m, c.toLower.toNat < 128) :
    SameLetters (m.map Char.toLower) m := by
  induction m with
  | nil => exact .nil
  | cons c m ih =>
    rw [List.forall_mem_cons] at h
    exact .cons (sameLetter_toLower h.1) (ih h.2)

/-- The characters from 128 on that compare as one below, with that one. -/
def asciiVariants : List (Char × Char) :=
  [('\u0130', 'i'), ('\u0131', 'i'), ('\u017f', 's'), ('\u212a', 'k')]

/-- **What compares as a character below 128** is a character below 128 or one of four others. -/
theorem ascii_or_mem_asciiVariants {c : Char} (h : (letterClass c).toNat < 128) :
    c.toNat < 128 ∨ (c, letterClass c) ∈ asciiVariants := by
  have hvariants : ∀ v ∈ letterVariants, v.2.toNat < 128 → v ∈ asciiVariants := by decide +kernel
  have hexotic : ∀ n ∈ [304, 8490], (Char.ofNat n, letterClass (Char.ofNat n)) ∈ asciiVariants := by
    decide +kernel
  -- the small letters of the other capital letters lie beyond 128, and are none of the variants
  have hruns : ∀ r ∈ smallRanges, r.last < 128 ∨ (r.first = 8490 ∧ r.last = 8490) ∨
      (128 ≤ r.image ∧ ∀ v ∈ letterVariants, v.2.toNat < 128 →
        v.1.toNat < r.image ∨ r.image + (r.last - r.first) < v.1.toNat) := by
    decide +kernel
  rcases smallLetter_cases c with ⟨rfl, -⟩ | hs | ⟨r, hr, hfirst, hlast, -, hs⟩
  · exact .inr (hexotic 304 (by decide))
  · rcases letterClass_cases c with ⟨v, hv, hvs, hvc⟩ | hc
    · rw [hvc] at h
      have hm := hvariants v hv h
      rw [hs] at hvs
      rw [hvc, ← hvs]
      exact .inr hm
    · rw [hc, hs] at h
      exact .inl h
  · rcases hruns r hr with hlow | ⟨hf, hl⟩ | ⟨himage, hnone⟩
    · exact .inl (by omega)
    · have hn : c.toNat = 8490 := by omega
      have he := hexotic 8490 (by decide)
      rw [← hn, Char.ofNat_toNat] at he
      exact .inr he
    · rcases letterClass_cases c with ⟨v, hv, hvs, hvc⟩ | hc
      · rw [hvc] at h
        have hv := hnone v hv h
        rw [hvs, hs] at hv
        omega
      · rw [hc, hs] at h
        omega

/-- The spellings of a character below 128. -/
theorem spelling_cases {a c : Char} (ha : a.toNat < 128) (h : sameLetter a c) :
    (c.toNat < 128 ∧ c.toLower = a.toLower) ∨ (c, a.toLower) ∈ asciiVariants := by
  have hclass : letterClass c = a.toLower :=
    (sameLetter_iff.1 h).symm.trans (letterClass_of_ascii a ha)
  have hlow : (letterClass c).toNat < 128 := by
    rw [hclass]
    exact forall_ascii (P := fun a => a.toLower.toNat < 128) (by decide) a ha
  rcases ascii_or_mem_asciiVariants hlow with hc | hc
  · exact .inl ⟨hc, (letterClass_of_ascii c hc).symm.trans hclass⟩
  · exact .inr (hclass ▸ hc)

theorem eq_of_sameLetter {a c : Char} (ha : a.toNat < 128) (hletter : a.isAlpha = false)
    (h : sameLetter a c) : c = a := by
  have hsmall : ∀ c : Char, c.toNat < 128 → c.toLower.isAlpha = c.isAlpha ∧
      (c.isAlpha = false → c.toLower = c) :=
    forall_ascii (by decide)
  have hvariants : ∀ v ∈ asciiVariants, v.2.isAlpha := by decide
  have hlower := (hsmall a ha).2 hletter
  rcases spelling_cases ha h with ⟨hc, hca⟩ | hc
  · have hcletter : c.isAlpha = false := by
      rw [← (hsmall c hc).1, hca, hlower, hletter]
    rw [← (hsmall c hc).2 hcletter, hca, hlower]
  · have hv := hvariants _ hc
    rw [hlower, hletter] at hv
    cases hv

/-! ### Small forms -/

/-- The small form of a letter that is no capital sigma. -/
def smallForm (c : Char) : Text := if c = '\u0130' then ['i', '\u0307'] else [smallLetter c]

/-- Without a capital sigma, letters have their small forms wherever they stand. -/
theorem lower_eq_flatMap {t : Text} (h : '\u03a3' ∉ t) : lower t = t.flatMap smallForm := by
  have hafter (before : Text) : lowerAfter before t = t.flatMap smallForm := by
    induction t generalizing before with
    | nil => rfl
    | cons c t ih =>
      rw [List.mem_cons, not_or] at h
      rw [lowerAfter, ih h.2, if_neg (by simpa using Ne.symm h.1), List.flatMap_cons, smallForm]
      simp only [beq_iff_eq]
  exact hafter []

theorem smallForm_of_ascii {c : Char} (h : c.toNat < 128) : smallForm c = [c.toLower] := by
  have hdotted : c ≠ '\u0130' := by
    rintro rfl
    exact absurd h (by decide)
  rw [smallForm, if_neg hdotted, smallLetter_of_ascii c h]

theorem lower_of_ascii {t : Text} (h : ∀ c ∈ t, c.toNat < 128) : lower t = t.map Char.toLower := by
  rw [lower_eq_flatMap fun hs => absurd (h _ hs) (by decide), List.map_eq_flatMap]
  exact List.flatMap_congr fun c hc => smallForm_of_ascii (h c hc)

/-- A small letter below 128 is the small form of a character below 128, of the dotted capital I or
of the Kelvin sign. -/
theorem ascii_of_smallLetter {c : Char} (h : (smallLetter c).toNat < 128) :
    c.toNat < 128 ∨ c = '\u0130' ∨ c = '\u212a' := by
  have hruns : ∀ r ∈ smallRanges, r.last < 128 ∨ (r.first = 8490 ∧ r.last = 8490) ∨ 128 ≤ r.image := by
    decide +kernel
  rcases smallLetter_cases c with ⟨hc, -⟩ | hs | ⟨r, hr, hfirst, hlast, -, hs⟩
  · exact .inr (.inl hc)
  · exact .inl (hs ▸ h)
  · rcases hruns r hr with hlow | ⟨hf, hl⟩ | himage
    · exact .inl (by omega)
    · have hn : c.toNat = 8490 := by omega
      refine .inr (.inr ?_)
      rw [← Char.ofNat_toNat c, hn]
    · omega

/-- A text whose small form lies below 128 lies below 128 itself, if the small form has no k. -/
theorem ascii_of_lower {t : Text} (h : ∀ c ∈ lower t, c.toNat < 128 ∧ c ≠ 'k') :
    ∀ c ∈ t, c.toNat < 128 := by
  unfold lower at h
  generalize [] = before at h
  induction t generalizing before with
  | nil => simp
  | cons c t ih =>
    rw [lowerAfter, List.forall_mem_append] at h
    refine List.forall_mem_cons.2 ⟨?_, ih _ h.2⟩
    have hsmall := h.1
    split at hsmall
    · -- neither small sigma lies below 128
      split at hsmall <;> exact absurd (hsmall _ List.mem_cons_self).1 (by decide)
    · split at hsmall
      · exact absurd (hsmall '\u0307' (by simp)).1 (by decide)
      · next hdotted =>
        obtain ⟨hlow, hk⟩ := hsmall _ (List.mem_singleton_self _)
        rcases ascii_of_smallLetter hlow with hc | hc | rfl
        · exact hc
        · exact absurd hc (by simpa using hdotted)
        · exact absurd (by decide +kernel) hk

/-- **The texts with a small form below 128** and without a k differ from it in capital letters
alone. -/
theorem lower_eq_iff_of_ascii {t w : Text} (hw : ∀ c ∈ w, c.toNat < 128 ∧ c ≠ 'k') :
    lower t = w ↔ t.map Char.toLower = w := by
  constructor
  · rintro rfl
    exact (lower_of_ascii (ascii_of_lower hw)).symm
  · rintro rfl
    refine lower_of_ascii fun c hc => ascii_of_toLower ?_
    exact (hw _ (List.mem_map_of_mem hc)).1

/-! ### Word characters and blanks -/

/-- A letter, a digit or the low line, of the first 128 characters. -/
def isPlainWordChar (c : Char) : Bool := c.isAlphanum || c == '_'

theorem ascii_of_isPlainWordChar {c : Char} (h : isPlainWordChar c) : c.toNat < 128 := by
  rw [isPlainWordChar, Bool.or_eq_true, beq_iff_eq] at h
  rcases h with h | rfl
  · have h : (decide (c.val ≥ 'A'.val ∧ c.val ≤ 'Z'.val) ||
        (decide (c.val ≥ 'a'.val) && decide (c.val ≤ 'z'.val)) ||
        (decide (c.val ≥ '0'.val) && decide (c.val ≤ '9'.val))) = true := h
    simp only [Bool.or_eq_true, Bool.and_eq_true, decide_eq_true_eq, UInt32.le_iff_toNat_le] at h
    rcases h with (⟨-, h⟩ | ⟨-, h⟩) | ⟨-, h⟩ <;> exact Nat.lt_of_le_of_lt h (by decide)
  · decide

theorem isWordChar_of_sameLetter {a c : Char} (ha : isPlainWordChar a) (h : sameLetter a c) :
    isWordChar c := by
  have hlow := ascii_of_isPlainWordChar ha
  rcases spelling_cases hlow h with ⟨hc, hlower⟩ | hc
  · have hplain : ∀ c : Char, c.toNat < 128 → isPlainWordChar c.toLower = isPlainWordChar c :=
      forall_ascii (by decide)
    have hword : ∀ c : Char, c.toNat < 128 → isPlainWordChar c → isWordChar c :=
      forall_ascii (by decide)
    refine hword c hc ?_
    rw [← hplain c hc, hlower, hplain a hlow]
    exact ha
  · have hvariants : ∀ v ∈ asciiVariants, isWordChar v.1 := by decide +kernel
    exact hvariants _ hc

/-- The code points of the blanks. -/
def blankCodes : List Nat :=
  List.range' 9 5 ++ List.range' 28 5 ++ [0x85, 0xA0, 0x1680] ++ List.range' 0x2000 11 ++
    [0x2028, 0x2029, 0x202F, 0x205F, 0x3000]

theorem mem_blankCodes {c : Char} (h : isBlank c) : c.toNat ∈ blankCodes := by
  simp [isBlank, blankCodes] at h ⊢
  omega

theorem isWordChar_of_isBlank {c : Char} (h : isBlank c) : isWordChar c = false := by
  have hblanks : ∀ n ∈ blankCodes, isWordChar (Char.ofNat n) = false := by
    decide +kernel
  have hc := hblanks c.toNat (mem_blankCodes h)
  rwa [Char.ofNat_toNat] at hc

end CommentTasks.Text
