import CommentTasks.Proofs.Text.Letters
import CommentTasks.Proofs.Text.Squeeze
import CommentTasks.Source.Extension

/-!
# Files without a suffix

A file without a suffix is chosen by its whole name. The name is looked for behind a dot, but the
common form of an extension gets a dot only if it does not begin with one. A name that begins with a
dot is therefore not chosen by itself: it has to be listed with one dot more, see
`matchesExtension_of_no_suffix`.
-/

namespace CommentTasks

namespace Text

/-! ### A dot at the front, in small letters -/

/-- Nothing but the dot has the dot as its small letter. -/
theorem smallLetter_eq_dot_iff {c : Char} : smallLetter c = '.' ↔ c = '.' := by
  constructor
  · intro h
    have hlow : (smallLetter c).toNat < 128 := by
      rw [h]
      decide
    rcases ascii_of_smallLetter hlow with hc | rfl | rfl
    · exact forall_ascii (P := fun c => smallLetter c = '.' → c = '.') (by decide +kernel) c hc h
    · exact absurd h (by decide)
    · exact absurd h (by decide +kernel)
  · rintro rfl
    decide

theorem head?_lower_eq_dot_iff {t : Text} : (lower t).head? = some '.' ↔ t.head? = some '.' := by
  cases t with
  | nil => rfl
  | cons c t =>
    rw [lower, lowerAfter, List.head?_cons, Option.some_inj]
    split
    · next h =>
      rw [beq_iff_eq.1 h]
      split <;> simp
    · split
      · next h =>
        rw [beq_iff_eq.1 h]
        simp
      · simpa using smallLetter_eq_dot_iff

theorem lower_ne_nil {t : Text} (h : t ≠ []) : lower t ≠ [] := by
  cases t with
  | nil => exact absurd rfl h
  | cons c t =>
    rw [lower, lowerAfter]
    refine List.append_ne_nil_of_left_ne_nil ?_ _
    split <;> split <;> exact List.cons_ne_nil _ _

/-- A sigma takes no notice of a dot at the far end of what stands in front of it. -/
theorem sigmaNeighbourIsCased_append_dot (before : Text) :
    sigmaNeighbourIsCased (before ++ ['.']) = sigmaNeighbourIsCased before := by
  have hdot : inRanges '.'.toNat caseIgnorableRanges = true := by decide +kernel
  unfold sigmaNeighbourIsCased
  rw [List.dropWhile_append]
  cases before.dropWhile fun c => inRanges c.toNat caseIgnorableRanges with
  | nil =>
    have hdrop : (['.'].dropWhile fun c => inRanges c.toNat caseIgnorableRanges) = [] :=
      List.dropWhile_cons_of_pos (p := fun c : Char => inRanges c.toNat caseIgnorableRanges) hdot
    rw [List.isEmpty_nil, if_pos rfl, hdrop]
  | cons c rest => rfl

theorem lower_dot_cons (t : Text) : lower ('.' :: t) = '.' :: lower t := by
  have hafter (before : Text) : lowerAfter (before ++ ['.']) t = lowerAfter before t := by
    induction t generalizing before with
    | nil => rfl
    | cons c t ih =>
      rw [lowerAfter, lowerAfter, sigmaNeighbourIsCased_append_dot, ← List.cons_append, ih]
  have hdot : smallLetter '.' = '.' := smallLetter_eq_dot_iff.2 rfl
  rw [lower, lowerAfter, if_neg (by decide), if_neg (by decide), hdot]
  exact congrArg (List.cons '.') (hafter [])

end Text

/-- A text without slashes is written as the path of one name, which is the text. -/
theorem PathName.name_ofText {name : Text} (hne : name ≠ []) (hdot : name ≠ ['.'])
    (hslash : '/' ∉ name) : (PathName.ofText name).name = name := by
  have hsplit : name.splitOn '/' = [name] :=
    List.splitOnP_eq_singleton fun c hc => by
      simp only [beq_eq_false_iff_ne]
      rintro rfl
      exact hslash hc
  rw [PathName.name, PathName.ofText, PathName.namesOf, hsplit, List.filter_singleton]
  simp [hne, hdot]

/-! ### Extensions in their common form -/

theorem mem_normalExtensions_iff {extensions : List Text} {t : Text} :
    t ∈ normalExtensions extensions ↔
      ∃ e ∈ extensions, Text.lower (Text.trim e) ≠ [] ∧ withDot (Text.lower (Text.trim e)) = t := by
  simp [normalExtensions, and_assoc]

/-- What is listed behind a dot in the common form was listed behind it, or without it unless it
begins with a dot itself. -/
theorem withDot_eq_cons_iff {e t : Text} :
    withDot e = '.' :: t ↔ e = '.' :: t ∨ (beginsWithDot t = false ∧ e = t) := by
  unfold withDot
  split
  · next h =>
    constructor
    · exact .inl
    · rintro (h' | ⟨ht, rfl⟩)
      · exact h'
      · rw [ht] at h
        cases h
  · next h =>
    constructor
    · intro he
      rw [List.cons.injEq] at he
      exact .inr ⟨by rw [← he.2]; simpa using h, he.2⟩
    · rintro (rfl | ⟨-, rfl⟩)
      · exact absurd (by simp [beginsWithDot]) h
      · rfl

theorem beginsWithDot_lower (t : Text) : beginsWithDot (Text.lower t) = beginsWithDot t := by
  simp only [beginsWithDot, Text.head?_lower_eq_dot_iff]

/-- A name without a suffix is chosen by what is listed in its letters behind a dot, and by what is
listed in its letters unless it begins with a dot. -/
theorem matchesExtension_normalExtensions_iff (extensions : List Text) {name : Text} (hne : name ≠ [])
    (hsuffix : PathName.suffixOf name = []) :
    matchesExtension (normalExtensions extensions) name ↔
      ∃ e ∈ extensions, Text.lower (Text.trim e) = '.' :: Text.lower name ∨
        (beginsWithDot name = false ∧ Text.lower (Text.trim e) = Text.lower name) := by
  have hlower := Text.lower_ne_nil hne
  rw [matchesExtension, hsuffix]
  simp only [show Text.lower [] = [] from rfl, if_true, List.contains_iff_mem,
    mem_normalExtensions_iff, withDot_eq_cons_iff, beginsWithDot_lower]
  refine exists_congr fun e => and_congr_right fun _ => ⟨And.right, fun h => ⟨?_, h⟩⟩
  rcases h with h | ⟨-, h⟩
  · rw [h]
    exact List.cons_ne_nil _ _
  · rwa [h]

/-- **Choosing a file without a suffix by its name.** A file name without blanks at its ends and
without a suffix is chosen by exactly the extensions that are, in small letters, its name behind a
dot or its name itself, the latter only if it does not begin with a dot. So the name behind a dot
always chooses the file, but the name itself chooses it exactly if it does not begin with a dot. -/
theorem matchesExtension_of_no_suffix {name : Text} (hne : name ≠ []) (hdot : name ≠ ['.'])
    (hslash : '/' ∉ name) (htrim : Text.IsTrimmed name) (hsuffix : (PathName.ofText name).suffix = []) :
    (∀ extensions, matchesExtension (normalExtensions extensions) (PathName.ofText name).name ↔
      ∃ e ∈ extensions, Text.lower (Text.trim e) = '.' :: Text.lower name ∨
        (beginsWithDot name = false ∧ Text.lower (Text.trim e) = Text.lower name)) ∧
    matchesExtension (normalExtensions ['.' :: name]) (PathName.ofText name).name ∧
    (matchesExtension (normalExtensions [name]) (PathName.ofText name).name ↔
      beginsWithDot name = false) := by
  have hname := PathName.name_ofText hne hdot hslash
  rw [PathName.suffix, hname] at hsuffix
  rw [hname]
  have hiff (extensions : List Text) := matchesExtension_normalExtensions_iff extensions hne hsuffix
  have hbehind : Text.trim ('.' :: name) = '.' :: name := by
    refine Text.IsTrimmed.trim_eq ⟨?_, ?_⟩
    · rintro c ⟨⟩
      decide
    · rw [List.getLast?_cons, List.getLast?_eq_some_getLast hne]
      exact fun c hc => htrim.last c (by rwa [List.getLast?_eq_some_getLast hne])
  refine ⟨hiff, (hiff _).2 ⟨_, List.mem_singleton_self _, .inl ?_⟩, (hiff _).trans ?_⟩
  · rw [hbehind, Text.lower_dot_cons]
  · constructor
    · rintro ⟨e, he, h⟩
      rw [List.mem_singleton.1 he, htrim.trim_eq] at h
      -- the small form is not longer than itself
      rcases h with h | ⟨h, -⟩
      · exact absurd (congrArg List.length h) (by simp)
      · exact h
    · exact fun h => ⟨name, List.mem_singleton_self _, .inr ⟨h, by rw [htrim.trim_eq]⟩⟩

/-- A makefile is chosen by its name; a file whose name begins with a dot is not. -/
theorem matchesExtension_of_no_suffix_hidden :
    matchesExtension (normalExtensions ["Makefile".toList]) (PathName.ofText "Makefile".toList).name ∧
    matchesExtension (normalExtensions ["..env".toList]) (PathName.ofText ".env".toList).name ∧
    matchesExtension (normalExtensions [".env".toList]) (PathName.ofText ".env".toList).name = false := by
  have hmake : Text.IsTrimmed "Makefile".toList := Text.trim_eq_self_iff.1 (by decide)
  have henv : Text.IsTrimmed ".env".toList := Text.trim_eq_self_iff.1 (by decide)
  obtain ⟨-, -, hplain⟩ :=
    matchesExtension_of_no_suffix (by decide) (by decide) (by decide) hmake (by decide)
  obtain ⟨-, hbehind, hhidden⟩ :=
    matchesExtension_of_no_suffix (by decide) (by decide) (by decide) henv (by decide)
  refine ⟨hplain.2 (by decide), hbehind, ?_⟩
  rw [Bool.eq_false_iff]
  exact fun h => absurd (hhidden.1 h) (by decide)

end CommentTasks
