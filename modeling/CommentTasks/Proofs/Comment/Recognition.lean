import CommentTasks.Comment.Block
import CommentTasks.Proofs.Comment.Append
import CommentTasks.Proofs.Comment.Keyword
import CommentTasks.Proofs.Text.Capitals
import CommentTasks.Proofs.Text.Squeeze

/-!
# Which keyword is recognised

Keywords are tried in their order, and the first that fits counts
(`findSome?_matchOne?_eq_some_iff`). A keyword that ends with a word character fits where it stands
by itself; but one that is tried before may fit as well, with another front of the text, and then
that is found (`lineTasks_of_keyword`). Among keywords of word characters no two fit different
fronts, so for plain keywords neither order nor repetition matters (`parse?_of_same_keywords`).
-/

namespace CommentTasks

namespace Keywords

variable {ks : Keywords} {keywords : List Text} {k p t found rest : Text}

/-- The keyword fits a front of the text: the front has its letters, and a word begins or ends
behind. -/
def Fits (k t found : Text) : Prop :=
  ∃ rest, t = found ++ rest ∧ Text.SameLetters k found ∧ Text.isWordBoundary found rest

theorem fits_iff : Fits k t found ↔ ∃ rest, matchOne? k t = some (found, rest) :=
  exists_congr fun _ => matchOne?_eq_some_iff.symm

theorem matchOne?_eq_none_iff : matchOne? k t = none ↔ ∀ found, ¬Fits k t found := by
  simp only [fits_iff, Option.eq_none_iff_forall_ne_some, not_exists, Prod.forall, ne_eq]

/-- The first of the keywords that fits at all fits this front of the text. -/
def FirstFit (keywords : List Text) (t found : Text) : Prop :=
  ∃ front p back, keywords = front ++ p :: back ∧ Fits p t found ∧ ∀ q ∈ front, ∀ f, ¬Fits q t f

/-- **What is found** is what the first keyword fits that fits at all. -/
theorem findSome?_matchOne?_eq_some_iff :
    keywords.findSome? (fun k => matchOne? k t) = some (found, rest) ↔
      FirstFit keywords t found ∧ t = found ++ rest := by
  simp only [List.findSome?_eq_some_iff, matchOne?_eq_none_iff]
  constructor
  · rintro ⟨front, p, back, hwords, hp, hfront⟩
    exact ⟨⟨front, p, back, hwords, fits_iff.2 ⟨rest, hp⟩, hfront⟩, (matchOne?_eq_some_iff.1 hp).1⟩
  · rintro ⟨⟨front, p, back, hwords, ⟨rest', ht, hp⟩, hfront⟩, ht'⟩
    obtain rfl : rest' = rest := List.append_cancel_left (ht.symm.trans ht')
    exact ⟨front, p, back, hwords, matchOne?_eq_some_iff.2 ⟨ht, hp⟩, hfront⟩

theorem match?_eq_some_iff :
    ks.match? t = some (found, rest) ↔ FirstFit ks.words t found ∧ t = found ++ rest :=
  findSome?_matchOne?_eq_some_iff

theorem match?_eq_none_iff : ks.match? t = none ↔ ∀ p ∈ ks.words, ∀ found, ¬Fits p t found := by
  simp only [match?, List.findSome?_eq_none_iff, matchOne?_eq_none_iff]

/-- Of keywords of which one fits, one is the first. -/
theorem exists_firstFit (hp : p ∈ keywords) (hfits : Fits p t found) :
    ∃ found, FirstFit keywords t found := by
  cases h : keywords.findSome? fun k => matchOne? k t with
  | none =>
    have hnone := List.findSome?_eq_none_iff.1 h p hp
    exact absurd hfits (matchOne?_eq_none_iff.1 hnone found)
  | some x => exact ⟨x.1, (findSome?_matchOne?_eq_some_iff.1 h).1⟩

theorem FirstFit.append (h : FirstFit keywords t found) (more : List Text) :
    FirstFit (keywords ++ more) t found := by
  obtain ⟨front, p, back, rfl, hp, hfront⟩ := h
  exact ⟨front, p, back ++ more, by simp, hp, hfront⟩

theorem FirstFit.isPrefix (h : FirstFit keywords t found) : found <+: t := by
  obtain ⟨-, -, -, -, ⟨rest, ht, -⟩, -⟩ := h
  exact ⟨rest, ht.symm⟩

theorem FirstFit.unique (h : FirstFit keywords t found) {found' : Text}
    (h' : FirstFit keywords t found') : found = found' := by
  obtain ⟨rest, ht⟩ := h.isPrefix
  obtain ⟨rest', ht'⟩ := h'.isPrefix
  have hfind := findSome?_matchOne?_eq_some_iff.2 ⟨h, ht.symm⟩
  rw [findSome?_matchOne?_eq_some_iff.2 ⟨h', ht'.symm⟩] at hfind
  cases hfind
  rfl

/-! ### Where a keyword stands itself -/

/-- The keywords that are tried before any with the letters of the given one. -/
def triedBefore (ks : Keywords) (k : Text) : List Text :=
  ks.words.takeWhile fun p => ¬Text.SameLetters p k

theorem mem_triedBefore (h : p ∈ ks.triedBefore k) : p ∈ ks.words ∧ ¬Text.SameLetters p k :=
  ⟨(List.takeWhile_prefix _).mem h, by simpa using List.mem_takeWhile_imp h⟩

theorem exists_words_eq (hk : k ∈ ks.words) :
    ∃ p back, ks.words = ks.triedBefore k ++ p :: back ∧ Text.SameLetters p k := by
  have hwords : ks.triedBefore k ++ ks.words.dropWhile _ = ks.words :=
    List.takeWhile_append_dropWhile
  cases hd : ks.words.dropWhile fun p => ¬Text.SameLetters p k with
  | nil =>
    have hall := List.dropWhile_eq_nil_iff.1 hd k hk
    exact absurd (Text.SameLetters.refl k) (by simpa using hall)
  | cons p back =>
    have hp : p ∈ (ks.words.dropWhile fun p => ¬Text.SameLetters p k).head? := by rw [hd]; rfl
    refine ⟨p, back, ?_, by simpa using Text.eq_false_of_head?_dropWhile hp⟩
    rw [← hd]
    exact hwords.symm

/-- A keyword with the letters of the text it stands before fits no other front. -/
theorem Fits.eq_of_sameLetters (h : Fits p (k ++ rest) found) (hs : Text.SameLetters p k) :
    found = k := by
  obtain ⟨rest', ht, hfound, -⟩ := h
  have hlength : k.length = found.length := hs.length_eq.symm.trans hfound.length_eq
  exact (List.append_inj_left ht hlength).symm

/-- **What is found where a keyword fits itself**: the keyword, unless one that is tried before
fits. -/
theorem firstFit_words (hk : k ∈ ks.words) (hfits : Fits k (k ++ rest) k) :
    (FirstFit ks.words (k ++ rest) k ∧ ∀ p ∈ ks.triedBefore k, ∀ f, ¬Fits p (k ++ rest) f) ∨
      ∃ found, found ≠ k ∧ FirstFit ks.words (k ++ rest) found ∧
        FirstFit (ks.triedBefore k) (k ++ rest) found := by
  obtain ⟨p, back, hwords, hp⟩ := exists_words_eq hk
  by_cases hnone : ∀ p ∈ ks.triedBefore k, ∀ f, ¬Fits p (k ++ rest) f
  · obtain ⟨rest', ht, -, hb⟩ := hfits
    exact .inl ⟨⟨_, p, back, hwords, ⟨rest', ht, hp, hb⟩, hnone⟩, hnone⟩
  · push Not at hnone
    obtain ⟨q, hq, f, hf⟩ := hnone
    obtain ⟨found, hfirst⟩ := exists_firstFit hq hf
    refine .inr ⟨found, ?_, by rw [hwords]; exact hfirst.append _, hfirst⟩
    rintro rfl
    obtain ⟨front, q, back', hbefore, ⟨-, -, hs, -⟩, -⟩ := hfirst
    have hq : q ∈ ks.triedBefore found := by rw [hbefore]; simp
    exact (mem_triedBefore hq).2 hs

theorem exists_ofTexts?_of_mem {texts : List Text} (hk : k ∈ texts) (hne : k ≠ [])
    (htrim : Text.trim k = k) : ∃ ks, ofTexts? texts = some ks ∧ k ∈ ks.words := by
  have husable : k ∈ usable texts :=
    List.mem_filter.2 ⟨List.mem_map.2 ⟨k, hk, htrim⟩, by simpa using hne⟩
  cases h : ofTexts? texts with
  | none =>
    rw [ofTexts?_eq_none.1 h] at husable
    cases husable
  | some ks => exact ⟨ks, rfl, by rwa [words_of_ofTexts? h]⟩

/-- Behind a text that no word character follows a word ends if it ends with a word character. -/
theorem isWordBoundary_iff (hrest : Text.beginsWithWordChar rest = false) :
    Text.isWordBoundary k rest ↔ ∃ c ∈ k.getLast?, Text.isWordChar c := by
  rw [Text.isWordBoundary, hrest, Bool.bne_false, List.getLast?_eq_head?_reverse]
  cases k.reverse with
  | nil => simp [Text.beginsWithWordChar]
  | cons c r => simp [Text.beginsWithWordChar]

theorem fits_self_iff (hrest : Text.beginsWithWordChar rest = false) :
    Fits k (k ++ rest) k ↔ ∃ c ∈ k.getLast?, Text.isWordChar c := by
  rw [← isWordBoundary_iff hrest]
  constructor
  · rintro ⟨rest', ht, -, hb⟩
    obtain rfl := List.append_cancel_left ht
    exact hb
  · exact fun hb => ⟨rest, rfl, .refl k, hb⟩

/-- Where a keyword fits itself, what is found has its capital form only if none before it fits. -/
theorem FirstFit.upper_eq_iff (h : FirstFit ks.words (k ++ rest) found) (hk : k ∈ ks.words)
    (hfits : Fits k (k ++ rest) k) :
    Text.upper found = Text.upper k ↔ ∀ p ∈ ks.triedBefore k, ∀ f, ¬Fits p (k ++ rest) f := by
  rcases firstFit_words hk hfits with ⟨hself, hnone⟩ | ⟨f, hne, hf, hbefore⟩
  · rw [h.unique hself]
    exact iff_of_true rfl hnone
  · obtain rfl := h.unique hf
    refine iff_of_false (fun hupper => hne ?_) fun hnone => ?_
    · exact Text.eq_of_isPrefix_of_upper_eq h.isPrefix (List.prefix_append k rest) hupper
    · obtain ⟨front, p, back, hwords, hp, -⟩ := hbefore
      exact hnone p (by rw [hwords]; simp) found hp

/-- Of keywords of word characters none fits another front than the word that stands there. -/
theorem Fits.eq_of_word (h : Fits p (k ++ rest) found) (hne : p ≠ [])
    (hp : ∀ c ∈ p, Text.isWordChar c) (hk : ∀ c ∈ k, Text.isWordChar c)
    (hrest : ∀ c ∈ rest.head?, c = ' ') : found = k := by
  obtain ⟨behind, ht, hs, hb⟩ := h
  rcases List.append_eq_append_iff.1 ht with ⟨more, rfl, rfl⟩ | ⟨more, rfl, rfl⟩
  · cases more with
    | nil => exact List.append_nil k
    | cons c more =>
      -- a space would stand in the spelling of a word
      obtain rfl : c = ' ' := hrest c rfl
      obtain ⟨a, ha, hac⟩ := hs.exists_of_mem (c := ' ') (by simp)
      have hsymm : Text.sameLetter ' ' a := Text.sameLetter_iff.2 (Text.sameLetter_iff.1 hac).symm
      obtain rfl := Text.eq_of_sameLetter (by decide) (by decide) hsymm
      exact absurd (hp _ ha) (by decide)
  · cases more with
    | nil => exact (List.append_nil found).symm
    | cons c more =>
      -- the word would go on behind what is found
      have hfound : found ≠ [] := hs.ne_nil hne
      rw [isWordBoundary_of_word (fun c hc => hk c (List.mem_append_left _ hc)) hfound] at hb
      have hc : Text.isWordChar c := hk c (by simp)
      simp [Text.beginsWithWordChar, hc] at hb

end Keywords

theorem Text.beginsWithWordChar_of_space {t : Text} (ht : ∀ c ∈ t.head?, c = ' ') :
    beginsWithWordChar t = false := by
  cases t with
  | nil => rfl
  | cons c t =>
    obtain rfl : c = ' ' := ht c rfl
    exact show isWordChar ' ' = false by decide

namespace Body

variable {ks : Keywords} {t k rest found : Text}

theorem exists_parse?_of_firstFit (h : Keywords.FirstFit ks.words t found) :
    ∃ body, parse? ks t = some body ∧ body.keyword = Text.upper found := by
  obtain ⟨rest, ht⟩ := h.isPrefix
  have hmatch := Keywords.match?_eq_some_iff.2 ⟨h, ht.symm⟩
  exact ⟨_, parse?_eq_some_iff.2 ⟨found, rest, hmatch, rfl⟩, rfl⟩

theorem parse?_eq_none_iff : parse? ks t = none ↔ ∀ p ∈ ks.words, ∀ f, ¬Keywords.Fits p t f := by
  rw [← Keywords.match?_eq_none_iff]
  unfold parse?
  cases ks.match? t with
  | none => exact iff_of_true rfl rfl
  | some x => exact iff_of_false (Option.some_ne_none _) (Option.some_ne_none _)

/-- **A keyword that ends with a word character** makes the text a task, by itself or by one that is
tried before any of its spellings. -/
theorem exists_parse?_of_word_end (hk : k ∈ ks.words) (hrest : ∀ c ∈ rest.head?, c = ' ')
    (hlast : ∃ c ∈ k.getLast?, Text.isWordChar c) :
    ∃ body, parse? ks (k ++ rest) = some body ∧
      (body.keyword = Text.upper k ↔
        ∀ p ∈ ks.triedBefore k, ∀ f, ¬Keywords.Fits p (k ++ rest) f) ∧
      (∀ f, Keywords.FirstFit (ks.triedBefore k) (k ++ rest) f → body.keyword = Text.upper f) ∧
      ((∀ p ∈ ks.words, ∀ c ∈ p, Text.isWordChar c) → body.keyword = Text.upper k) := by
  have hfits := (Keywords.fits_self_iff (Text.beginsWithWordChar_of_space hrest)).2 hlast
  obtain ⟨found, hfound⟩ := Keywords.exists_firstFit hk hfits
  obtain ⟨body, hparse, hkeyword⟩ := exists_parse?_of_firstFit hfound
  have hupper := hfound.upper_eq_iff hk hfits
  rw [← hkeyword] at hupper
  refine ⟨body, hparse, hupper, fun f hf => ?_, fun hword => hupper.2 fun p hp f hf => ?_⟩
  · obtain ⟨p, back, hsplit, -⟩ := Keywords.exists_words_eq hk
    rw [hkeyword, hfound.unique (hsplit ▸ hf.append _)]
  · obtain ⟨hp, hletters⟩ := Keywords.mem_triedBefore hp
    obtain rfl := hf.eq_of_word (ks.ne_nil_of_mem p hp) (hword p hp) (hword k hk) hrest
    obtain ⟨-, -, hs, -⟩ := hf
    exact hletters hs

/-- **A keyword that ends otherwise** does not make the text a task. -/
theorem parse?_ne_none_iff_of_other_end (hrest : ∀ c ∈ rest.head?, c = ' ')
    (hlast : ¬∃ c ∈ k.getLast?, Text.isWordChar c) :
    parse? ks (k ++ rest) ≠ none ↔
      ∃ p ∈ ks.words, ¬Text.SameLetters p k ∧ ∃ f, Keywords.Fits p (k ++ rest) f := by
  rw [ne_eq, parse?_eq_none_iff]
  push Not
  constructor
  · rintro ⟨p, hp, f, hf⟩
    refine ⟨p, hp, fun hs => hlast ?_, f, hf⟩
    -- with the letters of the keyword it would fit the keyword itself
    obtain rfl := hf.eq_of_sameLetters hs
    obtain ⟨behind, ht, -, hb⟩ := hf
    exact (Keywords.fits_self_iff (Text.beginsWithWordChar_of_space hrest)).1
      ⟨behind, ht, .refl f, hb⟩
  · rintro ⟨p, hp, -, hf⟩
    exact ⟨p, hp, hf⟩

end Body

/-! ### The line that a mark begins -/

theorem LineMark.at?_append (m : LineMark) {t : Text} (ht : ∀ c ∈ t.head?, c = ' ') :
    LineMark.at? (m.text ++ t) = some m := by
  cases t with
  | nil => cases m <;> rfl
  | cons c t =>
    obtain rfl : c = ' ' := ht c rfl
    cases m <;> rfl

theorem LineMark.isTrimmed_text (m : LineMark) : Text.IsTrimmed m.text := by
  rw [← Text.trim_eq_self_iff]
  cases m <;> decide

theorem Text.head?_trimRight_space {t : Text} :
    ∀ c ∈ (Text.trimRight (' ' :: t)).head?, c = ' ' := by
  intro c hc
  have hc := Text.mem_head?_of_trimRight hc
  exact (Option.some.inj hc).symm

theorem lineBody?_mark (ks : Keywords) (m : LineMark) (t : Text) :
    lineBody? ks (m.text ++ ' ' :: t) = Body.parse? ks (Text.trim t) := by
  have hne : m.text ≠ [] := by cases m <;> decide
  have hbody : Text.trim (Text.trimRight (' ' :: t)) = Text.trim t := by
    rw [Text.trim_trimRight]
    rfl
  rw [lineBody?, m.isTrimmed_text.trim_append hne]
  simp only [m.at?_append Text.head?_trimRight_space, List.drop_left, hbody]
  split
  · next h => rw [h, Body.parse?_nil]
  · rfl

/-- **A keyword in a line comment.** A keyword stands between a mark and a text, with a space on
each side. If it ends with a word character, the line is exactly one task; the task has this keyword
exactly if none that is tried before any of its spellings fits, else the one that the first of these
fits, and among keywords of word characters it is always this keyword. If it ends otherwise, no word
ends behind it, so the line is a task only if a keyword with other letters fits. -/
theorem lineTasks_of_keyword {texts : List Text} {k text : Text} (hk : k ∈ texts) (hne : k ≠ [])
    (htrim : Text.trim k = k) (hline : '\n' ∉ k) (htext : '\n' ∉ text) (mark : LineMark)
    (path : Text) :
    ∃ ks body tasks, Keywords.ofTexts? texts = some ks ∧ body = Text.trim (k ++ ' ' :: text) ∧
      tasks = lineTasks ks path (mark.text ++ ' ' :: (k ++ ' ' :: text)) ∧
      ((∃ c ∈ k.getLast?, Text.isWordChar c) →
        ∃ task, tasks = [task] ∧ task.line = 1 ∧ task.path = path ∧
          (task.keyword = Text.upper k ↔
            ∀ p ∈ ks.triedBefore k, ∀ found, ¬Keywords.Fits p body found) ∧
          (∀ found, Keywords.FirstFit (ks.triedBefore k) body found →
            task.keyword = Text.upper found) ∧
          ((∀ p ∈ ks.words, ∀ c ∈ p, Text.isWordChar c) → task.keyword = Text.upper k)) ∧
      ((¬∃ c ∈ k.getLast?, Text.isWordChar c) → tasks.length ≤ 1 ∧
        (tasks ≠ [] ↔ ∃ p ∈ ks.words, ¬Text.SameLetters p k ∧ ∃ found, Keywords.Fits p body found)) := by
  obtain ⟨ks, hks, hwords⟩ := Keywords.exists_ofTexts?_of_mem hk hne htrim
  have hbody : Text.trim (k ++ ' ' :: text) = k ++ Text.trimRight (' ' :: text) :=
    (Text.trim_eq_self_iff.1 htrim).trim_append hne _
  have htasks : lineTasks ks path (mark.text ++ ' ' :: (k ++ ' ' :: text)) =
      ((Body.parse? ks (k ++ Text.trimRight (' ' :: text))).map (Task.ofBody path 1)).toList := by
    have hmark : '\n' ∉ mark.text := by cases mark <;> decide
    rw [lineTasks_of_line (by simp [hmark, hline, htext]), lineBody?_mark, hbody]
  have hspace := Text.head?_trimRight_space (t := text)
  refine ⟨ks, _, _, hks, rfl, rfl, fun hlast => ?_, fun hlast => ?_⟩
  · obtain ⟨body, hparse, hkeyword⟩ := Body.exists_parse?_of_word_end hwords hspace hlast
    rw [htasks, hparse, hbody]
    exact ⟨Task.ofBody path 1 body, rfl, rfl, rfl, hkeyword⟩
  · rw [htasks, hbody, ← Body.parse?_ne_none_iff_of_other_end hspace hlast, ne_eq,
      Option.toList_eq_nil_iff, Option.map_eq_none_iff]
    exact ⟨Option.length_toList_le, Iff.rfl⟩

/-- A keyword of two words that ends with a word character, behind one that does not fit. -/
theorem lineTasks_of_keyword_two_words :
    "C++ fix".toList ∈ ["TODO".toList, "C++ fix".toList] ∧
      Text.trim "C++ fix".toList = "C++ fix".toList ∧
      ∃ ks, Keywords.ofTexts? ["TODO".toList, "C++ fix".toList] = some ks ∧
        lineTasks ks "a.sql".toList "-- C++ fix x".toList =
          [⟨⟨"C++ FIX".toList, "x".toList, {}⟩, "a.sql".toList, 1⟩] ∧
        ∀ p ∈ ks.triedBefore "C++ fix".toList, ∀ found, ¬Keywords.Fits p "C++ fix x".toList found := by
  have hk : "C++ fix".toList ∈ ["TODO".toList, "C++ fix".toList] := by decide
  have htrim : Text.trim "C++ fix".toList = "C++ fix".toList := by decide
  obtain ⟨ks, body, tasks, hks, hbody, htasks, hword, -⟩ :=
    lineTasks_of_keyword hk (by decide) htrim (by decide)
      (show '\n' ∉ "x".toList by decide) .dashes "a.sql".toList
  obtain rfl := Option.some.inj (hks.symm.trans (show _ = some ⟨_, by decide, by decide⟩ from rfl))
  have hlast : ∃ c ∈ "C++ fix".toList.getLast?, Text.isWordChar c := ⟨'x', rfl, by decide⟩
  obtain ⟨task, htask, -, -, hkeyword, -⟩ := hword hlast
  have hread : tasks = [⟨⟨"C++ FIX".toList, "x".toList, {}⟩, "a.sql".toList, 1⟩] := by
    rw [htasks]
    decide +kernel
  obtain rfl := List.singleton_inj.1 (htask.symm.trans hread)
  have hupper : Text.upper "C++ fix".toList = "C++ FIX".toList := by decide +kernel
  have hnone := hkeyword.1 hupper.symm
  obtain rfl : body = "C++ fix x".toList := hbody.trans (by decide +kernel)
  exact ⟨hk, htrim, _, hks, htasks.symm.trans hread, hnone⟩

/-- No word ends behind a plus sign and before a space, and a keyword of two words may begin as
another. -/
theorem lineTasks_of_keyword_not_recognised :
    (∃ ks, Keywords.ofTexts? ["C++".toList] = some ks ∧
        ¬∃ task, lineTasks ks "f.x".toList
          (LineMark.slashes.text ++ ' ' :: ("C++".toList ++ ' ' :: "x".toList)) = [task]) ∧
      ∃ ks, Keywords.ofTexts? ["TODO LATER".toList, "TODO".toList] = some ks ∧
        ¬∃ task, lineTasks ks "f.x".toList
            (LineMark.slashes.text ++ ' ' :: ("TODO".toList ++ ' ' :: "later x".toList)) = [task] ∧
          task.keyword = Text.upper "TODO".toList := by
  constructor
  · refine ⟨⟨_, by decide, by decide⟩, rfl, ?_⟩
    rintro ⟨task, htask⟩
    have hread : lineTasks ⟨["C++".toList], by decide, by decide⟩ "f.x".toList
        (LineMark.slashes.text ++ ' ' :: ("C++".toList ++ ' ' :: "x".toList)) = [] := by
      decide +kernel
    cases hread.symm.trans htask
  · refine ⟨⟨_, by decide, by decide⟩, rfl, ?_⟩
    rintro ⟨task, htask, hkeyword⟩
    have hread : lineTasks ⟨["TODO LATER".toList, "TODO".toList], by decide, by decide⟩ "f.x".toList
        (LineMark.slashes.text ++ ' ' :: ("TODO".toList ++ ' ' :: "later x".toList)) =
          [⟨⟨"TODO LATER".toList, "x".toList, {}⟩, "f.x".toList, 1⟩] := by
      decide +kernel
    obtain rfl := List.singleton_inj.1 (htask.symm.trans hread)
    revert hkeyword
    decide +kernel

/-! ### Plain keywords -/

/-- The tasks of a text depend on the keywords only by what they find. -/
theorem tasksIn_congr {ks ks' : Keywords} (h : ∀ t, Body.parse? ks t = Body.parse? ks' t)
    (path content : Text) : tasksIn ks path content = tasksIn ks' path content := by
  have hline : lineBody? ks = lineBody? ks' := funext fun line => by simp only [lineBody?, h]
  have hblock (d : Delimiters) : blockLineBody? ks d = blockLineBody? ks' d :=
    funext fun line => by simp only [blockLineBody?, h]
  simp only [tasksIn, lineTasks, blockTasks, hline, hblock]

/-- **Of plain keywords only the set matters**: lists with the same keywords read the same task from
every text, or none, and the same tasks from every file, whatever the order of the keywords and
however often they are repeated; and lists without keywords are both refused. -/
theorem parse?_of_same_keywords {texts texts' : List Text}
    (hplain : ∀ k ∈ Keywords.usable texts, Keywords.IsPlain k)
    (hsame : ∀ k, k ∈ Keywords.usable texts ↔ k ∈ Keywords.usable texts') :
    (∀ t, (Keywords.ofTexts? texts).map (Body.parse? · t) =
        (Keywords.ofTexts? texts').map (Body.parse? · t)) ∧
      ∀ path content, (Keywords.ofTexts? texts).map (tasksIn · path content) =
        (Keywords.ofTexts? texts').map (tasksIn · path content) := by
  cases hks : Keywords.ofTexts? texts with
  | none =>
    have hnone : Keywords.ofTexts? texts' = none := by
      rw [Keywords.ofTexts?_eq_none] at hks ⊢
      refine List.eq_nil_iff_forall_not_mem.2 fun k hk => ?_
      have hk := (hsame k).2 hk
      rw [hks] at hk
      cases hk
    rw [hnone]
    exact ⟨fun _ => rfl, fun _ _ => rfl⟩
  | some ks =>
    cases hks' : Keywords.ofTexts? texts' with
    | none =>
      obtain ⟨k, hk⟩ := List.exists_mem_of_ne_nil _ ks.words_ne_nil
      rw [Keywords.words_of_ofTexts? hks, hsame, Keywords.ofTexts?_eq_none.1 hks'] at hk
      cases hk
    | some ks' =>
      rw [← Keywords.words_of_ofTexts? hks] at hplain hsame
      rw [← Keywords.words_of_ofTexts? hks'] at hsame
      have hparse (t : Text) : Body.parse? ks t = Body.parse? ks' t := by
        simp only [Body.parse?, Keywords.match?_congr_of_plain hplain hsame t]
      exact ⟨fun t => congrArg some (hparse t),
        fun path content => congrArg some (tasksIn_congr hparse path content)⟩

/-- Keywords that begin as others, in two orders, with repetitions and blanks. -/
theorem parse?_of_same_keywords_reordered :
    let texts := ["TODO".toList, "TODOX".toList, "FIX_2".toList]
    let texts' := [" TODOX ".toList, [], "FIX_2".toList, "TODO".toList, "TODOX".toList]
    (∀ k ∈ Keywords.usable texts, Keywords.IsPlain k) ∧
      (∀ k, k ∈ Keywords.usable texts ↔ k ∈ Keywords.usable texts') ∧
      (Keywords.ofTexts? texts').map (Body.parse? · "todox: y".toList) =
        some (some ⟨"TODOX".toList, "y".toList, {}⟩) := by
  intro texts texts'
  have husable : Keywords.usable texts = ["TODO".toList, "TODOX".toList, "FIX_2".toList] := by
    decide
  have husable' : Keywords.usable texts' =
      ["TODOX".toList, "FIX_2".toList, "TODO".toList, "TODOX".toList] := by
    decide
  have hplain : ∀ k ∈ Keywords.usable texts, Keywords.IsPlain k := by
    have hchecked : ∀ k ∈ Keywords.usable texts, k ≠ [] ∧ k.all Text.isPlainWordChar := by
      decide
    exact fun k hk => ⟨(hchecked k hk).1, List.all_eq_true.1 (hchecked k hk).2⟩
  have hsame : ∀ k, k ∈ Keywords.usable texts ↔ k ∈ Keywords.usable texts' := by
    intro k
    simp only [husable, husable', List.mem_cons, List.not_mem_nil, or_false]
    tauto
  refine ⟨hplain, hsame, ?_⟩
  rw [← (parse?_of_same_keywords hplain hsame).1 "todox: y".toList]
  decide +kernel

end CommentTasks
