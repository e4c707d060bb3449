import CommentTasks.Comment.Body
import CommentTasks.Proofs.Comment.Keyword
import CommentTasks.Proofs.Text.Capitals

/-!
# The keyword of a task

A keyword is found in any spelling with its letters, and the task keeps the capital form of the
spelling. The lone capitals compare as letters with another capital form, so a spelling with one of
them leads to a keyword that is in no list of plain keywords: `parse?_keyword`.
-/

namespace CommentTasks

variable {texts : List Text} {ks : Keywords} {t : Text} {body : Body}

/-- A keyword that is found is one of the texts without the blanks at its ends. -/
theorem Keywords.exists_of_mem_words (hks : ofTexts? texts = some ks) {k : Text} (hk : k ∈ ks.words) :
    ∃ p ∈ texts, Text.trim p = k := by
  rw [words_of_ofTexts? hks] at hk
  exact List.mem_map.1 (List.mem_filter.1 hk).1

theorem Body.exists_of_parse?_eq_some (h : parse? ks t = some body) :
    ∃ found rest, ks.match? t = some (found, rest) ∧ body.keyword = Text.upper found := by
  obtain ⟨found, rest, hm, rfl⟩ := parse?_eq_some_iff.1 h
  exact ⟨found, rest, hm, rfl⟩

/-- Texts with the same letters and no lone capitals have the same capital form. -/
theorem Text.upper_eq_upper_of_not_lone {k m : Text} (h : SameLetters k m)
    (hk : ∀ c ∈ k, c ∉ loneCapitals) (hm : ∀ c ∈ m, c ∉ loneCapitals) : upper k = upper m := by
  rw [upper_eq_upper_iff h]
  induction h with
  | nil => exact .nil
  | cons _ _ ih =>
    rw [List.forall_mem_cons] at hk hm
    exact .cons (.inr ⟨hk.1, hm.1⟩) (ih hk.2 hm.2)

/-- **The keyword of a task** is the capital form of a spelling of a keyword in the list. It is the
capital form of that keyword exactly if the same lone capitals stand at the same places of the two.
Where no keyword of the list has a lone capital, it is the capital form of any of them exactly if
the spelling has none. -/
theorem parse?_keyword (hks : Keywords.ofTexts? texts = some ks) (h : Body.parse? ks t = some body) :
    ∃ found rest, t = found ++ rest ∧ Text.isWordBoundary found rest ∧
      body.keyword = Text.upper found ∧
      (∃ p ∈ texts, Text.SameLetters (Text.trim p) found) ∧
      (∀ p ∈ texts, Text.SameLetters (Text.trim p) found →
        (body.keyword = Text.upper (Text.trim p) ↔
          List.Forall₂ Text.SameCapitals (Text.trim p) found)) ∧
      ((∀ p ∈ texts, ∀ c ∈ Text.trim p, c ∉ Text.loneCapitals) →
        ((∃ p ∈ texts, body.keyword = Text.upper (Text.trim p)) ↔
          ∀ c ∈ found, c ∉ Text.loneCapitals)) := by
  obtain ⟨found, rest, hm, hkeyword⟩ := Body.exists_of_parse?_eq_some h
  obtain ⟨k, hk, ht, hs, hboundary⟩ := Keywords.exists_of_match?_eq_some hm
  obtain ⟨p, hp, rfl⟩ := Keywords.exists_of_mem_words hks hk
  refine ⟨found, rest, ht, hboundary, hkeyword, ⟨p, hp, hs⟩, fun q _ hq => ?_, fun hplain => ?_⟩
  · rw [hkeyword, eq_comm, Text.upper_eq_upper_iff hq]
  · rw [hkeyword]
    constructor
    · rintro ⟨q, hq, he⟩ c hc hlone
      have hupper : c ∈ Text.upper (Text.trim q) := he ▸ (Text.mem_upper_iff hlone).2 hc
      exact hplain q hq c ((Text.mem_upper_iff hlone).1 hupper) hlone
    · intro hfound
      exact ⟨p, hp, (Text.upper_eq_upper_of_not_lone hs (hplain p hp) hfound).symm⟩

/-- A dotted capital I is read as the i of a standard keyword, and the keyword of the task is none
of the standard ones. -/
theorem parse?_keyword_dotted :
    ∃ body, Body.parse? .usual "f\u0130xme: x".toList = some body ∧
      body.keyword = "F\u0130XME".toList ∧
      ¬ ∃ p ∈ Keywords.standard, body.keyword = Text.upper (Text.trim p) := by
  have hparse : Body.parse? .usual "f\u0130xme: x".toList = some ⟨"F\u0130XME".toList, "x".toList, {}⟩ := by
    decide +kernel
  refine ⟨_, hparse, rfl, ?_⟩
  obtain ⟨found, rest, -, -, hkeyword, -, -, hplain⟩ :=
    parse?_keyword Keywords.ofTexts?_standard hparse
  have hstandard : ∀ p ∈ Keywords.standard, (Text.trim p).all fun c => c ∉ Text.loneCapitals := by
    decide
  rw [hplain fun p hp => List.all_iff_forall_prop.1 (hstandard p hp)]
  intro hfound
  have hlone : '\u0130' ∈ Text.loneCapitals := by decide
  have hmem : '\u0130' ∈ Text.upper found := by
    rw [← hkeyword]
    decide
  exact hfound _ ((Text.mem_upper_iff hlone).1 hmem) hlone

end CommentTasks
