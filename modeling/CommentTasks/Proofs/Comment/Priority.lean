import CommentTasks.Proofs.Comment.Keyword
import CommentTasks.Proofs.Comment.Metadata
import CommentTasks.Task.Format

/-!
# The priority of a task

The name of a priority is read in any letter case and kept in small letters. The two notions of case
differ at two letters: the dotted capital and the dotless small i are read as the i of `high`, but
their small forms are others. What is read is one of the three priorities and no other text, apart
from these spellings, for which there is no icon: `extract_priority`.
-/

namespace CommentTasks

namespace Metadata

/-! ### Reading a priority -/

/-- Different priorities begin with different letters. -/
theorem eq_of_mem_priorities : ∀ p ∈ priorities, ∀ p' ∈ priorities, p.head? = p'.head? → p = p' := by
  decide

theorem isPlain_of_mem_priorities {p : Text} (hp : p ∈ priorities) : Keywords.IsPlain p := by
  have hplain : ∀ p ∈ priorities, p ≠ [] ∧ p.all Text.isPlainWordChar := by decide
  exact ⟨(hplain p hp).1, List.all_eq_true.1 (hplain p hp).2⟩

theorem toLower_of_mem_priorities : ∀ p ∈ priorities, ∀ c ∈ p, c.toLower = c := by
  have hsmall : ∀ p ∈ priorities, p.all fun c => c.toLower = c := by decide
  exact fun p hp => List.all_iff_forall_prop.1 (hsmall p hp)

/-- Read a value that is the given priority. -/
def readPriority? (t name : Text) : Option (Text × Text) :=
  match Text.matchLetters? name (Text.trimLeft t) with
  | some (value, rest) =>
    match Text.trimLeft rest with
    | ')' :: rest => some (value, rest)
    | _ => none
  | none => none

theorem priorityValue?_eq (t : Text) : priorityValue? t = priorities.findSome? (readPriority? t) := rfl

theorem readPriority?_eq_some_iff {t name v r : Text} : readPriority? t name = some (v, r) ↔
    ∃ rest, Text.trimLeft t = v ++ rest ∧ Text.SameLetters name v ∧ Text.trimLeft rest = ')' :: r := by
  unfold readPriority?
  constructor
  · intro h
    split at h
    · next v' rest hm =>
      split at h
      · next r' hr =>
        cases h
        obtain ⟨ht, hs⟩ := Text.matchLetters?_eq_some_iff.1 hm
        exact ⟨rest, ht, hs, hr⟩
      · cases h
    · cases h
  · rintro ⟨rest, ht, hs, hr⟩
    rw [Text.matchLetters?_eq_some_iff.2 ⟨ht, hs⟩]
    simp only [hr]

/-- The spellings of two priorities begin alike only if the priorities are the same. -/
theorem eq_of_spelled {p p' v v' r r' : Text} (hp : p ∈ priorities) (hp' : p' ∈ priorities)
    (hv : Text.SameLetters p v) (hv' : Text.SameLetters p' v') (h : v ++ r = v' ++ r') : p = p' := by
  refine eq_of_mem_priorities p hp p' hp' ?_
  have hplain := isPlain_of_mem_priorities hp
  have hplain' := isPlain_of_mem_priorities hp'
  cases hv with
  | nil => exact absurd rfl hplain.ne_nil
  | @cons a c p v hc _ =>
    cases hv' with
    | nil => exact absurd rfl hplain'.ne_nil
    | @cons a' c' p' v' hc' _ =>
      obtain ⟨rfl, -⟩ := List.cons.inj h
      have ha : Text.sameLetter a a' :=
        Text.sameLetter_iff.2 ((Text.sameLetter_iff.1 hc).trans (Text.sameLetter_iff.1 hc').symm)
      rw [Text.sameLetter_ascii_iff
          (Text.ascii_of_isPlainWordChar (hplain.plain a List.mem_cons_self))
          (Text.ascii_of_isPlainWordChar (hplain'.plain a' List.mem_cons_self)),
        toLower_of_mem_priorities _ hp a List.mem_cons_self,
        toLower_of_mem_priorities _ hp' a' List.mem_cons_self] at ha
      rw [ha]
      rfl

/-- A priority that is spelled between blanks in front of a closing parenthesis is read. -/
theorem priorityValue?_eq_some_iff {t v r : Text} : priorityValue? t = some (v, r) ↔
    ∃ p ∈ priorities, ∃ rest, Text.trimLeft t = v ++ rest ∧ Text.SameLetters p v ∧
      Text.trimLeft rest = ')' :: r := by
  rw [priorityValue?_eq]
  constructor
  · intro h
    obtain ⟨p, hp, hread⟩ := List.exists_of_findSome?_eq_some h
    exact ⟨p, hp, readPriority?_eq_some_iff.1 hread⟩
  · rintro ⟨p, hp, rest, ht, hv, hr⟩
    have hread := readPriority?_eq_some_iff.2 ⟨rest, ht, hv, hr⟩
    refine Text.findSome?_eq_some_of_forall hp hread fun p' hp' x hx => ?_
    obtain ⟨v', r'⟩ := x
    obtain ⟨rest', ht', hv', -⟩ := readPriority?_eq_some_iff.1 hx
    rw [eq_of_spelled hp' hp hv' hv (ht'.symm.trans ht), hread] at hx
    exact (Option.some.inj hx).symm

section

variable {p v front back u t : Text}

theorem priorityValue?_of_spelled (hp : p ∈ priorities) (hv : Text.SameLetters p v)
    (hfront : ∀ c ∈ front, Text.isBlank c) (hback : ∀ c ∈ back, Text.isBlank c) (t : Text) :
    priorityValue? (front ++ v ++ back ++ ')' :: t) = some (v, t) := by
  have hplain := isPlain_of_mem_priorities hp
  have hword := hplain.isWordChar_of_sameLetters hv
  have hne := hv.ne_nil hplain.ne_nil
  refine priorityValue?_eq_some_iff.2 ⟨p, hp, back ++ ')' :: t, ?_, hv, ?_⟩
  · rw [List.append_assoc, List.append_assoc, Text.trimLeft_append_of_blank hfront]
    refine Text.trimLeft_of_head fun c hc => ?_
    rw [Option.mem_def, List.head?_append_of_ne_nil _ hne] at hc
    by_contra hb
    have hw := hword c (List.mem_of_mem_head? hc)
    rw [Text.isWordChar_of_isBlank (by simpa using hb)] at hw
    cases hw
  · rw [Text.trimLeft_append_of_blank hback]
    exact Text.trimLeft_of_head fun c hc => by
      cases hc
      decide

/-- In front of the text stands an annotation with a priority, in any letter case and between
blanks. -/
structure PriorityStands (u v : Text) : Prop where
  priority : ∃ p ∈ priorities, Text.SameLetters p v
  text : ∃ mark front back rest, Text.SameLetters "@p(".toList mark ∧
    (∀ c ∈ front, Text.isBlank c) ∧ (∀ c ∈ back, Text.isBlank c) ∧
    u = mark ++ (front ++ v ++ back ++ ')' :: rest)

/-- The annotations for the priority are the ones that stand in a text. -/
theorem exists_annotationAt?_iff :
    (∃ rest, annotationAt? Kind.priority.name Kind.priority.value? u = some (v, rest)) ↔
      PriorityStands u v := by
  have hblanks (t : Text) : t = t.takeWhile Text.isBlank ++ Text.trimLeft t ∧
      ∀ c ∈ t.takeWhile Text.isBlank, Text.isBlank c :=
    ⟨List.takeWhile_append_dropWhile.symm, fun c hc => List.mem_takeWhile_imp hc⟩
  constructor
  · rintro ⟨rest, h⟩
    obtain ⟨mark, t, hu, hmark, h⟩ := annotationAt?_eq_some_iff.1 h
    obtain ⟨p, hp, t', ht, hv, ht'⟩ := priorityValue?_eq_some_iff.1 h
    obtain ⟨hfront, hblank⟩ := hblanks t
    obtain ⟨hback, hblank'⟩ := hblanks t'
    refine ⟨⟨p, hp, hv⟩, mark, _, _, rest, hmark, hblank, hblank', ?_⟩
    rw [hu, List.append_assoc, List.append_assoc, ← ht', ← hback, ← ht, ← hfront]
  · rintro ⟨⟨p, hp, hv⟩, mark, front, back, rest, hmark, hfront, hback, rfl⟩
    exact ⟨rest, annotationAt?_eq_some_iff.2 ⟨mark, _, rfl, hmark,
      priorityValue?_of_spelled hp hv hfront hback rest⟩⟩

end

/-! ### The small forms of what is read -/

/-- The letter is read as an i, but its small form is another text. -/
def isOddI (c : Char) : Bool := c == '\u0130' || c == '\u0131'

/-- The small forms of the spellings of `high` with an odd i. -/
def oddPriorities : List Text := ["h\u0131gh".toList, "hi\u0307gh".toList]

/-- The letter is a spelling of the other one, with its small form or as an odd i. -/
def LowersTo (a c : Char) : Prop := (isOddI c = false ∧ Text.smallForm c = [a]) ∨ a = 'i' ∧ isOddI c

theorem isOddI_iff {c : Char} : isOddI c ↔ c = '\u0130' ∨ c = '\u0131' := by simp [isOddI]

/-- The spellings of a letter of a priority. -/
theorem lowersTo_of_sameLetter {p : Text} (hp : p ∈ priorities) {a c : Char} (ha : a ∈ p)
    (h : Text.sameLetter a c) : LowersTo a c := by
  have hlow := Text.ascii_of_isPlainWordChar ((isPlain_of_mem_priorities hp).plain a ha)
  have hsmall := toLower_of_mem_priorities p hp a ha
  rcases Text.spelling_cases hlow h with ⟨hc, hlower⟩ | hc
  · have hodd : isOddI c = false := by
      by_contra h
      rcases isOddI_iff.1 (by simpa using h) with rfl | rfl <;> exact absurd hc (by decide)
    exact .inl ⟨hodd, by rw [Text.smallForm_of_ascii hc, hlower, hsmall]⟩
  · rw [hsmall] at hc
    have hletters : ∀ p ∈ priorities, 's' ∉ p ∧ 'k' ∉ p := by decide
    obtain ⟨hs, hk⟩ := hletters p hp
    simp only [Text.asciiVariants, List.mem_cons, Prod.mk.injEq, List.not_mem_nil, or_false] at hc
    rcases hc with ⟨rfl, rfl⟩ | ⟨rfl, rfl⟩ | ⟨-, rfl⟩ | ⟨-, rfl⟩
    · exact .inr ⟨rfl, rfl⟩
    · exact .inr ⟨rfl, rfl⟩
    · exact absurd ha hs
    · exact absurd ha hk

theorem LowersTo.of_ne {a c : Char} (h : LowersTo a c) (ha : a ≠ 'i') :
    isOddI c = false ∧ Text.smallForm c = [a] :=
  h.resolve_right fun h => ha h.1

theorem smallForm_of_isOddI {c : Char} (h : isOddI c) :
    Text.smallForm c = ['\u0131'] ∨ Text.smallForm c = ['i', '\u0307'] := by
  rcases isOddI_iff.1 h with rfl | rfl
  · exact .inr rfl
  · exact .inl (by decide)

section

variable {k v : Text}

theorem flatMap_smallForm (h : List.Forall₂ LowersTo k v) (hodd : v.any isOddI = false) :
    v.flatMap Text.smallForm = k := by
  induction h with
  | nil => rfl
  | cons hc _ ih =>
    rw [List.any_cons, Bool.or_eq_false_iff] at hodd
    rcases hc with ⟨-, hform⟩ | ⟨-, hc⟩
    · rw [List.flatMap_cons, hform, ih hodd.2]
      rfl
    · rw [hodd.1] at hc
      cases hc

theorem any_isOddI_of_not_mem (h : List.Forall₂ LowersTo k v) (hi : 'i' ∉ k) :
    v.any isOddI = false := by
  induction h with
  | nil => rfl
  | cons hc _ ih =>
    rw [List.mem_cons, not_or] at hi
    rw [List.any_cons, ih hi.2, (hc.of_ne (Ne.symm hi.1)).1]
    rfl

end

/-- **The small form of a spelling** is the priority itself, unless an odd i stands in it. -/
theorem lower_of_spelled {p v : Text} (hp : p ∈ priorities) (hv : Text.SameLetters p v) :
    (v.any isOddI = false ∧ Text.lower v = p) ∨ (v.any isOddI ∧ Text.lower v ∈ oddPriorities) := by
  have hforms : List.Forall₂ LowersTo p v := by
    refine List.Forall₂.imp ?_ ((List.forall₂_and_left _ _).2 ⟨fun a ha => ha, hv⟩)
    exact fun a c h => lowersTo_of_sameLetter hp h.1 h.2
  have hsigma : '\u03a3' ∉ v := by
    intro hs
    obtain ⟨a, ha, hsame⟩ := hv.exists_of_mem hs
    have hlow := Text.ascii_of_isPlainWordChar ((isPlain_of_mem_priorities hp).plain a ha)
    rcases Text.spelling_cases hlow hsame with ⟨hc, -⟩ | hc
    · exact absurd hc (by decide)
    · have hvariants : ∀ x ∈ Text.asciiVariants, x.1 ≠ '\u03a3' := by decide
      exact hvariants _ hc rfl
  rw [Text.lower_eq_flatMap hsigma]
  cases hodd : v.any isOddI with
  | false => exact .inl ⟨rfl, flatMap_smallForm hforms hodd⟩
  | true =>
    refine .inr ⟨rfl, ?_⟩
    have hhigh : ∀ p ∈ priorities, 'i' ∈ p → p = ['h', 'i', 'g', 'h'] := by decide
    have hi : 'i' ∈ p := by
      by_contra hi
      rw [any_isOddI_of_not_mem hforms hi] at hodd
      cases hodd
    obtain rfl := hhigh p hp hi
    obtain _ | ⟨h₁, _ | ⟨h₂, _ | ⟨h₃, _ | ⟨h₄, _ | _⟩⟩⟩⟩ := hforms
    obtain ⟨o₁, f₁⟩ := h₁.of_ne (by decide)
    obtain ⟨o₃, f₃⟩ := h₃.of_ne (by decide)
    obtain ⟨o₄, f₄⟩ := h₄.of_ne (by decide)
    simp only [List.any_cons, List.any_nil, o₁, o₃, o₄, Bool.or_false, Bool.false_or] at hodd
    rcases smallForm_of_isOddI hodd with f₂ | f₂ <;>
      simp only [List.flatMap_cons, List.flatMap_nil, f₁, f₂, f₃, f₄] <;> decide

end Metadata

/-! ### The icon of a priority -/

/-- A task has an icon of its own exactly if its priority is one of the three. -/
theorem Task.icon_ne_plainIcon_iff (task : Task) :
    task.icon ≠ plainIcon ↔ ∃ p ∈ Metadata.priorities, task.metadata.priority = some p := by
  have hicons : ∀ x ∈ priorityIcons, x.2 ≠ plainIcon ∧ x.1 ∈ Metadata.priorities := by decide
  have hknown : ∀ p ∈ Metadata.priorities, (priorityIcons.lookup p).getD plainIcon ≠ plainIcon := by
    decide
  unfold Task.icon
  cases task.metadata.priority with
  | none => simp
  | some p =>
    simp only [Option.bind_some, Option.some.injEq, exists_eq_right']
    refine ⟨fun h => ?_, hknown p⟩
    cases hl : priorityIcons.lookup p with
    | none =>
      rw [hl] at h
      exact absurd rfl h
    | some i =>
      obtain ⟨front, back, he, -⟩ := List.lookup_eq_some_iff.1 hl
      exact (hicons (p, i) (by simp [he])).2

section

open Metadata

/-- **The priority of a text** is unset exactly if no annotation for it stands in what the
annotations before it have left. Otherwise it is the small form of what is spelled in one, and that
is one of the three priorities exactly if no odd i is spelled; only then the task has an icon. -/
theorem extract_priority (t : Text) :
    ((extract t).1.priority = none ↔
      ∀ u, u <:+ Kind.takeAll [.due, .tags, .assignee] t → ∀ v, ¬ PriorityStands u v) ∧
    (∀ q, (extract t).1.priority = some q →
      ∃ u v, u <:+ Kind.takeAll [.due, .tags, .assignee] t ∧ PriorityStands u v ∧ q = Text.lower v ∧
        (q ∈ priorities ↔ v.any isOddI = false) ∧ (q ∈ priorities ∨ q ∈ oddPriorities)) ∧
    ∀ task : Task, task.metadata = (extract t).1 →
      (task.icon ≠ plainIcon ↔ ∃ q ∈ priorities, (extract t).1.priority = some q) := by
  have hpriority : (extract t).1.priority =
      (Kind.priority.take (Kind.takeAll [.due, .tags, .assignee] t)).1.map Text.lower := rfl
  generalize Kind.takeAll [.due, .tags, .assignee] t = left at hpriority ⊢
  rw [Kind.take_fst, Option.map_map] at hpriority
  refine ⟨?_, ?_, ?_⟩
  · rw [hpriority, Option.map_eq_none_iff, findAnnotation?_eq_none_iff]
    refine forall₂_congr fun u _ => ?_
    simp only [← exists_annotationAt?_iff, not_exists, Option.eq_none_iff_forall_ne_some, Prod.forall]
  · intro q hq
    rw [hpriority] at hq
    obtain ⟨⟨before, v, rest⟩, hfound, rfl⟩ := Option.map_eq_some_iff.1 hq
    obtain ⟨u, hu, hat⟩ := exists_of_findAnnotation?_eq_some hfound
    have hstands := exists_annotationAt?_iff.1 ⟨rest, hat⟩
    obtain ⟨p, hp, hv⟩ := hstands.priority
    refine ⟨u, v, hu, hstands, rfl, ?_⟩
    have hodd : ∀ q ∈ oddPriorities, q ∉ priorities := by decide
    rcases lower_of_spelled hp hv with ⟨hv, hlower⟩ | ⟨hv, hlower⟩
    · have hmem : Text.lower v ∈ priorities := hlower ▸ hp
      exact ⟨iff_of_true hmem hv, .inl hmem⟩
    · exact ⟨iff_of_false (hodd _ hlower) (by simp [hv]), .inr hlower⟩
  · intro task htask
    rw [← htask]
    exact task.icon_ne_plainIcon_iff

end

/-- A dotless i is read as the i of `high`, and the task has no icon of its own. -/
theorem extract_priority_dotless :
    (Metadata.extract "fix @p(h\u0131gh)".toList).1.priority = some "h\u0131gh".toList ∧
      "h\u0131gh".toList ∉ Metadata.priorities ∧
      (Task.ofBody "a.py".toList 1 ⟨"TODO".toList, "fix".toList,
        (Metadata.extract "fix @p(h\u0131gh)".toList).1⟩).icon = plainIcon := by
  have hpriority : (Metadata.extract "fix @p(h\u0131gh)".toList).1.priority =
      some "h\u0131gh".toList := by
    decide +kernel
  have hnot : "h\u0131gh".toList ∉ Metadata.priorities := by decide
  refine ⟨hpriority, hnot, ?_⟩
  have hicon := (extract_priority "fix @p(h\u0131gh)".toList).2.2
    (Task.ofBody "a.py".toList 1 ⟨"TODO".toList, "fix".toList,
      (Metadata.extract "fix @p(h\u0131gh)".toList).1⟩) rfl
  by_contra h
  obtain ⟨q, hq, he⟩ := hicon.1 h
  rw [hpriority] at he
  cases he
  exact hnot hq

end CommentTasks
