import CommentTasks.Comment.Metadata
import CommentTasks.Proofs.Text.Letters
import CommentTasks.Proofs.Text.Words
import Mathlib.Data.List.TakeDrop

/-!
# Taking annotations out of a text

The four kinds of annotations are taken out one after the other, by one reader with the name and the
values of the kind. The reader passes over any text without `@`, and over annotations of the other
kinds, whose names begin with other letters; what it passes over is left as it is.
-/

namespace CommentTasks

namespace Metadata

/-- The kinds of annotations. -/
inductive Kind
  | due
  | tags
  | assignee
  | priority
  deriving DecidableEq, Repr

namespace Kind

/-- The name of the annotations. -/
def name : Kind → Text
  | .due => "due".toList
  | .tags => "tags".toList
  | .assignee => "assignee".toList
  | .priority => "p".toList

/-- How the value of an annotation is read. -/
def value? : Kind → Text → Option (Text × Text)
  | .priority => priorityValue?
  | _ => anyValue?

/-- Take the first annotation of the kind out of a text. -/
def take (k : Kind) (t : Text) : Option Text × Text := takeAnnotation k.name k.value? t

/-- What is left of a text once annotations of some kinds are taken out. -/
def takeAll (ks : List Kind) (t : Text) : Text := ks.foldl (fun t k => (k.take t).2) t

/-- The first letter of the name. -/
def initial : Kind → Char
  | .due => 'd'
  | .tags => 't'
  | .assignee => 'a'
  | .priority => 'p'

theorem exists_name_eq (k : Kind) : ∃ r, k.name = k.initial :: r := by
  cases k <;> exact ⟨_, rfl⟩

/-- The first letter tells the kind. -/
theorem initial_injective : Function.Injective initial := by
  intro k k' h
  cases k <;> cases k' <;> simp_all [initial]

theorem toLower_initial (k : Kind) : k.initial.toNat < 128 ∧ k.initial.toLower = k.initial := by
  cases k <;> decide

theorem ascii_of_mem_name (k : Kind) : ∀ c ∈ k.name, c.toNat < 128 := by
  cases k <;> exact List.all_iff_forall_prop.1 (by decide)

end Kind

/-- **What is extracted**: the first annotation of each kind in what the kinds before it have
left. -/
theorem extract_eq (t : Text) : extract t =
    ({ tags := ((Kind.tags.take (Kind.takeAll [.due] t)).1.map splitTags).getD []
       due := (Kind.due.take t).1.map Text.trim
       assignee := (Kind.assignee.take (Kind.takeAll [.due, .tags] t)).1.map Text.trim
       priority := (Kind.priority.take (Kind.takeAll [.due, .tags, .assignee] t)).1.map Text.lower },
     Text.squeeze (Kind.takeAll [.due, .tags, .assignee, .priority] t)) := rfl

/-! ### Where an annotation may begin -/

section

variable {name : Text} {value? : Text → Option (Text × Text)} {c : Char} {r u v rest : Text}

-- The parentheses keep the equation from being tried as a definitional one in every rewriting,
-- which would look the letter up in the tables.
theorem findAnnotation?_cons : findAnnotation? name value? (c :: r) =
    match annotationAt? name value? (c :: r) with
    | some (value, rest) => some ([], value, rest)
    | none =>
      (findAnnotation? name value? r).map fun (before, value, rest) => (c :: before, value, rest) :=
  (rfl)

theorem takeAnnotation_of_none (h : annotationAt? name value? (c :: r) = none) :
    takeAnnotation name value? (c :: r) =
      Prod.map id (c :: ·) ( takeAnnotation name value? r) := by
  unfold takeAnnotation
  rw [findAnnotation?_cons]
  simp only [h]
  cases findAnnotation? name value? r with
  | none => rfl
  | some found => rfl

theorem takeAnnotation_of_some (h : annotationAt? name value? (c :: r) = some (v, rest)) :
    takeAnnotation name value? (c :: r) = (some v, ' ' :: rest) := by
  unfold takeAnnotation
  rw [findAnnotation?_cons]
  simp only [h]
  rfl

/-- Nothing is found exactly if no annotation begins anywhere. -/
theorem findAnnotation?_eq_none_iff {t : Text} : findAnnotation? name value? t = none ↔
    ∀ u, u <:+ t → annotationAt? name value? u = none := by
  induction t with
  | nil =>
    refine ⟨fun _ u hu => ?_, fun _ => rfl⟩
    rw [List.suffix_nil.1 hu]
    rfl
  | cons c r ih =>
    rw [findAnnotation?_cons]
    cases h : annotationAt? name value? (c :: r) with
    | some x => simpa using ⟨c :: r, List.suffix_refl _, by simp [h]⟩
    | none =>
      simp only [Option.map_eq_none_iff, ih, List.suffix_cons_iff]
      exact ⟨fun hr u hu => hu.elim (fun e => e ▸ h) (hr u), fun hr u hu => hr u (.inr hu)⟩

/-- What is found stands behind the text before it. -/
theorem exists_eq_append_of_findAnnotation? {t before : Text}
    (h : findAnnotation? name value? t = some (before, v, rest)) :
    ∃ u, t = before ++ u ∧ annotationAt? name value? u = some (v, rest) := by
  induction t generalizing before with
  | nil => cases h
  | cons c r ih =>
    rw [findAnnotation?_cons] at h
    split at h
    · next hat =>
      cases h
      exact ⟨c :: r, rfl, hat⟩
    · obtain ⟨⟨before, v', rest'⟩, hr, he⟩ := Option.map_eq_some_iff.1 h
      cases he
      obtain ⟨u, rfl, hat⟩ := ih hr
      exact ⟨u, rfl, hat⟩

theorem exists_of_findAnnotation?_eq_some {t before : Text}
    (h : findAnnotation? name value? t = some (before, v, rest)) :
    ∃ u, u <:+ t ∧ annotationAt? name value? u = some (v, rest) := by
  obtain ⟨u, rfl, hat⟩ := exists_eq_append_of_findAnnotation? h
  exact ⟨u, List.suffix_append before u, hat⟩

/-- An annotation is its name between the marks, in any letter case, and a value that is read. -/
theorem annotationAt?_eq_some_iff {x : Text × Text} : annotationAt? name value? u = some x ↔
    ∃ mark t, u = mark ++ t ∧ Text.SameLetters ('@' :: name ++ ['(']) mark ∧ value? t = some x := by
  unfold annotationAt?
  constructor
  · intro h
    split at h
    · next mark t hm =>
      obtain ⟨hu, hmark⟩ := Text.matchLetters?_eq_some_iff.1 hm
      exact ⟨mark, t, hu, hmark, h⟩
    · cases h
  · rintro ⟨mark, t, hu, hmark, hx⟩
    rw [Text.matchLetters?_eq_some_iff.2 ⟨hu, hmark⟩]
    exact hx

theorem annotationAt?_of_ne (hc : c ≠ '@') (r : Text) :
    annotationAt? name value? (c :: r) = none := by
  have hs : Text.sameLetter '@' c = false := by
    by_contra h
    exact hc (Text.eq_of_sameLetter (by decide) (by decide) (by simpa using h))
  rw [annotationAt?, List.cons_append, Text.matchLetters?_cons_of_not hs]

/-- Whatever follows, no annotation that is looked for begins in the text. -/
def PassedOver (name : Text) (value? : Text → Option (Text × Text)) (u : Text) : Prop :=
  ∀ t, takeAnnotation name value? (u ++ t) = Prod.map id (u ++ ·) ( takeAnnotation name value? t)

theorem PassedOver.cons (h : ∀ t, annotationAt? name value? (c :: (u ++ t)) = none)
    (hu : PassedOver name value? u) : PassedOver name value? (c :: u) := by
  intro t
  rw [List.cons_append, takeAnnotation_of_none (h t), hu, Prod.map_map]
  rfl

theorem passedOver_of_not_mem (h : '@' ∉ u) : PassedOver name value? u := by
  induction u with
  | nil => exact fun t => rfl
  | cons c u ih =>
    rw [List.mem_cons, not_or] at h
    exact .cons (fun t => annotationAt?_of_ne (fun e => h.1 e.symm) _) (ih h.2)

end

theorem anyValue?_eq_some_iff {t v r : Text} :
    anyValue? t = some (v, r) ↔ t = v ++ ')' :: r ∧ v ≠ [] ∧ ')' ∉ v := by
  unfold anyValue?
  rw [List.span_eq_takeWhile_dropWhile]
  constructor
  · intro h
    split at h
    · next value r' hspan =>
      obtain ⟨hvalue, hrest⟩ := Prod.mk.inj hspan
      have ht := List.takeWhile_append_dropWhile (p := fun c => decide (c ≠ ')')) (l := t)
      rw [hvalue, hrest] at ht
      split at h
      · cases h
      · next hne =>
        cases h
        refine ⟨ht.symm, hne, fun hm => ?_⟩
        rw [← hvalue] at hm
        simpa using List.mem_takeWhile_imp hm
    · cases h
  · rintro ⟨rfl, hne, hclosed⟩
    have hall : ∀ c ∈ v, decide (c ≠ ')') := by
      intro c hc
      simpa using fun e : c = ')' => hclosed (e ▸ hc)
    rw [List.takeWhile_append_of_pos hall, List.dropWhile_append_of_pos hall]
    simp [hne]

namespace Kind

variable {k : Kind} {t v : Text}

theorem take_fst (k : Kind) (t : Text) :
    (k.take t).1 = (findAnnotation? k.name k.value? t).map fun x => x.2.1 := by
  unfold take takeAnnotation
  cases findAnnotation? k.name k.value? t <;> rfl

theorem take_snd (k : Kind) (t : Text) : (k.take t).2 =
    ((findAnnotation? k.name k.value? t).map fun x => x.1 ++ ' ' :: x.2.2).getD t := by
  unfold take takeAnnotation
  cases findAnnotation? k.name k.value? t <;> rfl

theorem value?_of_ne_priority (hk : k ≠ .priority) : k.value? = anyValue? := by
  cases k <;> first | rfl | exact absurd rfl hk

/-- An annotation that is no priority stands in the text with its value. -/
theorem exists_of_findAnnotation? (hk : k ≠ .priority) {before rest : Text}
    (h : findAnnotation? k.name k.value? t = some (before, v, rest)) :
    ∃ mark, t = before ++ mark ++ v ++ ')' :: rest ∧ v ≠ [] ∧ ')' ∉ v := by
  obtain ⟨u, rfl, hat⟩ := exists_eq_append_of_findAnnotation? h
  obtain ⟨mark, w, rfl, -, hw⟩ := annotationAt?_eq_some_iff.1 hat
  rw [value?_of_ne_priority hk] at hw
  obtain ⟨rfl, hne, hclosed⟩ := anyValue?_eq_some_iff.1 hw
  exact ⟨mark, by simp, hne, hclosed⟩

/-- **The value that is taken** is a part of the text up to a closing parenthesis. -/
theorem value_of_take (hk : k ≠ .priority) (h : (k.take t).1 = some v) :
    v <:+: t ∧ v ≠ [] ∧ ')' ∉ v := by
  rw [take_fst] at h
  obtain ⟨⟨before, v', rest⟩, hfound, rfl⟩ := Option.map_eq_some_iff.1 h
  obtain ⟨mark, rfl, hne, hclosed⟩ := exists_of_findAnnotation? hk hfound
  exact ⟨List.infix_append _ _ _, hne, hclosed⟩

theorem mem_of_mem_take_snd (hk : k ≠ .priority) {c : Char} (hc : c ∈ (k.take t).2) :
    c ∈ t ∨ c = ' ' := by
  rw [take_snd] at hc
  cases hfound : findAnnotation? k.name k.value? t with
  | none =>
    rw [hfound] at hc
    exact .inl hc
  | some x =>
    obtain ⟨before, v, rest⟩ := x
    obtain ⟨mark, rfl, -, -⟩ := exists_of_findAnnotation? hk hfound
    rw [hfound] at hc
    have hc : c ∈ before ++ ' ' :: rest := hc
    simp only [List.mem_append, List.mem_cons] at hc ⊢
    tauto

end Kind

section

variable {k k' : Kind} {m : Text}

/-- An annotation of the kind, in any letter case: its value is read. -/
theorem annotationAt?_of_spelled (hm : m.map Char.toLower = k.name) (t : Text) :
    annotationAt? k.name k.value? ('@' :: (m ++ '(' :: t)) = k.value? t := by
  have hlow : ∀ c ∈ m, c.toLower.toNat < 128 := by
    intro c hc
    exact k.ascii_of_mem_name _ (hm ▸ List.mem_map_of_mem hc)
  have hs : Text.SameLetters ('@' :: k.name ++ ['(']) ('@' :: m ++ ['(']) := by
    rw [← hm]
    exact .cons (Text.sameLetter_self _)
      (List.rel_append (Text.sameLetters_toLower hlow) (Text.SameLetters.refl ['(']))
  have ht : '@' :: (m ++ '(' :: t) = '@' :: m ++ ['('] ++ t := by simp
  rw [annotationAt?, Text.matchLetters?_eq_some_iff.2 ⟨ht, hs⟩]

theorem annotationAt?_of_other (hk : k ≠ k') (hm : m.map Char.toLower = k'.name) (t : Text) :
    annotationAt? k.name k.value? ('@' :: (m ++ t)) = none := by
  obtain ⟨r, hname⟩ := k.exists_name_eq
  obtain ⟨r', hname'⟩ := k'.exists_name_eq
  obtain ⟨ha, hlower⟩ := k.toLower_initial
  rw [hname'] at hm
  obtain ⟨c, m, rfl⟩ : ∃ c m', m = c :: m' := List.exists_cons_of_ne_nil (by rintro rfl; cases hm)
  obtain ⟨hc, -⟩ := List.cons.inj hm
  have hs : Text.sameLetter k.initial c = false := by
    by_contra h
    have h : Text.sameLetter k.initial c := by simpa using h
    rw [Text.sameLetter_ascii_iff ha (Text.ascii_of_toLower (hc ▸ k'.toLower_initial.1)), hlower,
      hc] at h
    exact hk (Kind.initial_injective h)
  rw [annotationAt?, hname, List.cons_append, List.cons_append, List.cons_append,
    Text.matchLetters?, if_pos (Text.sameLetter_self _), Text.matchLetters?_cons_of_not hs]
  rfl

end

theorem extract_append_of_blank {g : Text} (hg : ∀ c ∈ g, Text.isBlank c) (t : Text) :
    extract (g ++ t) = extract t := by
  have hat : '@' ∉ g := fun h => absurd (hg _ h) (by decide)
  have htake (k : Kind) (t : Text) : k.take (g ++ t) = ((k.take t).1, g ++ (k.take t).2) :=
    passedOver_of_not_mem hat t
  have hall (ks : List Kind) (t : Text) : Kind.takeAll ks (g ++ t) = g ++ Kind.takeAll ks t := by
    induction ks generalizing t with
    | nil => rfl
    | cons k ks ih =>
      show Kind.takeAll ks (k.take (g ++ t)).2 = g ++ Kind.takeAll ks (k.take t).2
      rw [htake, ih]
  have hsqueeze (t : Text) : Text.squeeze (g ++ t) = Text.squeeze t := by
    rw [Text.squeeze, Text.squeeze, Text.words_eq_parts, Text.words_eq_parts,
      Text.parts_of_separators rfl hg]
  rw [extract_eq, extract_eq]
  simp only [hall, htake, hsqueeze]

end Metadata

end CommentTasks
