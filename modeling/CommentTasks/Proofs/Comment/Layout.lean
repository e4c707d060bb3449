import CommentTasks.Proofs.Comment.Regions
import CommentTasks.Proofs.Text.Words
import Mathlib.Data.List.Forall2

/-!
# Layout does not matter

Blanks at the ends of the lines of a text leave its tasks as they are. `Relaid` relates a text to
the text with more blanks around its lines. A delimiter holds no blank, so it lies within one line;
what it separates in the one text is related to what it separates in the other, and so block
comments are related one by one: `Relaid.regions`.
-/

namespace CommentTasks

/-! ### Lines with blanks around them -/

/-- Blanks that end no line. -/
structure Padding where
  text : Text
  isBlank : ∀ c ∈ text, Text.isBlank c
  sameLine : '\n' ∉ text

/-- No blanks at all. -/
def Padding.none : Padding := ⟨[], by simp, by simp⟩

/-- A carriage return. -/
def Padding.carriageReturn : Padding := ⟨['\r'], List.forall_mem_singleton.2 rfl, by decide⟩

/-- The second text is the first with blanks around its lines. -/
inductive Relaid : Text → Text → Prop
  | last (p s : Padding) {l : Text} (hl : '\n' ∉ l) : Relaid l (p.text ++ l ++ s.text)
  | cons (p s : Padding) {l t t' : Text} (hl : '\n' ∉ l) (h : Relaid t t') :
    Relaid (l ++ '\n' :: t) (p.text ++ l ++ s.text ++ '\n' :: t')

namespace Relaid

variable {t t' pat : Text}

theorem sameLine {p s : Padding} {l : Text} (hl : '\n' ∉ l) : '\n' ∉ p.text ++ l ++ s.text := by
  simp [hl, p.sameLine, s.sameLine]

theorem lineFeeds (h : Relaid t t') : Delimiters.lineFeeds t' = Delimiters.lineFeeds t := by
  have none {l : Text} (hl : '\n' ∉ l) : Delimiters.lineFeeds l = 0 :=
    List.count_eq_zero_of_not_mem hl
  have cons (t : Text) : Delimiters.lineFeeds ('\n' :: t) = Delimiters.lineFeeds t + 1 :=
    List.count_cons_self
  induction h with
  | last p s hl => rw [none (sameLine hl), none hl]
  | cons p s hl _ ih =>
    rw [Delimiters.lineFeeds_append, none (sameLine hl), Delimiters.lineFeeds_append, none hl, cons,
      cons, ih]

theorem linesOf (h : Relaid t t') :
    List.Forall₂ (fun l l' => Text.trim l = Text.trim l') (linesOf t) (linesOf t') := by
  induction h with
  | last p s hl =>
    rw [linesOf_of_not_mem hl, linesOf_of_not_mem (sameLine hl)]
    exact .cons (Text.trim_append_of_blank p.isBlank s.isBlank _).symm .nil
  | cons p s hl _ ih =>
    rw [linesOf_cons_line hl, linesOf_cons_line (sameLine hl)]
    exact .cons (Text.trim_append_of_blank p.isBlank s.isBlank _).symm ih

/-- Blanks around a line do not move a delimiter. -/
theorem breakOn?_padded (hne : pat ≠ []) (hb : ∀ c, Text.isBlank c → c ∉ pat) (p s : Padding)
    (l : Text) : Text.breakOn? pat (p.text ++ l ++ s.text) =
      (Text.breakOn? pat l).map fun x => (p.text ++ x.1, x.2 ++ s.text) := by
  rw [Text.breakOn?_append_right hne fun c hc => hb c (s.isBlank c hc),
    Text.breakOn?_append_left hne fun c hc => hb c (p.isBlank c hc), Option.map_map]
  rfl

/-- **A delimiter without blanks separates the same in both texts.** -/
theorem breakOn? (h : Relaid t t') (hne : pat ≠ []) (hb : ∀ c, Text.isBlank c → c ∉ pat) :
    Option.Rel (fun x x' => Relaid x.1 x'.1 ∧ Relaid x.2 x'.2)
      (Text.breakOn? pat t) (Text.breakOn? pat t') := by
  have hn : '\n' ∉ pat := hb '\n' rfl
  -- what is separated within a line is part of the line
  have parts {l x y : Text} (hl : '\n' ∉ l) (h : Text.breakOn? pat l = some (x, y)) :
      '\n' ∉ x ∧ '\n' ∉ y := by
    rw [Text.eq_of_breakOn? h] at hl
    simp only [List.mem_append, not_or] at hl
    exact ⟨hl.1.1, hl.2⟩
  induction h with
  | @last p s l hl =>
    rw [breakOn?_padded hne hb]
    cases hx : Text.breakOn? pat l with
    | none => exact .none
    | some x =>
      obtain ⟨hx, hy⟩ := parts hl hx
      refine .some ⟨?_, ?_⟩
      · simpa [Padding.none] using last p .none hx
      · simpa [Padding.none] using last .none s hy
  | @cons p s l t t' hl h ih =>
    have hp := breakOn?_padded hne hb p s l
    cases hx : Text.breakOn? pat l with
    | none =>
      rw [hx] at hp
      rw [Text.breakOn?_append_cons_of_eq_none hn hx, Text.breakOn?_append_cons_of_eq_none hn hp]
      generalize Text.breakOn? pat t = o, Text.breakOn? pat t' = o' at ih
      cases ih with
      | none => exact .none
      | some ih => exact .some ⟨.cons p s hl ih.1, ih.2⟩
    | some x =>
      rw [hx] at hp
      rw [Text.breakOn?_append_cons_of_eq_some hn hx, Text.breakOn?_append_cons_of_eq_some hn hp]
      obtain ⟨hx, hy⟩ := parts hl hx
      refine .some ⟨?_, ?_⟩
      · simpa [Padding.none] using last p .none hx
      · simpa [Padding.none] using cons .none s hy h

variable {d : Delimiters}

/-- The first block comments are related, and what stands around them. -/
theorem firstRegion? (h : Relaid t t') (hd : d.Solid) :
    Option.Rel (fun x x' => Relaid x.1 x'.1 ∧ Relaid x.2.1 x'.2.1 ∧ Relaid x.2.2 x'.2.2)
      (d.firstRegion? t) (d.firstRegion? t') := by
  unfold Delimiters.firstRegion?
  have ho := h.breakOn? hd.opening_ne_nil hd.not_mem_opening
  generalize Text.breakOn? d.opening t = o, Text.breakOn? d.opening t' = o' at ho ⊢
  cases ho with
  | none => exact .none
  | @some x x' ho =>
    have hc := ho.2.breakOn? hd.closing_ne_nil hd.not_mem_closing
    simp only
    generalize Text.breakOn? d.closing x.2 = c, Text.breakOn? d.closing x'.2 = c' at hc ⊢
    cases hc with
    | none => exact .none
    | some hc => exact .some ⟨ho.1, hc⟩

/-- **The block comments are related one by one**, and stand on the same lines. -/
theorem regions (h : Relaid t t') (hd : d.Solid) (line : Int) :
    List.Forall₂ (fun x x' => x.1 = x'.1 ∧ Relaid x.2 x'.2) (d.regions line t)
      (d.regions line t') := by
  have hne := hd.not_both_nil
  induction t using Delimiters.regionsInduction hne generalizing line t' with
  | none t hr =>
    have hf := h.firstRegion? hd
    rw [hr] at hf
    generalize hr' : d.firstRegion? t' = r' at hf
    cases hf
    rw [Delimiters.regions_eq_nil hr, Delimiters.regions_eq_nil hr']
    exact .nil
  | some t before interior rest hr ih =>
    have hf := h.firstRegion? hd
    rw [hr] at hf
    generalize hr' : d.firstRegion? t' = r' at hf
    cases hf with
    | @some _ x' hf =>
      obtain ⟨before', interior', rest'⟩ := x'
      obtain ⟨hb, hi, hrest⟩ : Relaid before before' ∧ Relaid interior interior' ∧
        Relaid rest rest' := hf
      have hlines : Delimiters.lineFeeds (d.opening ++ interior' ++ d.closing) =
          Delimiters.lineFeeds (d.opening ++ interior ++ d.closing) := by
        simp only [Delimiters.lineFeeds_append, hi.lineFeeds]
      rw [Delimiters.regions_eq_cons hne hr, Delimiters.regions_eq_cons hne hr', hb.lineFeeds,
        hlines]
      exact .cons ⟨rfl, hi⟩ (ih hrest _)

/-- A text that leaves no block comment open leaves none open without the blanks either. -/
theorem closed (h : Relaid t t') (hd : d.Solid) (hc : d.Closed t') : d.Closed t := by
  induction hc generalizing t with
  | @plain t' hp =>
    have ho := h.breakOn? hd.opening_ne_nil hd.not_mem_opening
    rw [hp] at ho
    generalize hb : Text.breakOn? d.opening t = o at ho
    cases ho
    exact .plain hb
  | @region t' before interior rest hr _ ih =>
    have hf := h.firstRegion? hd
    rw [hr] at hf
    generalize hr' : d.firstRegion? t = r at hf
    cases hf with
    | some hf => exact .region hr' (ih hf.2.2)

end Relaid

/-! ### Tasks -/

/-- A reader of lines that looks at trimmed lines alone finds the same tasks. -/
theorem tasksOfLines_congr {body? : Text → Option Body} {lines lines' : List Text}
    (hb : ∀ l l', Text.trim l = Text.trim l' → body? l = body? l')
    (h : List.Forall₂ (fun l l' => Text.trim l = Text.trim l') lines lines') (path : Text)
    (first : Int) : tasksOfLines body? path first lines = tasksOfLines body? path first lines' := by
  induction h generalizing first with
  | nil => rfl
  | cons hl _ ih => rw [tasksOfLines, tasksOfLines, hb _ _ hl, ih]

theorem lineBody?_congr (ks : Keywords) {l l' : Text} (h : Text.trim l = Text.trim l') :
    lineBody? ks l = lineBody? ks l' := by
  unfold lineBody?
  rw [h]

theorem blockLineBody?_congr (ks : Keywords) (d : Delimiters) {l l' : Text}
    (h : Text.trim l = Text.trim l') : blockLineBody? ks d l = blockLineBody? ks d l' := by
  unfold blockLineBody? cleanBlockLine
  rw [h]

/-- **Related texts have the same tasks.** -/
theorem Relaid.tasksIn {t t' : Text} (h : Relaid t t') (ks : Keywords) (path : Text) :
    tasksIn ks path t' = tasksIn ks path t := by
  unfold CommentTasks.tasksIn lineTasks
  congr 1
  · exact (tasksOfLines_congr (fun _ _ => lineBody?_congr ks) h.linesOf path 1).symm
  · refine List.flatMap_congr fun d hd => ?_
    unfold blockTasks
    have hr := h.regions (Delimiters.solid_of_mem_all hd) 1
    generalize d.regions 1 t = r, d.regions 1 t' = r' at hr
    induction hr with
    | nil => rfl
    | @cons x x' _ _ hx _ ih =>
      obtain ⟨line, interior⟩ := x
      obtain ⟨line', interior'⟩ := x'
      obtain ⟨rfl, hi⟩ : line = line' ∧ Relaid interior interior' := hx
      rw [List.flatMap_cons, List.flatMap_cons, ih]
      congr 1
      exact (tasksOfLines_congr (fun _ _ => blockLineBody?_congr ks d) hi.linesOf path line).symm

/-! ### All lines of a text -/

/-- The text with blanks around its lines: `margins` says for each line which stand before it and
which behind it. -/
def withMargins (margins : Nat → Padding × Padding) (t : Text) : Text :=
  Text.join "\n" ((linesOf t).mapIdx fun i l => (margins i).1.text ++ l ++ (margins i).2.text)

/-- The text with a carriage return before every line feed. -/
def withReturns (t : Text) : Text := t.flatMap fun c => if c = '\n' then ['\r', '\n'] else [c]

theorem relaid_withMargins (margins : Nat → Padding × Padding) (t : Text) :
    Relaid t (withMargins margins t) := by
  induction t using linesInduction generalizing margins with
  | last l hl =>
    have h : withMargins margins l = (margins 0).1.text ++ l ++ (margins 0).2.text := by
      simp [withMargins, linesOf_of_not_mem hl]
    rw [h]
    exact .last _ _ hl
  | cons l t hl ih =>
    have h : withMargins margins (l ++ '\n' :: t) =
        (margins 0).1.text ++ l ++ (margins 0).2.text ++
          '\n' :: withMargins (fun i => margins (i + 1)) t := by
      have hne : linesOf t ≠ [] := List.splitOn_ne_nil _ t
      simp [withMargins, Text.join, linesOf_cons_line hl, List.mapIdx_cons,
        List.intercalate_cons_of_ne_nil, hne]
    rw [h]
    exact .cons _ _ hl (ih _)

theorem relaid_withReturns (t : Text) : Relaid t (withReturns t) := by
  have line {l : Text} (hl : '\n' ∉ l) : withReturns l = l := by
    refine (List.flatMap_congr fun c hc => if_neg ?_).trans (List.flatMap_singleton' l)
    rintro rfl
    exact hl hc
  induction t using linesInduction with
  | last l hl =>
    rw [line hl]
    simpa [Padding.none] using Relaid.last .none .none hl
  | cons l t hl ih =>
    have h : withReturns (l ++ '\n' :: t) = l ++ ['\r'] ++ '\n' :: withReturns t := by
      rw [withReturns, List.flatMap_append, ← withReturns, line hl]
      simp [withReturns]
    rw [h]
    exact .cons .none .carriageReturn hl ih

theorem relaid_append (t : Text) (s : Padding) : Relaid t (t ++ s.text) := by
  induction t using linesInduction with
  | last l hl => exact .last .none s hl
  | cons l t hl ih => simpa [Padding.none] using Relaid.cons .none .none hl ih

/-- A text with its line ends made alike, if carriage returns only stand before line feeds. -/
theorem relaid_unifyLineEnds {t : Text}
    (h : ∀ a b, t = a ++ '\r' :: b → b.head? = some '\n') : Relaid (Utf8.unifyLineEnds t) t := by
  induction t using linesInduction with
  | last l hl =>
    have hr : '\r' ∉ l := by
      intro hm
      obtain ⟨a, b, rfl⟩ := List.append_of_mem hm
      obtain ⟨b, rfl⟩ := List.head?_eq_some_iff.1 (h a b rfl)
      exact hl (by simp)
    rw [Utf8.unifyLineEnds_of_not_mem hr]
    simpa [Padding.none] using Relaid.last .none .none hl
  | cons l t hl ih =>
    have ht : Relaid (Utf8.unifyLineEnds t) t := ih fun a b e => h (l ++ '\n' :: a) b (by simp [e])
    by_cases hm : '\r' ∈ l
    · -- the carriage return ends the line
      obtain ⟨a, b, rfl, ha⟩ := List.eq_append_cons_of_mem hm
      have hb : b = [] := by
        have hh := h a (b ++ '\n' :: t) (by simp)
        cases b with
        | nil => rfl
        | cons c b =>
          obtain rfl : c = '\n' := by simpa using hh
          exact absurd (by simp) hl
      subst hb
      have hu : Utf8.unifyLineEnds (a ++ ['\r'] ++ '\n' :: t) = a ++ '\n' :: Utf8.unifyLineEnds t := by
        rw [List.append_assoc, Utf8.unifyLineEnds_append ha]
        rfl
      rw [hu]
      have hla : '\n' ∉ a := fun hm => hl (List.mem_append_left _ hm)
      exact .cons .none .carriageReturn hla ht
    · have hu : Utf8.unifyLineEnds (l ++ '\n' :: t) = l ++ '\n' :: Utf8.unifyLineEnds t := by
        rw [Utf8.unifyLineEnds_append hm]
        rfl
      rw [hu]
      simpa [Padding.none] using Relaid.cons .none .none hl ht

/-- **Layout does not matter.** Whatever blanks are put around the lines of a text, its tasks stay
the same, on the same lines and in the same order; so do they if every line ends with a carriage
return before the line feed. -/
theorem tasksIn_withMargins (ks : Keywords) (path : Text) (margins : Nat → Padding × Padding)
    (t : Text) :
    tasksIn ks path (withMargins margins t) = tasksIn ks path t ∧
      tasksIn ks path (withReturns t) = tasksIn ks path t :=
  ⟨(relaid_withMargins margins t).tasksIn ks path, (relaid_withReturns t).tasksIn ks path⟩

end CommentTasks
