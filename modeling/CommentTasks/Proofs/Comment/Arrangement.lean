import CommentTasks.Comment.Body
import CommentTasks.Proofs.Comment.Priority
import CommentTasks.Proofs.Text.Squeeze
import CommentTasks.Task.Identity

/-!
# Annotations among the words of a message

The body of a comment is written as pieces behind its keyword: words, and annotations of different
kinds, in any order, each behind blanks. An annotation is known by what it says. Taking out a kind
leaves the other pieces as they are (`take_leftOf`), so the message is the words and the metadata is
what the annotations say, wherever they stand: `parse?_arranged`.
-/

namespace CommentTasks

open Metadata (Kind)

/-! ### What is written -/

/-- Blanks, at least one. -/
structure Gap where
  text : Text
  ne_nil : text ≠ []
  blank : ∀ c ∈ text, Text.isBlank c

/-- A word without the mark of an annotation. -/
structure MessageWord where
  text : Text
  ne_nil : text ≠ []
  solid : ∀ c ∈ text, Text.isBlank c = false
  unmarked : '@' ∉ text

/-- A value without blanks at its ends. -/
structure TrimmedValue where
  text : Text
  ne_nil : text ≠ []
  trimmed : Text.trim text = text

/-- A tag. -/
structure Tag where
  text : Text
  ne_nil : text ≠ []
  solid : ∀ c ∈ text, Text.isBlank c = false
  noComma : ',' ∉ text

/-- Commas and spaces between two tags, at least one of them. -/
structure TagGap where
  text : Text
  ne_nil : text ≠ []
  separates : ∀ c ∈ text, c = ',' ∨ c = ' '

/-- The name of a priority in any letter case, between blanks. -/
structure Level where
  before : Text
  name : Text
  after : Text
  blank_before : ∀ c ∈ before, Text.isBlank c
  small_mem : name.map Char.toLower ∈ Metadata.priorities
  blank_after : ∀ c ∈ after, Text.isBlank c

/-- What an annotation says. -/
inductive Statement
  | due (value : TrimmedValue)
  | tags (first : Tag) (more : List (TagGap × Tag))
  | assignee (value : TrimmedValue)
  | priority (level : Level)

namespace Statement

/-- The kind of the annotation. -/
def kind : Statement → Kind
  | .due _ => .due
  | .tags _ _ => .tags
  | .assignee _ => .assignee
  | .priority _ => .priority

/-- The text between the parentheses. -/
def text : Statement → Text
  | .due value => value.text
  | .tags first more => first.text ++ more.flatMap fun x => x.1.text ++ x.2.text
  | .assignee value => value.text
  | .priority level => level.before ++ level.name ++ level.after

/-- The part of the text that is read. -/
def value : Statement → Text
  | .priority level => level.name
  | s => s.text

/-- Add what is said to metadata. -/
def addTo : Statement → Metadata → Metadata
  | .due value, m => { m with due := some value.text }
  | .tags first more, m => { m with tags := first.text :: more.map fun x => x.2.text }
  | .assignee value, m => { m with assignee := some value.text }
  | .priority level, m => { m with priority := some (level.name.map Char.toLower) }

end Statement

/-- An annotation, with its name in any letter case. -/
structure Mark where
  name : Text
  statement : Statement
  spelled : name.map Char.toLower = statement.kind.name
  closed : ')' ∉ statement.text
  unmarked : '@' ∉ statement.text

/-- The annotation as it is written. -/
def Mark.text (a : Mark) : Text := '@' :: (a.name ++ '(' :: (a.statement.text ++ [')']))

/-- A word or an annotation. -/
inductive Piece
  | word (w : MessageWord)
  | mark (a : Mark)

namespace Piece

/-- The piece as it is written. -/
def text : Piece → Text
  | .word w => w.text
  | .mark a => a.text

/-- The word, if the piece is one. -/
def word? : Piece → Option Text
  | .word w => some w.text
  | .mark _ => none

/-- What the annotation says, if the piece is one. -/
def statement? : Piece → Option Statement
  | .word _ => none
  | .mark a => some a.statement

end Piece

/-- Words and annotations in the order in which they are written, each with the blanks before it. -/
abbrev Arrangement := List (Gap × Piece)

namespace Arrangement

/-- The text of the pieces. -/
def text (pieces : Arrangement) : Text := pieces.flatMap fun x => x.1.text ++ x.2.text

/-- The words among the pieces. -/
def words (pieces : Arrangement) : List Text := pieces.filterMap fun x => x.2.word?

/-- What the annotations among the pieces say. -/
def statements (pieces : Arrangement) : List Statement := pieces.filterMap fun x => x.2.statement?

/-- The metadata that the annotations state together. -/
def metadata (pieces : Arrangement) : Metadata := pieces.statements.foldr Statement.addTo {}

end Arrangement

/-! ### Reading the value of an annotation -/

namespace Metadata

theorem splitTags_eq_parts (v : Text) :
    splitTags v = Text.parts (fun c => c == ',' || c == ' ') Text.trim v := rfl

end Metadata

namespace Level

variable (l : Level)

theorem small_ascii : ∀ c ∈ l.name, c.toLower.toNat < 128 := fun _ hc =>
  Text.ascii_of_isPlainWordChar
    ((Metadata.isPlain_of_mem_priorities l.small_mem).plain _ (List.mem_map_of_mem hc))

theorem ascii : ∀ c ∈ l.name, c.toNat < 128 :=
  fun c hc => Text.ascii_of_toLower (l.small_ascii c hc)

theorem sameLetters : Text.SameLetters (l.name.map Char.toLower) l.name :=
  Text.sameLetters_toLower l.small_ascii

theorem priorityValue?_append (t : Text) :
    Metadata.priorityValue? (l.before ++ l.name ++ l.after ++ ')' :: t) = some (l.name, t) :=
  Metadata.priorityValue?_of_spelled l.small_mem l.sameLetters l.blank_before l.blank_after t

end Level

namespace Statement

/-- Tags are split where they were joined. -/
theorem splitTags_text (first : Tag) (more : List (TagGap × Tag)) :
    Metadata.splitTags (first.text ++ more.flatMap fun x => x.1.text ++ x.2.text) =
      first.text :: more.map fun x => x.2.text := by
  have hsolid (tag : Tag) : ∀ c ∈ tag.text, (c == ',' || c == ' ') = false := by
    intro c hc
    have hcomma : c ≠ ',' := fun e => tag.noComma (e ▸ hc)
    have hspace : c ≠ ' ' := by
      rintro rfl
      exact absurd (tag.solid _ hc) (by decide)
    simp [hcomma, hspace]
  have hgap (g : TagGap) : ∀ c ∈ g.text, (c == ',' || c == ' ') = true := by
    intro c hc
    rcases g.separates c hc with rfl | rfl <;> rfl
  rw [Metadata.splitTags_eq_parts]
  induction more generalizing first with
  | nil =>
    rw [List.flatMap_nil, Text.parts_solid rfl (hsolid first) first.ne_nil
      (Text.trim_of_solid first.solid) (by simp), Text.parts_nil rfl]
    rfl
  | cons x more ih =>
    obtain ⟨g, tag⟩ := x
    rw [List.flatMap_cons, Text.parts_solid rfl (hsolid first) first.ne_nil
      (Text.trim_of_solid first.solid), List.append_assoc, Text.parts_of_separators rfl (hgap g), ih,
      List.map_cons]
    intro c hc
    obtain ⟨d, r, hd⟩ := List.exists_cons_of_ne_nil g.ne_nil
    have hdc : d = c := by simpa [hd] using hc
    exact hdc ▸ hgap g d (by rw [hd]; exact List.mem_cons_self)

end Statement

theorem Mark.value?_append (a : Mark) (t : Text) :
    a.statement.kind.value? (a.statement.text ++ ')' :: t) = some (a.statement.value, t) := by
  obtain ⟨name, s, -, hclosed, -⟩ := a
  cases s with
  | due value => exact Metadata.anyValue?_eq_some_iff.2 ⟨rfl, value.ne_nil, hclosed⟩
  | tags first more =>
    have hne := List.append_ne_nil_of_left_ne_nil first.ne_nil (more.flatMap fun x => x.1.text ++ x.2.text)
    exact Metadata.anyValue?_eq_some_iff.2 ⟨rfl, hne, hclosed⟩
  | assignee value => exact Metadata.anyValue?_eq_some_iff.2 ⟨rfl, value.ne_nil, hclosed⟩
  | priority level => exact level.priorityValue?_append t

/-! ### Taking out the annotations -/

namespace Piece

/-- What is left of the piece once annotations of some kinds are taken out. -/
def left (taken : List Kind) : Piece → Text
  | .word w => w.text
  | .mark a => if a.statement.kind ∈ taken then [' '] else a.text

end Piece

namespace Arrangement

variable {k : Kind} {taken : List Kind} {pieces : Arrangement} {blanks : Text}

/-- What is left of the text once annotations of some kinds are taken out. -/
def left (taken : List Kind) (pieces : Arrangement) : Text :=
  pieces.flatMap fun x => x.1.text ++ x.2.left taken

theorem left_cons (x : Gap × Piece) :
    left taken (x :: pieces) = x.1.text ++ (x.2.left taken ++ left taken pieces) := by
  rw [left, List.flatMap_cons, List.append_assoc]
  rfl

theorem left_nil (pieces : Arrangement) : left [] pieces = pieces.text := by
  refine List.flatMap_congr fun x _ => ?_
  obtain ⟨g, w | a⟩ := x <;> rfl

/-- The value of the first annotation of a kind. -/
def value? (k : Kind) (pieces : Arrangement) : Option Text :=
  pieces.statements.findSome? fun s => if s.kind = k then some s.value else none

theorem left_cons_of_not_mem (h : k ∉ pieces.statements.map Statement.kind) :
    left (k :: taken) pieces = left taken pieces := by
  refine List.flatMap_congr fun x hx => ?_
  obtain ⟨g, w | a⟩ := x
  · rfl
  · have hk : a.statement.kind ≠ k := by
      rintro rfl
      exact h (List.mem_map_of_mem (List.mem_filterMap.2 ⟨_, hx, rfl⟩))
    simp only [Piece.left, List.mem_cons, hk, false_or]

theorem at_not_mem_of_blank (hblanks : ∀ c ∈ blanks, Text.isBlank c) : '@' ∉ blanks :=
  fun h => absurd (hblanks _ h) (by decide)

theorem passedOver_gap (g : Gap) : Metadata.PassedOver k.name k.value? g.text :=
  Metadata.passedOver_of_not_mem (at_not_mem_of_blank g.blank)

theorem passedOver_mark {a : Mark} (hk : k ≠ a.statement.kind) :
    Metadata.PassedOver k.name k.value? a.text := by
  have hname : '@' ∉ a.name := by
    intro h
    have hm : '@' ∈ a.statement.kind.name := a.spelled ▸ List.mem_map_of_mem (f := Char.toLower) h
    cases hkind : a.statement.kind <;> rw [hkind] at hm <;> exact absurd hm (by decide)
  refine .cons (fun t => ?_) (Metadata.passedOver_of_not_mem ?_)
  · rw [List.append_assoc]
    exact Metadata.annotationAt?_of_other hk a.spelled _
  · simp [hname, a.unmarked]

theorem value?_cons_mark (a : Mark) (g : Gap) :
    value? k ((g, .mark a) :: pieces) =
      if a.statement.kind = k then some a.statement.value else value? k pieces := by
  show List.findSome? _ (a.statement :: statements pieces) = _
  rw [List.findSome?_cons, value?]
  split
  · next h =>
    split at h
    · next hk => rw [if_pos hk, ← h]
    · cases h
  · next h =>
    split at h
    · cases h
    · next hk => rw [if_neg hk]

theorem takeAnnotation_text (a : Mark) (t : Text) :
    Metadata.takeAnnotation a.statement.kind.name a.statement.kind.value? (a.text ++ t) =
      (some a.statement.value, ' ' :: t) := by
  have ht : a.text ++ t = '@' :: (a.name ++ '(' :: (a.statement.text ++ ')' :: t)) := by
    simp [Mark.text]
  rw [ht, Metadata.takeAnnotation_of_some]
  rw [Metadata.annotationAt?_of_spelled a.spelled, a.value?_append]

/-- **One kind is taken out**, and all else is left as it is, also the blanks behind the pieces. -/
theorem take_left (hk : k ∉ taken) (honce : (pieces.statements.map Statement.kind).Nodup)
    (hblanks : ∀ c ∈ blanks, Text.isBlank c) :
    k.take (left taken pieces ++ blanks) = (pieces.value? k, left (k :: taken) pieces ++ blanks) := by
  unfold Kind.take
  induction pieces with
  | nil =>
    have hover : Metadata.PassedOver k.name k.value? blanks :=
      Metadata.passedOver_of_not_mem (at_not_mem_of_blank hblanks)
    have hend := hover []
    rw [List.append_nil] at hend
    exact hend.trans (congrArg (Prod.mk none) (List.append_nil blanks))
  | cons x pieces ih =>
    obtain ⟨g, w | a⟩ := x
    · have hw : Metadata.PassedOver k.name k.value? w.text :=
        Metadata.passedOver_of_not_mem w.unmarked
      have hleft (taken : List Kind) : Piece.left taken (.word w) = w.text := rfl
      rw [left_cons, left_cons, List.append_assoc, List.append_assoc, passedOver_gap g, hleft, hleft,
        hw, ih honce, List.append_assoc, List.append_assoc]
      rfl
    · have honce : a.statement.kind ∉ (statements pieces).map Statement.kind ∧
          ((statements pieces).map Statement.kind).Nodup := List.nodup_cons.1 honce
      have ih := ih honce.2
      rw [left_cons, left_cons, value?_cons_mark, List.append_assoc, List.append_assoc,
        List.append_assoc, List.append_assoc, passedOver_gap g]
      by_cases hmem : a.statement.kind ∈ taken
      · -- a space stands there already
        have hne : a.statement.kind ≠ k := fun e => hk (e ▸ hmem)
        have hspace : Metadata.PassedOver k.name k.value? [' '] :=
          Metadata.passedOver_of_not_mem (by decide)
        have hold : Piece.left taken (.mark a) = [' '] := if_pos hmem
        have hnew : Piece.left (k :: taken) (.mark a) = [' '] :=
          if_pos (List.mem_cons_of_mem _ hmem)
        rw [hold, hnew, hspace, ih, if_neg hne]
        rfl
      · have hold : Piece.left taken (.mark a) = a.text := if_neg hmem
        by_cases hkind : a.statement.kind = k
        · subst hkind
          have hnew : Piece.left (a.statement.kind :: taken) (.mark a) = [' '] :=
            if_pos List.mem_cons_self
          rw [hold, hnew, takeAnnotation_text, if_pos rfl, left_cons_of_not_mem honce.1]
          rfl
        · have hnew : Piece.left (k :: taken) (.mark a) = a.text :=
            if_neg (by simp [hkind, hmem])
          rw [hold, hnew, passedOver_mark (Ne.symm hkind), ih, if_neg hkind]
          rfl

/-- What the annotations state is what is read of their values. -/
theorem metadata_eq (pieces : Arrangement) : pieces.metadata =
    { tags := ((pieces.value? .tags).map Metadata.splitTags).getD []
      due := (pieces.value? .due).map Text.trim
      assignee := (pieces.value? .assignee).map Text.trim
      priority := (pieces.value? .priority).map Text.lower } := by
  unfold metadata value?
  induction pieces.statements with
  | nil => rfl
  | cons s ss ih =>
    rw [List.foldr_cons, ih]
    cases s with
    | due value => simp [Statement.addTo, Statement.kind, Statement.value, Statement.text, value.trimmed]
    | tags first more =>
      simp [Statement.addTo, Statement.kind, Statement.value, Statement.text,
        Statement.splitTags_text]
    | assignee value =>
      simp [Statement.addTo, Statement.kind, Statement.value, Statement.text, value.trimmed]
    | priority level =>
      simp [Statement.addTo, Statement.kind, Statement.value, Text.lower_of_ascii level.ascii]

theorem areWords (pieces : Arrangement) : Text.AreWords pieces.words := by
  intro w hw
  obtain ⟨⟨g, w' | a⟩, -, hw⟩ := List.mem_filterMap.1 hw
  · cases hw
    exact ⟨w'.ne_nil, w'.solid⟩
  · cases hw

theorem isBlank_of_head_left (taken : List Kind) (hblanks : ∀ c ∈ blanks, Text.isBlank c)
    (pieces : Arrangement) : ∀ c ∈ (left taken pieces ++ blanks).head?, Text.isBlank c := by
  intro c hc
  cases pieces with
  | nil => exact hblanks c (List.mem_of_mem_head? hc)
  | cons x pieces =>
    obtain ⟨d, r, hd⟩ := List.exists_cons_of_ne_nil x.1.ne_nil
    rw [left_cons, hd] at hc
    have hdc : d = c := Option.some.inj hc
    exact x.1.blank c (by rw [hd, hdc]; exact List.mem_cons_self)

/-- Once all annotations are taken out, the words are left. -/
theorem words_left (hall : ∀ k, k ∈ taken) (hblanks : ∀ c ∈ blanks, Text.isBlank c)
    (pieces : Arrangement) : Text.words (left taken pieces ++ blanks) = pieces.words := by
  rw [Text.words_eq_parts]
  induction pieces with
  | nil =>
    have hnone := Text.parts_of_separators (f := id) rfl hblanks []
    rw [List.append_nil, Text.parts_nil rfl] at hnone
    exact hnone
  | cons x pieces ih =>
    obtain ⟨g, w | a⟩ := x
    · have hwords : words ((g, .word w) :: pieces) = w.text :: words pieces := rfl
      rw [left_cons, List.append_assoc, List.append_assoc, Text.parts_of_separators rfl g.blank,
        hwords, ← ih]
      exact Text.parts_solid rfl w.solid w.ne_nil rfl (isBlank_of_head_left taken hblanks pieces)
    · have hleft : Piece.left taken (.mark a) = [' '] := if_pos (hall _)
      have hwords : words ((g, .mark a) :: pieces) = words pieces := rfl
      have hspace : ∀ c ∈ [' '], Text.isBlank c := List.all_eq_true.1 (by decide)
      rw [left_cons, hleft, List.append_assoc, List.append_assoc,
        Text.parts_of_separators rfl g.blank, Text.parts_of_separators rfl hspace, ih, hwords]

/-- **What is extracted from an arrangement**: what its annotations state, and its words. -/
theorem extract_text (honce : (pieces.statements.map Statement.kind).Nodup)
    (hblanks : ∀ c ∈ blanks, Text.isBlank c) :
    Metadata.extract (pieces.text ++ blanks) = (pieces.metadata, Text.join " " pieces.words) := by
  have hdue : Kind.due.take (pieces.text ++ blanks) =
      (pieces.value? .due, left [.due] pieces ++ blanks) := by
    rw [← left_nil, take_left (by decide) honce hblanks]
  have htags := take_left (by decide : Kind.tags ∉ [.due]) honce hblanks
  have hassignee := take_left (by decide : Kind.assignee ∉ [.tags, .due]) honce hblanks
  have hpriority := take_left (by decide : Kind.priority ∉ [.assignee, .tags, .due]) honce hblanks
  have hall : ∀ k : Kind, k ∈ [.priority, .assignee, .tags, .due] := by
    intro k
    cases k <;> decide
  have hwords := words_left hall hblanks pieces
  rw [Metadata.extract_eq, metadata_eq]
  simp only [Kind.takeAll, List.foldl_cons, List.foldl_nil, hdue, htags, hassignee, hpriority,
    Text.squeeze, hwords]
  rfl

end Arrangement

/-! ### The body of a comment -/

section

variable {pieces : Arrangement} {blanks : Text}

/-- The separators behind a keyword end where the first piece begins. -/
theorem extract_dropWhile_isSeparator (hblanks : ∀ c ∈ blanks, Text.isBlank c)
    (hfirst : ∀ w ∈ pieces.words.head?, ∀ c ∈ w.head?, Body.isDebris c = false) :
    Metadata.extract ((pieces.text ++ blanks).dropWhile Body.isSeparator) =
      Metadata.extract (pieces.text ++ blanks) := by
  have hseparator {g : Text} (hg : ∀ c ∈ g, Text.isBlank c) : ∀ c ∈ g, Body.isSeparator c := by
    intro c hc
    simp [Body.isSeparator, hg c hc]
  cases pieces with
  | nil =>
    have hblank := Metadata.extract_append_of_blank hblanks []
    rw [List.append_nil] at hblank
    show Metadata.extract (blanks.dropWhile Body.isSeparator) = Metadata.extract blanks
    rw [List.dropWhile_eq_nil_iff.2 (hseparator hblanks), hblank]
  | cons x pieces =>
    obtain ⟨g, p⟩ := x
    have hpiece : ∃ c r, p.text = c :: r ∧ Body.isSeparator c = false := by
      cases p with
      | word w =>
        obtain ⟨c, r, hw⟩ := List.exists_cons_of_ne_nil w.ne_nil
        have hc : Body.isDebris c = false := hfirst w.text rfl c (by rw [hw]; rfl)
        simp only [Body.isDebris, Bool.or_eq_false_iff] at hc
        exact ⟨c, r, hw, hc.1.1⟩
      | mark a => exact ⟨'@', _, rfl, by decide⟩
    obtain ⟨c, r, hp, hc⟩ := hpiece
    have htext : Arrangement.text ((g, p) :: pieces) ++ blanks =
        g.text ++ (c :: (r ++ (Arrangement.text pieces ++ blanks))) := by
      show g.text ++ p.text ++ Arrangement.text pieces ++ blanks = _
      rw [hp]
      simp
    rw [htext, List.dropWhile_append_of_pos (hseparator g.blank),
      List.dropWhile_cons_of_neg (by simp [hc]), Metadata.extract_append_of_blank g.blank]

/-- Words with single spaces between them are a clean message. -/
theorem cleanMessage_join {ws : List Text} (hws : Text.AreWords ws)
    (hfirst : ∀ w ∈ ws.head?, ∀ c ∈ w.head?, Body.isDebris c = false) :
    Body.cleanMessage (Text.join " " ws) = Text.join " " ws := by
  have hdebris : (Text.join " " ws).dropWhile Body.isDebris = Text.join " " ws := by
    cases hj : Text.join " " ws with
    | nil => rfl
    | cons c r =>
      have hc := Text.head?_join fun w hw => (hws w hw).1
      rw [hj] at hc
      obtain ⟨w, hw, hc⟩ := Option.bind_eq_some_iff.1 hc.symm
      exact List.dropWhile_cons_of_neg (by simp [hfirst w hw c hc])
  rw [Body.cleanMessage, hdebris, hws.trim_join]

end

/-- **Annotations may stand anywhere.** Behind a keyword, words and annotations of different kinds
are written in any order, with blanks before each. Then the keyword is found, the words are the
message, and the metadata is what the annotations state; the digest depends on the words and the
keyword alone. -/
theorem parse?_arranged {texts : List Text} {k blanks : Text}
    (hplain : ∀ p ∈ texts, Keywords.IsPlain p) (hk : k ∈ texts) (pieces : Arrangement)
    (hblanks : ∀ c ∈ blanks, Text.isBlank c)
    (honce : (pieces.statements.map Statement.kind).Nodup)
    (hfirst : ∀ w ∈ pieces.words.head?, ∀ c ∈ w.head?, c ∉ [':', '-', '\u2013', '\u2014']) :
    ∃ ks body, Keywords.ofTexts? texts = some ks ∧
      Body.parse? ks (k ++ pieces.text ++ blanks) = some body ∧
      body = ⟨Text.upper k, Text.join " " pieces.words, pieces.metadata⟩ ∧
      ∀ path line, (Task.ofBody path line body).digest = identityDigest path line
        (if pieces.words = [] then Text.upper k else Text.join " " pieces.words) := by
  obtain ⟨ks, hks, hwords⟩ := Keywords.exists_ofTexts?_of_plain hplain (List.ne_nil_of_mem hk)
  have hsolid : Text.AreWords pieces.words := pieces.areWords
  have hdebris : ∀ w ∈ pieces.words.head?, ∀ c ∈ w.head?, Body.isDebris c = false := by
    intro w hw c hc
    have hblank := (hsolid w (List.mem_of_mem_head? hw)).2 c (List.mem_of_mem_head? hc)
    have hmark := hfirst w hw c hc
    simp only [List.mem_cons, List.not_mem_nil, or_false, not_or] at hmark
    simp [Body.isDebris, Body.isSeparator, hblank, hmark]
  have hstop : Text.beginsWithWordChar (pieces.text ++ blanks) = false := by
    have hhead := Arrangement.isBlank_of_head_left [] hblanks pieces
    rw [Arrangement.left_nil] at hhead
    cases ht : pieces.text ++ blanks with
    | nil => rfl
    | cons c r => exact Text.isWordChar_of_isBlank (hhead c (by rw [ht]; rfl))
  have hmatch : ks.match? (k ++ pieces.text ++ blanks) = some (k, pieces.text ++ blanks) := by
    rw [List.append_assoc]
    exact Keywords.match?_append_of_plain (by rwa [hwords]) (by rwa [hwords]) hstop
  have hparse : Body.parse? ks (k ++ pieces.text ++ blanks) =
      some ⟨Text.upper k, Text.join " " pieces.words, pieces.metadata⟩ := by
    simp only [Body.parse?, hmatch, extract_dropWhile_isSeparator hblanks hdebris,
      Arrangement.extract_text honce hblanks, cleanMessage_join hsolid hdebris]
  refine ⟨ks, _, hks, hparse, rfl, fun path line => ?_⟩
  have hjoin := Text.join_eq_nil_iff fun w hw => (hsolid w hw).1
  simp only [Task.digest, Task.label, Task.ofBody, hsolid.trim_join, hjoin]

namespace MixedOrder

/-- Two keywords, of which the one is the front of the other. -/
def texts : List Text := ["TODOX".toList, "TODO".toList]

/-- Blanks that are given. -/
def gap (t : Text) (h : t ≠ [] ∧ t.all Text.isBlank) : Gap := ⟨t, h.1, List.all_eq_true.1 h.2⟩

/-- A word that is given. -/
def word (t : Text) (h : t ≠ [] ∧ (t.all fun c => Text.isBlank c = false) ∧ '@' ∉ t) : Piece :=
  .word ⟨t, h.1, List.all_iff_forall_prop.1 h.2.1, h.2.2⟩

/-- A tag that is given. -/
def tag (t : Text) (h : t ≠ [] ∧ (t.all fun c => Text.isBlank c = false) ∧ ',' ∉ t) : Tag :=
  ⟨t, h.1, List.all_iff_forall_prop.1 h.2.1, h.2.2⟩

/-- A comma and a space. -/
def comma : TagGap := ⟨", ".toList, by decide, List.all_iff_forall_prop.1 (by decide)⟩

/-- A low priority in capitals between spaces. -/
def low : Level :=
  ⟨" ".toList, "LOW".toList, " ".toList, List.all_eq_true.1 (by decide), by decide,
    List.all_eq_true.1 (by decide)⟩

/-- A priority in front, and two annotations with parentheses and capitals among two words. -/
def pieces : Arrangement :=
  [(gap " ".toList (by decide),
      .mark ⟨"P".toList, .priority low, by decide, by decide, by decide⟩),
    (gap "\t".toList (by decide), word "fix".toList (by decide)),
    (gap "\u3000".toList (by decide),
      .mark ⟨"TagS".toList, .tags (tag "a(".toList (by decide)) [(comma, tag "b".toList (by decide))],
        by decide, by decide, by decide⟩),
    (gap "  ".toList (by decide), word "(it".toList (by decide)),
    (gap " ".toList (by decide),
      .mark ⟨"due".toList, .due ⟨"by (today".toList, by decide, by decide⟩, by decide, by decide,
        by decide⟩)]

end MixedOrder

theorem parse?_arranged_mixed_order :
    "TODO".toList ++ MixedOrder.pieces.text ++ " ".toList =
        "TODO @P( LOW )\tfix\u3000@TagS(a(, b)  (it @due(by (today) ".toList ∧
      ∃ ks body, Keywords.ofTexts? MixedOrder.texts = some ks ∧
        Body.parse? ks ("TODO".toList ++ MixedOrder.pieces.text ++ " ".toList) = some body ∧
        body = ⟨"TODO".toList, "fix (it".toList, ["a(".toList, "b".toList], some "by (today".toList,
          none, some "low".toList⟩ ∧
        (Task.ofBody "a.py".toList 3 body).digest =
          identityDigest "a.py".toList 3 "fix (it".toList := by
  have hplain : ∀ p ∈ MixedOrder.texts, Keywords.IsPlain p := by
    intro p hp
    have hall : ∀ p ∈ MixedOrder.texts, p ≠ [] ∧ p.all Text.isPlainWordChar := by decide
    exact ⟨(hall p hp).1, List.all_eq_true.1 (hall p hp).2⟩
  have hkeyword : "TODO".toList ∈ MixedOrder.texts := by decide
  have hblank : ∀ c ∈ " ".toList, Text.isBlank c := List.all_eq_true.1 (by decide)
  have hfirst : ∀ w ∈ MixedOrder.pieces.words.head?, ∀ c ∈ w.head?,
      c ∉ [':', '-', '\u2013', '\u2014'] := by
    rintro w ⟨⟩ c ⟨⟩
    decide
  obtain ⟨ks, body, hks, hparse, hbody, hdigest⟩ :=
    parse?_arranged hplain hkeyword MixedOrder.pieces hblank (by decide) hfirst
  have hupper : Text.upper "TODO".toList = "TODO".toList := by decide +kernel
  refine ⟨by decide, ks, body, hks, hparse, ?_, (hdigest _ _).trans (by rfl)⟩
  rw [hbody, hupper]
  rfl

end CommentTasks
