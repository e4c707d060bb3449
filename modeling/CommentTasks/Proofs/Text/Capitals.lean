import CommentTasks.Proofs.Text.Letters
import Mathlib.Data.List.Chain
import Mathlib.Data.List.Nodup

/-!
# The capital forms of letters that compare as one

Letters that compare as one have the same capital form, apart from six capital letters, which are
their own capital forms while the other letters of their class have another one. So two texts with
the same letters have the same capital form exactly if the six stand at the same places:
`upper_eq_upper_iff`.

The tables are compared run by run: a run of small forms is undone by one run of capital forms, as
long as no letter of it is in the table of capital forms itself. Sets of code points are compared as
numbers with a bit for each element.
-/

namespace CommentTasks.Text

/-- The capital letters that compare as letters with another capital form: the dotted I, the theta
symbol, the sharp S, and the signs for ohm, kelvin and angstrom. -/
def loneCapitals : List Char := ['\u0130', '\u03f4', '\u1e9e', '\u2126', '\u212a', '\u212b']

/-! ### Sets of numbers -/

/-- A set of numbers as one number, with a bit for each. -/
def bits (ns : List Nat) : Nat := ns.foldr (fun n b => b ||| 1 <<< n) 0

theorem testBit_bits {ns : List Nat} {n : Nat} : (bits ns).testBit n ↔ n ∈ ns := by
  induction ns with
  | nil => simp [bits]
  | cons m ns ih =>
    have hcons : bits (m :: ns) = bits ns ||| 1 <<< m := rfl
    rw [hcons, Nat.testBit_or, Bool.or_eq_true, ih, Nat.one_shiftLeft, Nat.testBit_two_pow,
      decide_eq_true_eq, List.mem_cons, or_comm, eq_comm]

theorem not_mem_of_bits {ns ms : List Nat} {n : Nat} (h : bits ns &&& bits ms = 0) (hn : n ∈ ns) :
    n ∉ ms := by
  intro hm
  have hbit : (bits ns &&& bits ms).testBit n := by
    rw [Nat.testBit_and, testBit_bits.2 hn, testBit_bits.2 hm]
    rfl
  rw [h, Nat.zero_testBit] at hbit
  cases hbit

/-! ### Runs -/

namespace CaseRange

variable {r s : CaseRange} {n : Nat}

/-- The numbers from a first one on, in the steps of the run. -/
def stepsFrom (r : CaseRange) (first : Nat) : List Nat :=
  List.range' first ((r.last - r.first) / r.stride + 1) r.stride

/-- The code points that a run maps. -/
def codes (r : CaseRange) : List Nat := r.stepsFrom r.first

/-- The code points to which a run maps. -/
def images (r : CaseRange) : List Nat := r.stepsFrom r.image

theorem mem_stepsFrom (hl : n ≤ r.last) (hd : (n - r.first) % r.stride = 0) (first : Nat) :
    first + (n - r.first) ∈ r.stepsFrom first := by
  refine List.mem_range'.2 ⟨(n - r.first) / r.stride, ?_, ?_⟩
  · exact Nat.lt_succ_of_le (Nat.div_le_div_right (Nat.sub_le_sub_right hl _))
  · rw [Nat.mul_div_cancel' (Nat.dvd_of_mod_eq_zero hd)]

theorem mem_codes (hf : r.first ≤ n) (hl : n ≤ r.last) (hd : (n - r.first) % r.stride = 0) :
    n ∈ r.codes := by
  have h := mem_stepsFrom hl hd r.first
  rwa [Nat.add_sub_cancel' hf] at h

/-- The run ends before the other one begins. -/
def Before (r s : CaseRange) : Prop := r.first ≤ r.last ∧ r.last < s.first

instance (r s : CaseRange) : Decidable (r.Before s) := inferInstanceAs (Decidable (_ ∧ _))

instance : Trans Before Before Before where
  trans hrs hst := ⟨hrs.1, hrs.2.trans (hst.1.trans_lt hst.2)⟩

/-- The run maps all images of the other one back. -/
def Undoes (s r : CaseRange) : Prop :=
  s.first ≤ r.image ∧ r.image + (r.last - r.first) ≤ s.last ∧ (r.image - s.first) % s.stride = 0 ∧
    (r.first = r.last ∨ r.stride % s.stride = 0) ∧ s.image + (r.image - s.first) = r.first

instance (s r : CaseRange) : Decidable (s.Undoes r) := inferInstanceAs (Decidable (_ ∧ _))

end CaseRange

/-- Of runs in increasing order, the one that holds a code point maps it. -/
theorem caseImage?_of_mem {ranges : List CaseRange} {r : CaseRange} {n : Nat}
    (hinc : ranges.IsChain CaseRange.Before) (hr : r ∈ ranges)
    (hf : r.first ≤ n) (hl : n ≤ r.last) (hd : (n - r.first) % r.stride = 0) :
    caseImage? n ranges = some (r.image + (n - r.first)) := by
  replace hinc := List.isChain_iff_pairwise.1 hinc
  induction ranges with
  | nil => cases hr
  | cons s ranges ih =>
    rw [List.pairwise_cons] at hinc
    rw [caseImage?]
    rcases List.mem_cons.1 hr with rfl | hr
    · rw [if_neg (Nat.not_lt.2 hf), if_pos ⟨hl, hd⟩]
    · obtain ⟨hvalid, hlt⟩ := hinc.1 r hr
      rw [if_neg (by omega), if_neg (by omega)]
      exact ih hr hinc.2

theorem caseImage?_eq_none {ranges : List CaseRange} {n : Nat}
    (h : n ∉ ranges.flatMap CaseRange.codes) : caseImage? n ranges = none := by
  cases hc : caseImage? n ranges with
  | none => rfl
  | some m =>
    obtain ⟨r, hr, hf, hl, hd, -⟩ := exists_of_caseImage?_eq_some hc
    exact absurd (List.mem_flatMap.2 ⟨r, hr, CaseRange.mem_codes hf hl hd⟩) h

/-! ### The tables -/

/-- The letters whose capital form has several letters. -/
def expanded : List Nat := capitalExpansions.map fun x => x.1.toNat

theorem capitalForm_of_not_mem {c : Char} (h : c.toNat ∉ expanded) :
    capitalForm c = [((caseImage? c.toNat capitalRanges).map Char.ofNat).getD c] := by
  have hnone : capitalExpansions.lookup c = none := by
    rw [List.lookup_eq_none_iff]
    intro x hx
    rw [bne_iff_ne]
    rintro rfl
    exact h (List.mem_map_of_mem hx)
  rw [capitalForm, hnone]

/-- The first letters of the runs with a letter that has a capital form besides itself or several
letters in its capital form. -/
def oddFirsts : List Nat :=
  [453, 456, 459, 498, 1012, 7838, 8072, 8088, 8104, 8124, 8140, 8188, 8486, 8490, 8491]

/-- The other runs of capital letters. -/
def plainRanges : List CaseRange := smallRanges.filter fun r => r.first ∉ oddFirsts

/-- What the tables are checked for. It is one check, as each check of its own would hold a thread
of the kernel for seconds. -/
theorem tables :
    capitalRanges.IsChain CaseRange.Before ∧
    (∀ r ∈ plainRanges, (capitalRanges.find? fun s => r.image ≤ s.last).any fun s => s.Undoes r) ∧
    bits (plainRanges.flatMap CaseRange.codes) &&&
      bits (capitalRanges.flatMap CaseRange.codes ++ expanded) = 0 ∧
    bits (plainRanges.flatMap CaseRange.images) &&& bits expanded = 0 ∧
    (∀ r ∈ smallRanges, r.first ∈ oddFirsts → ∀ n ∈ r.codes, Char.ofNat n ∈ loneCapitals ∨
      capitalForm (smallLetter (Char.ofNat n)) = capitalForm (Char.ofNat n)) ∧
    (∀ v ∈ letterVariants, capitalForm v.2 = capitalForm v.1) ∧
    (∀ x ∈ capitalExpansions, x.2.toList ≠ [] ∧ loneCapitals.all fun c => c ∉ x.2.toList) ∧
    (∀ r ∈ capitalRanges, loneCapitals.all fun c =>
      c.toNat < r.image ∨ r.image + (r.last - r.first) < c.toNat) ∧
    loneCapitals.all fun c => capitalForm c = [c] ∧ (capitalForm (letterClass c)).head? ≠ some c ∧
      loneCapitals.all fun a => sameLetter c a → c = a := by
  decide +kernel

theorem capitalRanges_increasing : capitalRanges.IsChain CaseRange.Before := tables.1

/-- Each plain run is undone by the run of capital forms that holds its first image. -/
theorem undone : ∀ r ∈ plainRanges,
    (capitalRanges.find? fun s => r.image ≤ s.last).any fun s => s.Undoes r :=
  tables.2.1

/-- No letter of a plain run is in the tables of capital forms. -/
theorem plain_codes : bits (plainRanges.flatMap CaseRange.codes) &&&
    bits (capitalRanges.flatMap CaseRange.codes ++ expanded) = 0 :=
  tables.2.2.1

theorem plain_images : bits (plainRanges.flatMap CaseRange.images) &&& bits expanded = 0 :=
  tables.2.2.2.1

/-- The letters of the other runs, one by one. -/
theorem odd_codes : ∀ r ∈ smallRanges, r.first ∈ oddFirsts → ∀ n ∈ r.codes,
    Char.ofNat n ∈ loneCapitals ∨
      capitalForm (smallLetter (Char.ofNat n)) = capitalForm (Char.ofNat n) :=
  tables.2.2.2.2.1

theorem capitalForm_variants : ∀ v ∈ letterVariants, capitalForm v.2 = capitalForm v.1 :=
  tables.2.2.2.2.2.1

/-- No capital form of several letters is empty or has a lone capital. -/
theorem expansion_cases : ∀ x ∈ capitalExpansions,
    x.2.toList ≠ [] ∧ ∀ c ∈ loneCapitals, c ∉ x.2.toList := by
  intro x hx
  obtain ⟨hne, hlone⟩ := tables.2.2.2.2.2.2.1 x hx
  exact ⟨hne, List.all_iff_forall_prop.1 hlone⟩

/-- No run maps to a lone capital. -/
theorem lone_not_image : ∀ r ∈ capitalRanges, ∀ c ∈ loneCapitals,
    c.toNat < r.image ∨ r.image + (r.last - r.first) < c.toNat :=
  fun r hr => List.all_iff_forall_prop.1 (tables.2.2.2.2.2.2.2.1 r hr)

/-- A lone capital is its own capital form, the capital form of its class begins with another
letter, and no other lone capital is in its class. -/
theorem lone_cases : ∀ c ∈ loneCapitals, capitalForm c = [c] ∧
    (capitalForm (letterClass c)).head? ≠ some c ∧ ∀ a ∈ loneCapitals, sameLetter c a → c = a := by
  intro c hc
  obtain ⟨hform, hhead, hclass⟩ := List.all_iff_forall_prop.1 tables.2.2.2.2.2.2.2.2 c hc
  exact ⟨hform, hhead, List.all_iff_forall_prop.1 hclass⟩

/-- The capital form of a letter is a form of several letters, or the letter itself, or a letter to
which a run maps. -/
theorem capitalForm_cases (c : Char) :
    (∃ x ∈ capitalExpansions, capitalForm c = x.2.toList) ∨ capitalForm c = [c] ∨
      ∃ r ∈ capitalRanges, ∃ d, capitalForm c = [d] ∧ r.image ≤ d.toNat ∧
        d.toNat ≤ r.image + (r.last - r.first) := by
  have hvalid : ∀ r ∈ capitalRanges, r.image + (r.last - r.first) < 0xD800 ∨
      0xDFFF < r.image ∧ r.image + (r.last - r.first) < 0x110000 := by
    decide +kernel
  unfold capitalForm
  cases h : capitalExpansions.lookup c with
  | some form =>
    obtain ⟨front, back, he, -⟩ := List.lookup_eq_some_iff.1 h
    exact .inl ⟨(c, form), by simp [he], rfl⟩
  | none =>
    cases hi : caseImage? c.toNat capitalRanges with
    | none => exact .inr (.inl rfl)
    | some m =>
      obtain ⟨r, hr, hf, hl, -, rfl⟩ := exists_of_caseImage?_eq_some hi
      have hvalid := hvalid r hr
      have himage : (Char.ofNat (r.image + (c.toNat - r.first))).toNat =
          r.image + (c.toNat - r.first) :=
        Utf8.toNat_ofNat (by omega)
      exact .inr (.inr ⟨r, hr, Char.ofNat (r.image + (c.toNat - r.first)), rfl, by omega, by omega⟩)

theorem isBlank_of_mem_capitalForm {a c : Char} (ha : isBlank a = false) (hc : c ∈ capitalForm a) :
    isBlank c = false := by
  have hexpansions : ∀ x ∈ capitalExpansions, x.2.toList.all fun c => isBlank c = false := by
    decide +kernel
  have hruns : ∀ r ∈ capitalRanges, ∀ n ∈ blankCodes,
      n < r.image ∨ r.image + (r.last - r.first) < n := by
    decide +kernel
  rcases capitalForm_cases a with ⟨x, hx, hform⟩ | hform | ⟨r, hr, d, hform, hfirst, hlast⟩
  · rw [hform] at hc
    exact List.all_iff_forall_prop.1 (hexpansions x hx) c hc
  · rw [hform, List.mem_singleton] at hc
    exact hc ▸ ha
  · rw [hform, List.mem_singleton] at hc
    subst hc
    by_contra hblank
    have hrange := hruns r hr c.toNat (mem_blankCodes (by simpa using hblank))
    omega

/-! ### The capital forms of a class -/

/-- A run of capital letters is undone. -/
theorem caseImage?_image {r : CaseRange} (hr : r ∈ plainRanges) {n : Nat} (hf : r.first ≤ n)
    (hl : n ≤ r.last) (hd : (n - r.first) % r.stride = 0) :
    caseImage? (r.image + (n - r.first)) capitalRanges = some n := by
  obtain ⟨s, hs, hundoes⟩ := (Option.any_eq_true _ _).1 (undone r hr)
  obtain ⟨hfirst, hlast, hstep, hsteps, hback⟩ : s.Undoes r := by simpa using hundoes
  have hdist : (r.image + (n - r.first) - s.first) % s.stride = 0 := by
    have hsum : r.image + (n - r.first) - s.first = (r.image - s.first) + (n - r.first) := by omega
    have hn : s.stride ∣ n - r.first := by
      rcases hsteps with he | hd'
      · have hn : n - r.first = 0 := by omega
        rw [hn]
        exact Nat.dvd_zero _
      · exact Nat.dvd_trans (Nat.dvd_of_mod_eq_zero hd') (Nat.dvd_of_mod_eq_zero hd)
    rw [hsum]
    exact Nat.mod_eq_zero_of_dvd (Nat.dvd_add (Nat.dvd_of_mod_eq_zero hstep) hn)
  rw [caseImage?_of_mem capitalRanges_increasing (List.mem_of_find?_eq_some hs) (by omega) (by omega)
    hdist]
  congr 1
  omega

/-- A letter and its small form have the same capital form. -/
theorem capitalForm_smallLetter {c : Char} (hc : c ∉ loneCapitals) :
    capitalForm (smallLetter c) = capitalForm c := by
  rcases smallLetter_cases c with ⟨rfl, -⟩ | hs | ⟨r, hr, hf, hl, hd, hs⟩
  · exact absurd (by decide) hc
  · rw [hs]
  · by_cases hodd : r.first ∈ oddFirsts
    · have h := odd_codes r hr hodd c.toNat (CaseRange.mem_codes hf hl hd)
      rw [Char.ofNat_toNat] at h
      exact h.resolve_left hc
    · have hplain : r ∈ plainRanges := List.mem_filter.2 ⟨hr, by simpa using hodd⟩
      have hcode : c.toNat ∈ plainRanges.flatMap CaseRange.codes :=
        List.mem_flatMap.2 ⟨r, hplain, CaseRange.mem_codes hf hl hd⟩
      have himage : (smallLetter c).toNat ∈ plainRanges.flatMap CaseRange.images :=
        List.mem_flatMap.2 ⟨r, hplain, hs ▸ CaseRange.mem_stepsFrom hl hd r.image⟩
      have hnot := not_mem_of_bits plain_codes hcode
      rw [List.mem_append, not_or] at hnot
      rw [capitalForm_of_not_mem hnot.2, caseImage?_eq_none hnot.1,
        capitalForm_of_not_mem (not_mem_of_bits plain_images himage), hs,
        caseImage?_image hplain hf hl hd, Option.map_some, Option.getD_some, Char.ofNat_toNat]
      rfl

/-- **All letters of a class have the capital form of the class**, apart from the lone capitals. -/
theorem capitalForm_letterClass {c : Char} (hc : c ∉ loneCapitals) :
    capitalForm (letterClass c) = capitalForm c := by
  rcases letterClass_cases c with ⟨v, hv, hvs, hvc⟩ | hclass
  · rw [hvc, capitalForm_variants v hv, hvs, capitalForm_smallLetter hc]
  · rw [hclass, capitalForm_smallLetter hc]

section

variable {a c : Char}

theorem capitalForm_eq_of_sameLetter (h : sameLetter a c) (ha : a ∉ loneCapitals)
    (hc : c ∉ loneCapitals) : capitalForm a = capitalForm c := by
  rw [← capitalForm_letterClass ha, ← capitalForm_letterClass hc, sameLetter_iff.1 h]

theorem capitalForm_ne_nil (c : Char) : capitalForm c ≠ [] := by
  rcases capitalForm_cases c with ⟨x, hx, hform⟩ | hform | ⟨r, -, d, hform, -⟩
  · rw [hform]
    exact (expansion_cases x hx).1
  · rw [hform]
    exact List.cons_ne_nil _ _
  · rw [hform]
    exact List.cons_ne_nil _ _

/-- A lone capital and another letter of its class have capital forms with different first
letters. -/
theorem head?_capitalForm_ne (h : sameLetter a c) (ha : a ∈ loneCapitals) (hne : a ≠ c) :
    (capitalForm a).head? ≠ (capitalForm c).head? := by
  obtain ⟨hform, hhead, hclass⟩ := lone_cases a ha
  have hc : c ∉ loneCapitals := fun hc => hne (hclass c hc h)
  rw [hform, ← capitalForm_letterClass hc, ← sameLetter_iff.1 h]
  exact Ne.symm hhead

/-- The two are the same letter, or neither is a lone capital. -/
def SameCapitals (a c : Char) : Prop := a = c ∨ a ∉ loneCapitals ∧ c ∉ loneCapitals

/-- Texts that begin with the capital forms of letters of one class are compared part by part. -/
theorem capitalForm_append_inj (h : sameLetter a c) {x y : Text} :
    capitalForm a ++ x = capitalForm c ++ y ↔ SameCapitals a c ∧ x = y := by
  have hhead (hne : (capitalForm a).head? ≠ (capitalForm c).head?) :
      capitalForm a ++ x ≠ capitalForm c ++ y := by
    intro he
    have hh := congrArg List.head? he
    rw [List.head?_append_of_ne_nil _ (capitalForm_ne_nil a),
      List.head?_append_of_ne_nil _ (capitalForm_ne_nil c)] at hh
    exact hne hh
  by_cases hsame : SameCapitals a c
  · have hform : capitalForm a = capitalForm c := by
      rcases hsame with rfl | ⟨ha, hc⟩
      · rfl
      · exact capitalForm_eq_of_sameLetter h ha hc
    rw [hform, List.append_cancel_left_eq, and_iff_right hsame]
  · refine iff_of_false (hhead ?_) fun hs => hsame hs.1
    simp only [SameCapitals, not_or, not_and_or, not_not] at hsame
    rcases hsame with ⟨hne, ha | hc⟩
    · exact head?_capitalForm_ne h ha hne
    · have hsymm : sameLetter c a := sameLetter_iff.2 (sameLetter_iff.1 h).symm
      exact Ne.symm (head?_capitalForm_ne hsymm hc (Ne.symm hne))

end

theorem upper_eq_nil_iff {t : Text} : upper t = [] ↔ t = [] := by
  cases t with
  | nil => exact iff_of_true rfl rfl
  | cons c t => simp [upper, capitalForm_ne_nil c]

/-- Different fronts of a text have different capital forms. -/
theorem eq_of_isPrefix_of_upper_eq {t k m : Text} (hk : k <+: t) (hm : m <+: t)
    (h : upper k = upper m) : k = m := by
  have longer {k m : Text} (hkm : k <+: m) (h : upper k = upper m) : k = m := by
    obtain ⟨more, rfl⟩ := hkm
    have hmore : upper more = [] := by
      rw [upper, upper, List.flatMap_append] at h
      exact (List.append_right_eq_self.1 h.symm)
    rw [upper_eq_nil_iff.1 hmore, List.append_nil]
  rcases List.prefix_or_prefix_of_prefix hk hm with hkm | hmk
  · exact longer hkm h
  · exact (longer hmk h.symm).symm

/-- **Texts with the same letters have the same capital form** exactly if the same lone capitals
stand at the same places. -/
theorem upper_eq_upper_iff {k m : Text} (h : SameLetters k m) :
    upper k = upper m ↔ List.Forall₂ SameCapitals k m := by
  induction h with
  | nil => exact iff_of_true rfl .nil
  | cons hc _ ih =>
    rw [upper, upper, List.flatMap_cons, List.flatMap_cons, capitalForm_append_inj hc,
      List.forall₂_cons, ← ih]
    rfl

/-- A lone capital stands in the capital form only of itself. -/
theorem not_mem_capitalForm {a c : Char} (ha : a ∉ loneCapitals) (hc : c ∈ loneCapitals) :
    c ∉ capitalForm a := by
  rcases capitalForm_cases a with ⟨x, hx, hform⟩ | hform | ⟨r, hr, d, hform, hfirst, hlast⟩
  · rw [hform]
    exact (expansion_cases x hx).2 c hc
  · rw [hform, List.mem_singleton]
    rintro rfl
    exact ha hc
  · rw [hform, List.mem_singleton]
    rintro rfl
    have hrange := lone_not_image r hr c hc
    omega

/-- Lone capitals stand in the capital form of a text exactly if they stand in the text. -/
theorem mem_upper_iff {c : Char} (hc : c ∈ loneCapitals) {t : Text} : c ∈ upper t ↔ c ∈ t := by
  rw [upper, List.mem_flatMap]
  constructor
  · rintro ⟨a, ha, hca⟩
    by_cases hlone : a ∈ loneCapitals
    · rw [(lone_cases a hlone).1, List.mem_singleton] at hca
      exact hca ▸ ha
    · exact absurd hca (not_mem_capitalForm hlone hc)
  · exact fun ht => ⟨c, ht, by rw [(lone_cases c hc).1]; exact List.mem_singleton_self c⟩

end CommentTasks.Text
