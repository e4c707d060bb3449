import CommentTasks.Encoding.Utf16
import CommentTasks.Proofs.Encoding.Utf8
import Mathlib.Data.List.Perm.Basic

/-!
# UTF-16 is exact

Without a byte order mark the reader takes what the writer makes with the low byte of each unit
first, and nothing else: `decode?_eq_some_iff`. So bytes can be read exactly if their number is even
and every surrogate among their units is half of a pair: `exists_eq_encode_iff`. Behind a mark the
reader takes what is written in the byte order of the mark: `decode?_encodeMarked`.
-/

namespace CommentTasks.Utf16

/-! ### Writing -/

/-- The units of a character: itself, or a pair of surrogates if one unit cannot hold it. -/
def unitsOf (c : Char) : List Nat :=
  if c.toNat < 0x10000 then [c.toNat]
  else [0xD800 + (c.toNat - 0x10000) / 0x400, 0xDC00 + (c.toNat - 0x10000) % 0x400]

/-- The two bytes of a unit, the low one first. -/
def bytesOf (u : Nat) : Bytes := [UInt8.ofNat (u % 0x100), UInt8.ofNat (u / 0x100)]

/-- The bytes of a text without a byte order mark, the low byte of each unit first. -/
def encode (t : Text) : Bytes := (t.flatMap unitsOf).flatMap bytesOf

theorem length_flatMap_bytesOf (us : List Nat) : (us.flatMap bytesOf).length = 2 * us.length := by
  simp [List.length_flatMap, bytesOf, Nat.mul_comm]

theorem length_encode_mod_two (t : Text) : (encode t).length % 2 = 0 := by
  rw [encode, length_flatMap_bytesOf, Nat.mul_mod_right]

/-! ### Units -/

/-- The unit is the first half of a pair of surrogates. -/
def IsHigh (u : Nat) : Prop := 0xD800 ≤ u ∧ u ≤ 0xDBFF

/-- The unit is the second half of a pair of surrogates. -/
def IsLow (u : Nat) : Prop := 0xDC00 ≤ u ∧ u ≤ 0xDFFF

/-- The unit is half of a pair of surrogates, and no character. -/
def IsSurrogate (u : Nat) : Prop := 0xD800 ≤ u ∧ u ≤ 0xDFFF

theorem isSurrogate_iff {u : Nat} : IsSurrogate u ↔ IsHigh u ∨ IsLow u := by
  unfold IsSurrogate IsHigh IsLow
  omega

theorem not_isSurrogate_iff {u : Nat} : ¬IsSurrogate u ↔ ¬IsHigh u ∧ ¬IsLow u := by
  rw [isSurrogate_iff, not_or]

theorem not_isSurrogate_toNat (c : Char) : ¬IsSurrogate c.toNat := by
  have hc := Utf8.toNat_valid c
  unfold IsSurrogate
  omega

theorem unit_littleEndian_lt (a b : UInt8) : ByteOrder.littleEndian.unit a b < 0x10000 := by
  have ha := a.toNat_lt
  have hb := b.toNat_lt
  rw [ByteOrder.unit]
  omega

theorem bytesOf_unit (a b : UInt8) : bytesOf (ByteOrder.littleEndian.unit a b) = [a, b] := by
  have ha := a.toNat_lt
  rw [bytesOf, ByteOrder.unit, Utf8.ofNat_eq (a := a) (by omega), Utf8.ofNat_eq (a := b) (by omega)]

theorem units?_bytesOf_append {u : Nat} (h : u < 0x10000) (bytes : Bytes) :
    units? .littleEndian (bytesOf u ++ bytes) = (units? .littleEndian bytes).map (u :: ·) := by
  have hu : ByteOrder.littleEndian.unit (UInt8.ofNat (u % 0x100)) (UInt8.ofNat (u / 0x100)) = u := by
    rw [ByteOrder.unit, Utf8.toNat_ofNat_of_lt (by omega), Utf8.toNat_ofNat_of_lt (by omega)]
    omega
  rw [bytesOf, List.cons_append, List.cons_append, List.nil_append, units?, hu]

/-- Bytes are read as the units that they are written of. -/
theorem units?_eq_some_iff {bytes : Bytes} {us : List Nat} :
    units? .littleEndian bytes = some us ↔ bytes = us.flatMap bytesOf ∧ ∀ u ∈ us, u < 0x10000 := by
  constructor
  · intro h
    fun_induction units? .littleEndian bytes generalizing us with
    | case1 =>
      cases h
      exact ⟨rfl, by simp⟩
    | case2 => cases h
    | case3 a b rest ih =>
      obtain ⟨us, hus, rfl⟩ := Option.map_eq_some_iff.1 h
      obtain ⟨rfl, hlt⟩ := ih hus
      refine ⟨?_, List.forall_mem_cons.2 ⟨unit_littleEndian_lt a b, hlt⟩⟩
      rw [List.flatMap_cons, bytesOf_unit]
      rfl
  · rintro ⟨rfl, hlt⟩
    induction us with
    | nil => rfl
    | cons u us ih =>
      rw [List.forall_mem_cons] at hlt
      rw [List.flatMap_cons, units?_bytesOf_append hlt.1, ih hlt.2]
      rfl

/-! ### Characters -/

section

variable {u v : Nat} {us : List Nat} {t : Text}

/-- The character of a pair of surrogates. -/
def pairChar (u v : Nat) : Char := Char.ofNat (0x10000 + (u - 0xD800) * 0x400 + (v - 0xDC00))

theorem unitsOf_ofNat (hu : u < 0x10000) (hs : ¬IsSurrogate u) : unitsOf (Char.ofNat u) = [u] := by
  unfold IsSurrogate at hs
  rw [unitsOf, Utf8.toNat_ofNat (by omega), if_pos hu]

theorem unitsOf_pairChar (hu : IsHigh u) (hv : IsLow v) : unitsOf (pairChar u v) = [u, v] := by
  unfold IsHigh at hu
  unfold IsLow at hv
  rw [unitsOf, pairChar, Utf8.toNat_ofNat (by omega), if_neg (by omega)]
  simp only [List.cons.injEq, and_true]
  constructor <;> omega

/-- A unit that is no surrogate is read as a character. -/
theorem ofUnits?_cons (hs : ¬IsSurrogate u) (us : List Nat) :
    ofUnits? (u :: us) = (ofUnits? us).map (Char.ofNat u :: ·) := by
  cases us with
  | nil => exact if_neg hs
  | cons v us =>
    obtain ⟨hh, hl⟩ := not_isSurrogate_iff.1 hs
    unfold IsHigh at hh
    unfold IsLow at hl
    rw [ofUnits?, if_neg hh, if_neg hl]

/-- A pair of surrogates is read as a character. -/
theorem ofUnits?_pair (hu : IsHigh u) (hv : IsLow v) (us : List Nat) :
    ofUnits? (u :: v :: us) = (ofUnits? us).map (pairChar u v :: ·) := by
  unfold IsHigh at hu
  unfold IsLow at hv
  rw [ofUnits?, if_pos hu, if_pos hv]
  rfl

/-- The units of a character are read as the character. -/
theorem ofUnits?_unitsOf_append (c : Char) (us : List Nat) :
    ofUnits? (unitsOf c ++ us) = (ofUnits? us).map (c :: ·) := by
  have hc := Utf8.toNat_valid c
  unfold unitsOf
  split
  · rw [List.singleton_append, ofUnits?_cons (not_isSurrogate_toNat c), Char.ofNat_toNat]
  · next hlong =>
    generalize hu : 0xD800 + (c.toNat - 0x10000) / 0x400 = u
    generalize hv : 0xDC00 + (c.toNat - 0x10000) % 0x400 = v
    have hn : 0x10000 + (u - 0xD800) * 0x400 + (v - 0xDC00) = c.toNat := by omega
    have hp : pairChar u v = c := by rw [pairChar, hn, Char.ofNat_toNat]
    rw [List.cons_append, List.singleton_append,
      ofUnits?_pair (by unfold IsHigh; omega) (by unfold IsLow; omega), hp]

theorem ofUnits?_flatMap_unitsOf (t : Text) : ofUnits? (t.flatMap unitsOf) = some t := by
  induction t with
  | nil => rfl
  | cons c t ih =>
    rw [List.flatMap_cons, ofUnits?_unitsOf_append, ih]
    rfl

/-- Units are read as the text that they are written of. -/
theorem ofUnits?_eq_some_iff (hus : ∀ u ∈ us, u < 0x10000) :
    ofUnits? us = some t ↔ us = t.flatMap unitsOf := by
  constructor
  · intro h
    fun_induction ofUnits? us generalizing t with
    | case1 =>
      cases h
      rfl
    | case2 => cases h
    | case3 u hu =>
      cases h
      rw [List.flatMap_singleton, unitsOf_ofNat (hus u List.mem_cons_self) hu]
    | case4 u v us hu hv ih =>
      simp only [List.forall_mem_cons] at hus
      obtain ⟨t, ht, rfl⟩ := Option.map_eq_some_iff.1 h
      rw [List.flatMap_cons, ← ih hus.2.2 ht]
      exact congrArg (· ++ us) (unitsOf_pairChar hu hv).symm
    | case5 => cases h
    | case6 => cases h
    | case7 u v us hh hl ih =>
      rw [List.forall_mem_cons] at hus
      obtain ⟨t, ht, rfl⟩ := Option.map_eq_some_iff.1 h
      rw [List.flatMap_cons, ← ih hus.2 ht, unitsOf_ofNat hus.1 (not_isSurrogate_iff.2 ⟨hh, hl⟩)]
      rfl
  · rintro rfl
    exact ofUnits?_flatMap_unitsOf t

theorem unitsOf_lt {c : Char} (hu : u ∈ unitsOf c) : u < 0x10000 := by
  have hc := Utf8.toNat_valid c
  unfold unitsOf at hu
  split at hu <;> simp only [List.mem_cons, List.not_mem_nil, or_false] at hu <;> omega

end

/-! ### Pairs of surrogates -/

/-- At this place stands the first half of a pair. -/
def HighAt (us : List Nat) (i : Nat) : Prop := ∃ u, us[i]? = some u ∧ IsHigh u

/-- At this place stands the second half of a pair. -/
def LowAt (us : List Nat) (i : Nat) : Prop := ∃ u, us[i]? = some u ∧ IsLow u

/-- Every surrogate is half of a pair: second halves stand right behind first halves, and nowhere
else. -/
structure Paired (us : List Nat) : Prop where
  first : ¬LowAt us 0
  next : ∀ i, HighAt us i ↔ LowAt us (i + 1)

section

variable {u v : Nat} {us : List Nat}

@[simp] theorem highAt_cons_zero : HighAt (u :: us) 0 ↔ IsHigh u := by simp [HighAt]

@[simp] theorem lowAt_cons_zero : LowAt (u :: us) 0 ↔ IsLow u := by simp [LowAt]

@[simp] theorem highAt_cons_succ {i : Nat} : HighAt (u :: us) (i + 1) ↔ HighAt us i := by simp [HighAt]

@[simp] theorem lowAt_cons_succ {i : Nat} : LowAt (u :: us) (i + 1) ↔ LowAt us i := by simp [LowAt]

theorem not_isLow_of_isHigh (h : IsHigh u) : ¬IsLow u := by
  unfold IsHigh at h
  unfold IsLow
  omega

theorem paired_nil : Paired [] := ⟨by simp [LowAt], by simp [HighAt, LowAt]⟩

theorem paired_cons_iff : Paired (u :: us) ↔
    ¬IsLow u ∧ (IsHigh u ↔ LowAt us 0) ∧ ∀ i, HighAt us i ↔ LowAt us (i + 1) := by
  constructor
  · rintro ⟨hfirst, hnext⟩
    refine ⟨by simpa using hfirst, by simpa using hnext 0, fun i => ?_⟩
    simpa using hnext (i + 1)
  · rintro ⟨hfirst, hzero, hnext⟩
    refine ⟨by simpa using hfirst, fun i => ?_⟩
    cases i with
    | zero => simpa using hzero
    | succ i => simpa using hnext i

theorem paired_cons_iff_of_not (hs : ¬IsSurrogate u) : Paired (u :: us) ↔ Paired us := by
  obtain ⟨hh, hl⟩ := not_isSurrogate_iff.1 hs
  rw [paired_cons_iff]
  constructor
  · rintro ⟨-, hzero, hnext⟩
    exact ⟨fun h => hh (hzero.2 h), hnext⟩
  · rintro ⟨hfirst, hnext⟩
    exact ⟨hl, iff_of_false hh hfirst, hnext⟩

theorem paired_pair_iff (hu : IsHigh u) (hv : IsLow v) : Paired (u :: v :: us) ↔ Paired us := by
  have hv' : ¬IsHigh v := fun h => not_isLow_of_isHigh h hv
  rw [paired_cons_iff]
  constructor
  · rintro ⟨-, -, hnext⟩
    refine ⟨fun h => hv' ?_, fun i => ?_⟩
    · simpa using (hnext 0).2 (by simpa using h)
    · simpa using hnext (i + 1)
  · rintro ⟨hfirst, hnext⟩
    refine ⟨not_isLow_of_isHigh hu, by simp [hu, hv], fun i => ?_⟩
    cases i with
    | zero => simp [hv', hfirst]
    | succ i => simpa using hnext i

/-- **Units can be read exactly if their surrogates are paired.** -/
theorem exists_ofUnits?_iff : (∃ t, ofUnits? us = some t) ↔ Paired us := by
  have map_iff {c : Char} {o : Option Text} :
      (∃ t, o.map (c :: ·) = some t) ↔ ∃ t, o = some t := by
    simp [Option.map_eq_some_iff]
  fun_induction ofUnits? us with
  | case1 => exact iff_of_true ⟨_, rfl⟩ paired_nil
  | case2 u hu =>
    refine iff_of_false (by simp) fun h => ?_
    obtain ⟨hl, hh, -⟩ := paired_cons_iff.1 h
    rcases isSurrogate_iff.1 hu with hu | hu
    · simpa [LowAt] using hh.1 hu
    · exact hl hu
  | case3 u hu => exact iff_of_true ⟨_, rfl⟩ ((paired_cons_iff_of_not hu).2 paired_nil)
  | case4 u v us hu hv ih => exact (map_iff.trans ih).trans (paired_pair_iff hu hv).symm
  | case5 u v us hu hv =>
    refine iff_of_false (by simp) fun h => hv ?_
    exact lowAt_cons_zero.1 ((paired_cons_iff.1 h).2.1.1 hu)
  | case6 u v us _ hl => exact iff_of_false (by simp) fun h => (paired_cons_iff.1 h).1 hl
  | case7 u v us hh hl ih =>
    have hs : ¬IsSurrogate u := not_isSurrogate_iff.2 ⟨hh, hl⟩
    exact (map_iff.trans ih).trans (paired_cons_iff_of_not hs).symm

end

/-! ### Bytes -/

variable {bytes : Bytes} {t : Text}

/-- The bytes begin with a byte order mark. -/
def HasMark (bytes : Bytes) : Prop := [0xFF, 0xFE] <+: bytes ∨ [0xFE, 0xFF] <+: bytes

instance (bytes : Bytes) : Decidable (HasMark bytes) := inferInstanceAs (Decidable (_ ∨ _))

theorem splitMark_of_not_hasMark (h : ¬HasMark bytes) : splitMark bytes = (.littleEndian, bytes) := by
  unfold splitMark
  split
  · next rest => exact absurd (.inl ⟨rest, rfl⟩) h
  · next rest => exact absurd (.inr ⟨rest, rfl⟩) h
  · rfl

theorem flatMap_unitsOf_lt (t : Text) : ∀ u ∈ t.flatMap unitsOf, u < 0x10000 := by
  intro u hu
  obtain ⟨c, -, hc⟩ := List.mem_flatMap.1 hu
  exact unitsOf_lt hc

theorem units?_encode (t : Text) : units? .littleEndian (encode t) = some (t.flatMap unitsOf) :=
  units?_eq_some_iff.2 ⟨rfl, flatMap_unitsOf_lt t⟩

/-- **Without a mark the bytes of a text are read, and no others.** -/
theorem decode?_eq_some_iff (h : ¬HasMark bytes) : decode? bytes = some t ↔ bytes = encode t := by
  unfold decode?
  rw [splitMark_of_not_hasMark h]
  simp only [Option.bind_eq_some_iff]
  constructor
  · rintro ⟨us, hus, ht⟩
    obtain ⟨rfl, hlt⟩ := units?_eq_some_iff.1 hus
    rw [(ofUnits?_eq_some_iff hlt).1 ht]
    rfl
  · rintro rfl
    exact ⟨_, units?_encode t, ofUnits?_flatMap_unitsOf t⟩

/-- **The bytes of texts** are those of whole units whose surrogates are paired. -/
theorem exists_eq_encode_iff :
    (∃ t, bytes = encode t) ↔ ∃ us, units? .littleEndian bytes = some us ∧ Paired us := by
  constructor
  · rintro ⟨t, rfl⟩
    exact ⟨_, units?_encode t, exists_ofUnits?_iff.1 ⟨t, ofUnits?_flatMap_unitsOf t⟩⟩
  · rintro ⟨us, hus, hp⟩
    obtain ⟨rfl, hlt⟩ := units?_eq_some_iff.1 hus
    obtain ⟨t, ht⟩ := exists_ofUnits?_iff.2 hp
    rw [(ofUnits?_eq_some_iff hlt).1 ht]
    exact ⟨t, rfl⟩

/-! ### Behind a mark -/

namespace ByteOrder

/-- The byte order mark. -/
def mark : ByteOrder → Bytes
  | .littleEndian => [0xFF, 0xFE]
  | .bigEndian => [0xFE, 0xFF]

/-- The two bytes of a unit. -/
def bytesOf (order : ByteOrder) (u : Nat) : Bytes :=
  match order with
  | .littleEndian => Utf16.bytesOf u
  | .bigEndian => (Utf16.bytesOf u).reverse

end ByteOrder

/-- The bytes of a text behind a byte order mark. -/
def encodeMarked (order : ByteOrder) (t : Text) : Bytes :=
  order.mark ++ (t.flatMap unitsOf).flatMap order.bytesOf

section

variable {us : List Nat}

theorem splitMark_mark_append (order : ByteOrder) (bytes : Bytes) :
    splitMark (order.mark ++ bytes) = (order, bytes) := by
  cases order <;> rfl

theorem units?_order_bytesOf_append (order : ByteOrder) {u : Nat} (h : u < 0x10000)
    (bytes : Bytes) : units? order (order.bytesOf u ++ bytes) = (units? order bytes).map (u :: ·) := by
  cases order with
  | littleEndian => exact units?_bytesOf_append h bytes
  | bigEndian =>
    have hu : ByteOrder.bigEndian.unit (UInt8.ofNat (u / 0x100)) (UInt8.ofNat (u % 0x100)) = u := by
      rw [ByteOrder.unit, Utf8.toNat_ofNat_of_lt (by omega), Utf8.toNat_ofNat_of_lt (by omega)]
      omega
    show units? .bigEndian (UInt8.ofNat (u / 0x100) :: UInt8.ofNat (u % 0x100) :: bytes) = _
    rw [units?, hu]

theorem units?_flatMap_bytesOf (order : ByteOrder) (hus : ∀ u ∈ us, u < 0x10000) :
    units? order (us.flatMap order.bytesOf) = some us := by
  induction us with
  | nil => rfl
  | cons u us ih =>
    rw [List.forall_mem_cons] at hus
    rw [List.flatMap_cons, units?_order_bytesOf_append order hus.1, ih hus.2]
    rfl

/-- **Behind a mark a text is read in the byte order of the mark.** -/
theorem decode?_encodeMarked (order : ByteOrder) (t : Text) :
    decode? (encodeMarked order t) = some t := by
  simp only [decode?, encodeMarked, splitMark_mark_append,
    units?_flatMap_bytesOf order (flatMap_unitsOf_lt t), Option.bind_some,
    ofUnits?_flatMap_unitsOf]

/-- The bytes of the units are the same in both orders, pair by pair. -/
theorem perm_flatMap_bytesOf (order : ByteOrder) (us : List Nat) :
    (us.flatMap order.bytesOf).Perm (us.flatMap bytesOf) := by
  refine List.Perm.flatMap_left us fun u _ => ?_
  cases order with
  | littleEndian => exact .refl _
  | bigEndian => exact List.reverse_perm _

theorem take_flatMap_bytesOf (order : ByteOrder) (us : List Nat) (n : Nat) :
    (us.flatMap order.bytesOf).take (2 * n) = (us.take n).flatMap order.bytesOf := by
  induction us generalizing n with
  | nil => simp
  | cons u us ih =>
    cases n with
    | zero => rfl
    | succ n =>
      have hl : (order.bytesOf u).length = 2 := by cases order <;> rfl
      rw [List.flatMap_cons, List.take_succ_cons, List.flatMap_cons, Nat.mul_succ, Nat.add_comm,
        ← hl, List.take_length_add_append, hl, ih]

end

end CommentTasks.Utf16
