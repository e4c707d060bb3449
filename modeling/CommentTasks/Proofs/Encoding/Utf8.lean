import CommentTasks.Encoding.Utf8
import Mathlib.Tactic.SplitIfs
import Mathlib.Data.Nat.Init

/-!
# UTF-8 is exact

`CharBytes` says which bytes are one character, apart from the reader. The reader takes such bytes
and no others, and the writer makes them, so reading and writing undo each other:
`decode_eq_ok_iff`. Texts therefore begin alike exactly if their bytes do: `encode_isPrefix_iff`.
-/

namespace CommentTasks.Utf8

/-- A byte that continues a character. -/
def IsTail (b : UInt8) : Prop := 0x80 ≤ b.toNat ∧ b.toNat ≤ 0xBF

/-- The least second byte behind a first one: what lies below has a shorter form. -/
def secondLow (lead : Nat) : Nat := if lead = 0xE0 then 0xA0 else if lead = 0xF0 then 0x90 else 0x80

/-- The greatest second byte behind a first one: what lies above is a surrogate or no character. -/
def secondHigh (lead : Nat) : Nat :=
  if lead = 0xED then 0x9F else if lead = 0xF4 then 0x8F else 0xBF

/-- The byte may stand second behind this first one. -/
def IsSecond (a b : UInt8) : Prop := secondLow a.toNat ≤ b.toNat ∧ b.toNat ≤ secondHigh a.toNat

/-- Bytes that are one character, and its number. -/
inductive CharBytes : Bytes → Nat → Prop
  | one {a : UInt8} {n : Nat} (ha : a.toNat < 0x80) (hn : n = a.toNat) : CharBytes [a] n
  | two {a b : UInt8} {n : Nat} (ha : 0xC2 ≤ a.toNat ∧ a.toNat < 0xE0) (hb : IsTail b)
    (hn : n = (a.toNat - 0xC0) * 0x40 + (b.toNat - 0x80)) : CharBytes [a, b] n
  | three {a b c : UInt8} {n : Nat} (ha : 0xE0 ≤ a.toNat ∧ a.toNat < 0xF0) (hb : IsSecond a b)
    (hc : IsTail c)
    (hn : n = ((a.toNat - 0xE0) * 0x40 + (b.toNat - 0x80)) * 0x40 + (c.toNat - 0x80)) :
    CharBytes [a, b, c] n
  | four {a b c d : UInt8} {n : Nat} (ha : 0xF0 ≤ a.toNat ∧ a.toNat < 0xF5) (hb : IsSecond a b)
    (hc : IsTail c) (hd : IsTail d)
    (hn : n = (((a.toNat - 0xF0) * 0x40 + (b.toNat - 0x80)) * 0x40 + (c.toNat - 0x80)) * 0x40 +
      (d.toNat - 0x80)) : CharBytes [a, b, c, d] n

theorem isTail_of_isSecond {a b : UInt8} (h : IsSecond a b) : IsTail b := by
  unfold IsSecond secondLow secondHigh at h
  unfold IsTail
  split_ifs at h <;> omega

theorem toNat_ofNat_of_lt {n : Nat} (h : n < 256) : (UInt8.ofNat n).toNat = n :=
  UInt8.toNat_ofNat_of_lt' h

theorem toNat_valid (c : Char) : c.toNat < 0xD800 ∨ 0xDFFF < c.toNat ∧ c.toNat < 0x110000 :=
  c.valid

theorem toNat_ofNat {n : Nat} (h : n < 0xD800 ∨ 0xDFFF < n ∧ n < 0x110000) :
    (Char.ofNat n).toNat = n := by
  have hv : n.isValidChar := h
  rw [Char.ofNat, dif_pos hv]
  rfl

/-! ### Writing makes the bytes of a character -/

theorem charBytes_encodeChar (c : Char) : CharBytes (encodeChar c) c.toNat := by
  have hv := toNat_valid c
  unfold encodeChar
  generalize c.toNat = n at hv
  have byte (m : Nat) (h : m < 256) := toNat_ofNat_of_lt h
  simp only
  split_ifs with h₁ h₂ h₃
  · have ha := byte n (by omega)
    exact .one (by omega) ha.symm
  · have ha := byte (0xC0 + n / 0x40) (by omega)
    have hb := byte (0x80 + n % 0x40) (by omega)
    exact .two (by omega) (by unfold IsTail; omega) (by omega)
  · have ha := byte (0xE0 + n / 0x1000) (by omega)
    have hb := byte (0x80 + n / 0x40 % 0x40) (by omega)
    have hc := byte (0x80 + n % 0x40) (by omega)
    refine .three (by omega) ?_ (by unfold IsTail; omega) (by omega)
    unfold IsSecond secondLow secondHigh
    rw [ha, hb]
    constructor <;> split_ifs <;> omega
  · have ha := byte (0xF0 + n / 0x40000) (by omega)
    have hb := byte (0x80 + n / 0x1000 % 0x40) (by omega)
    have hc := byte (0x80 + n / 0x40 % 0x40) (by omega)
    have hd := byte (0x80 + n % 0x40) (by omega)
    refine .four (by omega) ?_ (by unfold IsTail; omega) (by unfold IsTail; omega) (by omega)
    unfold IsSecond secondLow secondHigh
    rw [ha, hb]
    constructor <;> split_ifs <;> omega

/-- Bytes of a character have a number that belongs to a character, in the range that their number
tells. -/
theorem CharBytes.valid {bytes : Bytes} {n : Nat} (h : CharBytes bytes n) :
    n < 0xD800 ∨ 0xDFFF < n ∧ n < 0x110000 := by
  cases h with
  | one ha hn => omega
  | two ha hb hn =>
    unfold IsTail at hb
    omega
  | three ha hb hc hn =>
    unfold IsSecond secondLow secondHigh at hb
    unfold IsTail at hc
    split_ifs at hb <;> omega
  | four ha hb hc hd hn =>
    unfold IsSecond secondLow secondHigh at hb
    unfold IsTail at hc hd
    split_ifs at hb <;> omega

theorem ofNat_eq {a : UInt8} {m : Nat} (h : m = a.toNat) : UInt8.ofNat m = a := by
  rw [h, UInt8.ofNat_toNat]

theorem encodeChar_of_charBytes {bytes : Bytes} {n : Nat} (h : CharBytes bytes n) :
    encodeChar (Char.ofNat n) = bytes := by
  unfold encodeChar
  rw [toNat_ofNat h.valid]
  cases h with
  | one ha hn => rw [if_pos (by omega), ofNat_eq hn]
  | two ha hb hn =>
    unfold IsTail at hb
    rw [if_neg (by omega), if_pos (by omega)]
    simp only [List.cons.injEq, and_true]
    exact ⟨ofNat_eq (by omega), ofNat_eq (by omega)⟩
  | three ha hb hc hn =>
    have hb' := isTail_of_isSecond hb
    unfold IsSecond secondLow at hb
    unfold IsTail at hb' hc
    have h' : 0x800 ≤ n := by split_ifs at hb <;> omega
    rw [if_neg (by omega), if_neg (by omega), if_pos (by omega)]
    simp only [List.cons.injEq, and_true]
    exact ⟨ofNat_eq (by omega), ofNat_eq (by omega), ofNat_eq (by omega)⟩
  | four ha hb hc hd hn =>
    have hb' := isTail_of_isSecond hb
    unfold IsSecond secondLow at hb
    unfold IsTail at hb' hc hd
    have h' : 0x10000 ≤ n := by split_ifs at hb <;> omega
    rw [if_neg (by omega), if_neg (by omega), if_neg (by omega)]
    simp only [List.cons.injEq, and_true]
    exact ⟨ofNat_eq (by omega), ofNat_eq (by omega), ofNat_eq (by omega), ofNat_eq (by omega)⟩

/-! ### Reading takes the bytes of a character -/

/-- What a first byte says of the character it begins. -/
theorem leadByte?_eq (n : Nat) :
    leadByte? n =
      if 0xC2 ≤ n ∧ n < 0xE0 then some (n - 0xC0, 1, 0x80, 0xBF)
      else if 0xE0 ≤ n ∧ n < 0xF0 then some (n - 0xE0, 2, secondLow n, secondHigh n)
      else if 0xF0 ≤ n ∧ n < 0xF5 then some (n - 0xF0, 3, secondLow n, secondHigh n)
      else none := by
  unfold leadByte? secondLow secondHigh
  grind

section Steps

variable {position : Nat} {b : UInt8} {rest : Bytes}

theorem decodeFrom_ascii (h : b.toNat < 0x80) :
    decodeFrom position none (b :: rest) =
      (decodeFrom (position + 1) none rest).map (Char.ofNat b.toNat :: ·) := by
  rw [decodeFrom, if_pos h]

/-- A first byte says what is owed. -/
theorem decodeFrom_lead {bits owed low high : Nat} (h : 0x80 ≤ b.toNat)
    (hl : leadByte? b.toNat = some (bits, owed, low, high)) :
    decodeFrom position none (b :: rest) =
      decodeFrom (position + 1) (some ⟨b, position, bits, 1, owed, low, high⟩) rest := by
  rw [decodeFrom, if_neg (by omega), hl]

/-- A byte that is owed adds its bits. -/
theorem decodeFrom_owed {lead : UInt8} {start bits read owed low high : Nat}
    (h : low ≤ b.toNat ∧ b.toNat ≤ high) :
    decodeFrom position (some ⟨lead, start, bits, read, owed + 2, low, high⟩) (b :: rest) =
      decodeFrom (position + 1)
        (some ⟨lead, start, bits * 0x40 + (b.toNat - 0x80), read + 1, owed + 1, 0x80, 0xBF⟩)
        rest := by
  rw [decodeFrom, if_neg (by simp only; omega)]
  simp

/-- The last byte that is owed completes a character. -/
theorem decodeFrom_last {lead : UInt8} {start bits read low high : Nat}
    (h : low ≤ b.toNat ∧ b.toNat ≤ high) :
    decodeFrom position (some ⟨lead, start, bits, read, 1, low, high⟩) (b :: rest) =
      (decodeFrom (position + 1) none rest).map
        (Char.ofNat (bits * 0x40 + (b.toNat - 0x80)) :: ·) := by
  rw [decodeFrom, if_neg (by simp only; omega)]
  simp

/-- A byte that is owed is there, and in its range. -/
theorem exists_of_decodeFrom_some {p : Partial} {bytes : Bytes} {t : Text}
    (h : decodeFrom position (some p) bytes = .ok t) :
    ∃ b rest, bytes = b :: rest ∧ p.low ≤ b.toNat ∧ b.toNat ≤ p.high := by
  cases bytes with
  | nil => simp [decodeFrom] at h
  | cons b rest =>
    rw [decodeFrom] at h
    split at h
    · cases h
    · next hr => exact ⟨b, rest, rfl, by omega, by omega⟩

end Steps

/-- The bytes of a character are read as the character, whatever follows. -/
theorem decodeFrom_append {position : Nat} {bytes rest : Bytes} {n : Nat} (h : CharBytes bytes n) :
    decodeFrom position none (bytes ++ rest) =
      (decodeFrom (position + bytes.length) none rest).map (Char.ofNat n :: ·) := by
  cases h with
  | one ha hn =>
    rw [List.singleton_append, decodeFrom_ascii ha, hn]
    rfl
  | two ha hb hn =>
    simp only [List.cons_append, List.nil_append]
    rw [decodeFrom_lead (by omega) ((leadByte?_eq _).trans (if_pos ha)), decodeFrom_last hb, hn]
    rfl
  | three ha hb hc hn =>
    have hl := (leadByte?_eq _).trans ((if_neg (by omega)).trans (if_pos ha))
    simp only [List.cons_append, List.nil_append]
    rw [decodeFrom_lead (by omega) hl, decodeFrom_owed hb, decodeFrom_last hc, hn]
    rfl
  | four ha hb hc hd hn =>
    have hl :=
      (leadByte?_eq _).trans ((if_neg (by omega)).trans ((if_neg (by omega)).trans (if_pos ha)))
    simp only [List.cons_append, List.nil_append]
    rw [decodeFrom_lead (by omega) hl, decodeFrom_owed hb, decodeFrom_owed hc, decodeFrom_last hd,
      hn]
    rfl

/-- What is read begins with the bytes of a character, unless there is nothing to read. -/
theorem exists_charBytes {position : Nat} {a : UInt8} {bytes : Bytes} {t : Text}
    (h : decodeFrom position none (a :: bytes) = .ok t) :
    ∃ front n rest, CharBytes front n ∧ a :: bytes = front ++ rest := by
  by_cases ha : a.toNat < 0x80
  · exact ⟨[a], _, bytes, .one ha rfl, rfl⟩
  have hl := leadByte?_eq a.toNat
  split_ifs at hl with h₂ h₃ h₄
  · rw [decodeFrom_lead (by omega) hl] at h
    obtain ⟨b, rest, rfl, hb⟩ := exists_of_decodeFrom_some h
    exact ⟨[a, b], _, rest, .two h₂ hb rfl, rfl⟩
  · rw [decodeFrom_lead (by omega) hl] at h
    obtain ⟨b, rest, rfl, hb⟩ := exists_of_decodeFrom_some h
    rw [decodeFrom_owed hb] at h
    obtain ⟨c, rest, rfl, hc⟩ := exists_of_decodeFrom_some h
    exact ⟨[a, b, c], _, rest, .three h₃ hb hc rfl, rfl⟩
  · rw [decodeFrom_lead (by omega) hl] at h
    obtain ⟨b, rest, rfl, hb⟩ := exists_of_decodeFrom_some h
    rw [decodeFrom_owed hb] at h
    obtain ⟨c, rest, rfl, hc⟩ := exists_of_decodeFrom_some h
    rw [decodeFrom_owed hc] at h
    obtain ⟨d, rest, rfl, hd⟩ := exists_of_decodeFrom_some h
    exact ⟨[a, b, c, d], _, rest, .four h₄ hb hc hd rfl, rfl⟩
  · rw [decodeFrom, if_neg ha, hl] at h
    cases h

/-! ### Texts and their bytes -/

@[simp] theorem encode_cons (c : Char) (t : Text) : encode (c :: t) = encodeChar c ++ encode t :=
  rfl

@[simp] theorem encode_append (s t : Text) : encode (s ++ t) = encode s ++ encode t := by
  simp [encode]

/-- What was written is read back, whatever follows. -/
theorem decodeFrom_encode_append (position : Nat) (t : Text) (rest : Bytes) :
    decodeFrom position none (encode t ++ rest) =
      (decodeFrom (position + (encode t).length) none rest).map (t ++ ·) := by
  induction t generalizing position with
  | nil =>
    show decodeFrom position none rest = (decodeFrom position none rest).map ([] ++ ·)
    cases decodeFrom position none rest <;> rfl
  | cons c t ih =>
    rw [encode_cons, List.append_assoc, decodeFrom_append (charBytes_encodeChar c), ih,
      Char.ofNat_toNat, List.length_append, ← Nat.add_assoc]
    cases decodeFrom _ none rest <;> rfl

@[simp] theorem decode_encode (t : Text) : decode (encode t) = .ok t := by
  have h := decodeFrom_encode_append 0 t []
  rw [List.append_nil] at h
  rw [decode, h]
  simp [decodeFrom, Except.map]

theorem encode_of_decodeFrom {position : Nat} {bytes : Bytes} {t : Text}
    (h : decodeFrom position none bytes = .ok t) : encode t = bytes := by
  induction hk : bytes.length using Nat.strong_induction_on generalizing position bytes t with
  | _ k ih =>
    cases bytes with
    | nil =>
      cases h
      rfl
    | cons a bytes =>
      obtain ⟨front, n, rest, hf, e⟩ := exists_charBytes h
      rw [e, decodeFrom_append hf] at h
      cases hr : decodeFrom (position + front.length) none rest with
      | error e => rw [hr] at h; cases h
      | ok s =>
        rw [hr] at h
        cases h
        have hl : rest.length < k := by
          have hp : 0 < front.length := by cases hf <;> simp
          have := congrArg List.length e
          rw [List.length_append] at this
          omega
        rw [e, encode_cons, encodeChar_of_charBytes hf, ih _ hl hr rfl]

/-- **Reading is exact**: bytes are read as a text exactly if they are written for it. -/
theorem decode_eq_ok_iff {bytes : Bytes} {t : Text} : decode bytes = .ok t ↔ encode t = bytes :=
  ⟨encode_of_decodeFrom, fun h => h ▸ decode_encode t⟩

/-- A text begins with another exactly if its bytes begin with those of the other. -/
theorem encode_isPrefix_iff {s t : Text} : encode s <+: encode t ↔ s <+: t := by
  constructor
  · rintro ⟨rest, h⟩
    have hd := decode_encode t
    rw [← h, decode, decodeFrom_encode_append] at hd
    cases hr : decodeFrom (0 + (encode s).length) none rest with
    | error e => rw [hr] at hd; cases hd
    | ok r =>
      rw [hr] at hd
      cases hd
      exact ⟨r, rfl⟩
  · rintro ⟨r, rfl⟩
    exact ⟨encode r, (encode_append s r).symm⟩

end CommentTasks.Utf8
