import CommentTasks.Json.Parser
import CommentTasks.Json.Printer
import CommentTasks.Proofs.Text.Decimal
import Mathlib.Data.List.TakeDrop
import Mathlib.Tactic.IntervalCases

/-!
# Reading undoes writing of JSON

A document without floating-point numbers whose integers are not too long, whose objects name no
member twice and whose brackets there is room for is read back from its text: `parseWithin_print`.
Without limits no integer is too long and there is room for all brackets.
-/

namespace CommentTasks.Json

/-! ### Strings -/

/-- Four digits of a small number are its unit, whatever follows. -/
theorem hexUnit?_hexPadded {n : Nat} (h : n < 0x20) (c : Char) (rest : Text) :
    hexUnit? (Text.hexPadded 4 n ++ c :: rest) = some (n, c :: rest) := by
  interval_cases n <;> rfl

theorem numericEscape_hexPadded {n : Nat} (h : n < 0x20) (c : Char) (rest : Text) :
    numericEscape (Text.hexPadded 4 n ++ c :: rest) = .ok (n, c :: rest) := by
  have hh : isHighSurrogate n = false := by simp [isHighSurrogate]; omega
  rw [numericEscape, hexUnit?_hexPadded h]
  simp only [hh, Bool.false_and, Bool.false_eq_true, if_false]
  split <;> rfl

/-- An escape by a letter is read as the character it stands for. -/
theorem readStringBody_letter {quote fuel : Nat} {e x : Char} {rest : Text} (hu : e ≠ 'u')
    (he : letterEscape? e = some x) :
    readStringBody quote (fuel + 1) ('\\' :: e :: rest) =
      (readStringBody quote fuel rest).map fun p => (x.toNat :: p.1, p.2) := by
  rw [readStringBody]
  · simp only [he, reduceIte, Char.reduceEq]
    cases readStringBody quote fuel rest <;> rfl
  · exact hu

/-- An escape by a number is read as this number. -/
theorem readStringBody_number {quote fuel n : Nat} {t rest : Text}
    (h : numericEscape t = .ok (n, rest)) :
    readStringBody quote (fuel + 1) ('\\' :: 'u' :: t) =
      (readStringBody quote fuel rest).map fun p => (n :: p.1, p.2) := by
  rw [readStringBody]
  simp only [reduceIte, Char.reduceEq, h, bind, Except.bind]
  cases readStringBody quote fuel rest <;> rfl

/-- Other characters are read as themselves. -/
theorem readStringBody_plain {quote fuel : Nat} {c : Char} {rest : Text} (hq : c ≠ '"')
    (hb : c ≠ '\\') (hc : 0x20 ≤ c.toNat) :
    readStringBody quote (fuel + 1) (c :: rest) =
      (readStringBody quote fuel rest).map fun p => (c.toNat :: p.1, p.2) := by
  rw [readStringBody.eq_def]
  simp only [hq, hb, if_false, if_neg (Nat.not_lt.2 hc)]
  cases readStringBody quote fuel rest <;> rfl

/-- The written form of a character is read as the character. -/
theorem readStringBody_escapeChar (quote fuel : Nat) (c d : Char) (rest : Text) :
    readStringBody quote (fuel + 1) (escapeChar c ++ d :: rest) =
      (readStringBody quote fuel (d :: rest)).map fun p => (c.toNat :: p.1, p.2) := by
  unfold escapeChar
  split_ifs with h₁ h₂ h₃ h₄ h₅ h₆ h₇ h₈
  · subst h₁; exact readStringBody_letter (by decide) rfl
  · subst h₂; exact readStringBody_letter (by decide) rfl
  · subst h₃; exact readStringBody_letter (by decide) rfl
  · subst h₄; exact readStringBody_letter (by decide) rfl
  · subst h₅; exact readStringBody_letter (by decide) rfl
  · subst h₆; exact readStringBody_letter (by decide) rfl
  · subst h₇; exact readStringBody_letter (by decide) rfl
  · exact readStringBody_number (numericEscape_hexPadded h₈ d rest)
  · exact readStringBody_plain h₁ h₂ (by omega)

/-- A string is read back from behind its opening quote. -/
theorem readStringBody_escape (quote fuel : Nat) (t rest : Text) (h : t.length < fuel) :
    readStringBody quote fuel (t.flatMap escapeChar ++ '"' :: rest) = .ok (t.map Char.toNat, rest) := by
  induction t generalizing fuel with
  | nil =>
    obtain ⟨fuel, rfl⟩ := Nat.exists_eq_succ_of_ne_zero (Nat.ne_zero_of_lt h)
    rfl
  | cons c t ih =>
    obtain ⟨fuel, rfl⟩ := Nat.exists_eq_succ_of_ne_zero (Nat.ne_zero_of_lt h)
    have hf : t.length < fuel := by simpa using h
    rw [List.flatMap_cons, List.append_assoc]
    obtain ⟨d, r, hd⟩ : ∃ d r, t.flatMap escapeChar ++ '"' :: rest = d :: r :=
      List.exists_cons_of_ne_nil (by simp)
    rw [hd, readStringBody_escapeChar, ← hd, ih fuel hf]
    rfl

theorem length_le_length_flatMap_escapeChar (t : Text) :
    t.length ≤ (t.flatMap escapeChar).length := by
  induction t with
  | nil => rfl
  | cons c t ih =>
    have hc : 0 < (escapeChar c).length := by
      unfold escapeChar
      split_ifs <;> simp
    rw [List.flatMap_cons, List.length_append, List.length_cons]
    omega

/-- A string is read back, whatever follows. -/
theorem readString_escape (t rest : Text) :
    readString (t.flatMap escapeChar ++ '"' :: rest) = .ok (.text t, rest) := by
  have h := length_le_length_flatMap_escapeChar t
  rw [readString, readStringBody_escape _ _ t rest (by rw [List.length_append]; omega)]
  exact congrArg (fun s => Except.ok (s, rest)) (Wide.ofCodes_toNat t)

/-! ### Numbers -/

/-- The text does not go on with a number. -/
def EndsNumber (t : Text) : Prop := ∀ c ∈ t.head?, ¬c.isDigit ∧ c ≠ '.' ∧ c ≠ 'e' ∧ c ≠ 'E'

theorem span_isAsciiDigit {digits rest : Text} (hd : ∀ c ∈ digits, c.isDigit)
    (hr : EndsNumber rest) : (digits ++ rest).span Text.isAsciiDigit = (digits, rest) := by
  have hd' : ∀ c ∈ digits, Text.isAsciiDigit c := by
    intro c hc
    rw [Text.isAsciiDigit_eq_isDigit]
    exact hd c hc
  rw [List.span_eq_takeWhile_dropWhile, List.takeWhile_append_of_pos hd',
    List.dropWhile_append_of_pos hd']
  cases rest with
  | nil => simp
  | cons c rest =>
    have hc : Text.isAsciiDigit c = false := by
      simpa [Text.isAsciiDigit_eq_isDigit] using (hr c rfl).1
    simp [hc]

theorem wholeDigits_ofNat (n : Nat) {rest : Text} (hr : EndsNumber rest) :
    wholeDigits (Text.ofNat n ++ rest) = (Text.ofNat n, rest) := by
  unfold wholeDigits
  split
  · next r h =>
    have hn : n = 0 := by
      rw [← Text.head_ofNat_eq_zero_iff]
      cases hd : Text.ofNat n with
      | nil => exact absurd hd (Text.ofNat_ne_nil n)
      | cons c ds =>
        rw [hd, List.cons_append] at h
        rw [(List.cons.inj h).1]
        rfl
    subst hn
    cases h
    rfl
  · exact span_isAsciiDigit (fun _ => Text.isDigit_of_mem_ofNat) hr

theorem fraction_of_endsNumber {t : Text} (h : EndsNumber t) : fraction t = ([], t) := by
  unfold fraction
  split
  · exact absurd rfl (h '.' rfl).2.1
  · rfl

theorem exponent?_of_endsNumber {t : Text} (h : EndsNumber t) : exponent? t = none := by
  unfold exponent?
  split
  · next e rest =>
    obtain ⟨-, -, he, hE⟩ := h e rfl
    rw [if_neg (by simp [he, hE])]
  · rfl

/-- The integer has no more digits than the limit says. -/
def Short (limit : Option Nat) (i : Int) : Prop := ∀ most ∈ limit, (Text.ofNat i.natAbs).length ≤ most

variable {limit : Option Nat} {room : Depth}

theorem Short.any_eq_false {i : Int} (h : Short limit i) :
    limit.any (· < (Text.ofNat i.natAbs).length) = false := by
  cases limit with
  | none => rfl
  | some most => simpa using h most rfl

theorem readNumber_ofInt {i : Int} {rest : Text} (hi : Short limit i)
    (hr : EndsNumber rest) : readNumber limit (Text.ofInt i ++ rest) = .ok (.int i, rest) := by
  obtain ⟨c, ds, hd⟩ := List.exists_cons_of_ne_nil (Text.ofNat_ne_nil i.natAbs)
  have hc : c ≠ '-' := by
    rintro rfl
    exact Text.minus_not_mem_ofNat i.natAbs (hd ▸ List.mem_cons_self)
  unfold readNumber
  split
  next negative unsigned hs =>
  -- the sign is taken off, and the digits are left
  have hsign : negative = decide (i < 0) ∧ unsigned = Text.ofNat i.natAbs ++ rest := by
    cases i with
    | ofNat n =>
      simp only [Text.ofInt, Int.ofNat_eq_natCast, Int.natAbs_natCast] at hs hd ⊢
      split at hs
      · next r h =>
        rw [hd, List.cons_append] at h
        exact absurd (List.cons.inj h).1 hc
      · cases hs
        simp
    | negSucc n =>
      cases hs
      exact ⟨by simp, rfl⟩
  obtain ⟨rfl, rfl⟩ := hsign
  simp only [wholeDigits_ofNat i.natAbs hr]
  rw [hd]
  simp only
  rw [← hd, fraction_of_endsNumber hr]
  simp only [exponent?_of_endsNumber hr, Text.valueOf_ofNat, hi.any_eq_false, Bool.false_eq_true,
    if_false, decide_eq_true_eq]
  congr 3
  split <;> omega

/-- What begins with a digit, behind a minus or not, is no name of a value. -/
theorem findSome?_names_eq_none {i : Int} {rest : Text} :
    (names.findSome? fun x =>
      (x.1.isPrefixOf? (Text.ofInt i ++ rest)).map fun r => (x.2, r)) = none := by
  have digit (n : Nat) : ∃ c ds, Text.ofNat n = c :: ds ∧ ∀ d, d.isDigit = false → (d == c) = false := by
    obtain ⟨c, ds, hd⟩ := List.exists_cons_of_ne_nil (Text.ofNat_ne_nil n)
    refine ⟨c, ds, hd, fun d h => ?_⟩
    have hc : c.isDigit := Text.isDigit_of_mem_ofNat (hd ▸ List.mem_cons_self)
    simp only [beq_eq_false_iff_ne, ne_eq]
    rintro rfl
    simp [h] at hc
  cases i with
  | ofNat n =>
    obtain ⟨c, ds, hd, hne⟩ := digit n
    simp [Text.ofInt, hd, names, List.isPrefixOf?, hne]
  | negSucc n =>
    obtain ⟨c, ds, hd, hne⟩ := digit (n + 1)
    simp [Text.ofInt, hd, names, List.isPrefixOf?, hne]

theorem readScalar_ofInt {i : Int} {rest : Text} (hi : Short limit i)
    (hr : EndsNumber rest) : readScalar limit (Text.ofInt i ++ rest) = .ok (.int i, rest) := by
  unfold readScalar
  split
  · next found h => exact absurd (h.symm.trans findSome?_names_eq_none) (by simp)
  · exact readNumber_ofInt hi hr

/-! ### Values -/

section

variable (limit)

mutual

/-- The document can be read back with so much room: it holds no floating-point number, its integers
have no more digits than are read, no object of it names a member twice, and no more brackets are
open than there is room for. -/
def Faithful : Depth → Json Text → Prop
  | _, .int i => Short limit i
  | _, .float _ => False
  | room, .array items => ∃ inner, room.down? = some inner ∧ FaithfulItems inner items
  | room, .object members =>
    ∃ inner, room.down? = some inner ∧ (Keyed.keys members).Nodup ∧ FaithfulMembers inner members
  | _, _ => True

/-- All items can be read back. -/
def FaithfulItems : Depth → List (Json Text) → Prop
  | _, [] => True
  | room, v :: vs => Faithful room v ∧ FaithfulItems room vs

/-- The values of all members can be read back. -/
def FaithfulMembers : Depth → List (Text × Json Text) → Prop
  | _, [] => True
  | room, (_, v) :: rest => Faithful room v ∧ FaithfulMembers room rest

end

end

/-- The text begins with a character that is no white space, no byte order mark, and closes
nothing. -/
def BeginsValue (t : Text) : Prop :=
  ∃ c r, t = c :: r ∧ isSpace c = false ∧ c ≠ ']' ∧ c ≠ '\x7d' ∧ c ≠ '\ufeff'

theorem exists_ofInt_eq_cons (i : Int) : ∃ c r, Text.ofInt i = c :: r ∧ (c.isDigit ∨ c = '-') := by
  cases i with
  | ofNat n =>
    obtain ⟨c, ds, hd⟩ := List.exists_cons_of_ne_nil (Text.ofNat_ne_nil n)
    exact ⟨c, ds, hd, .inl (Text.isDigit_of_mem_ofNat (hd ▸ List.mem_cons_self))⟩
  | negSucc n => exact ⟨'-', _, rfl, .inr rfl⟩

theorem ne_of_isDigit_or_minus {c d : Char} (h : c.isDigit ∨ c = '-')
    (hd : d.isDigit = false ∧ d ≠ '-') : c ≠ d := by
  rintro rfl
  simp [hd] at h

theorem beginsValue_printAt (depth : Nat) {v : Json Text} (h : Faithful limit room v) :
    BeginsValue (printAt depth v) := by
  cases v with
  | null => exact ⟨'n', "ull".toList, rfl, by decide⟩
  | bool b => cases b with
    | true => exact ⟨'t', "rue".toList, rfl, by decide⟩
    | false => exact ⟨'f', "alse".toList, rfl, by decide⟩
  | int i =>
    obtain ⟨c, r, hc, hd⟩ := exists_ofInt_eq_cons i
    have hne := fun d => ne_of_isDigit_or_minus (d := d) hd
    exact ⟨c, r, hc, by simp [isSpace, hne], hne _ (by decide), hne _ (by decide),
      hne _ (by decide)⟩
  | float x => exact h.elim
  | string t => exact ⟨'"', _, rfl, by decide⟩
  | array items => cases items <;> exact ⟨'[', _, rfl, by decide⟩
  | object members => cases members <;> exact ⟨'\x7b', _, rfl, by decide⟩

theorem skipSpace_cons {c : Char} (h : isSpace c = false) (t : Text) : skipSpace (c :: t) = c :: t := by
  simp [skipSpace, h]

/-- What begins with no white space is left as it is. -/
theorem skipSpace_of_beginsValue {t rest : Text} (h : BeginsValue t) :
    skipSpace (t ++ rest) = t ++ rest := by
  obtain ⟨c, r, rfl, hs, -⟩ := h
  exact skipSpace_cons hs _

theorem skipSpace_newLine (depth : Nat) (t : Text) :
    skipSpace (newLine depth ++ t) = skipSpace t := by
  refine List.dropWhile_append_of_pos fun c hc => ?_
  rcases List.mem_cons.1 hc with rfl | hc
  · rfl
  · rw [List.eq_of_mem_replicate hc]
    rfl

/-- Enough fuel for the text of a value is enough to read it. -/
def ReadsValues (limit : Option Nat) (fuel : Nat) : Prop :=
  ∀ room depth v rest, Faithful limit room v → (printAt depth v).length ≤ fuel → EndsNumber rest →
    readValue limit fuel room (printAt depth v ++ rest) = .ok (v.wide, rest)

/-- Enough fuel for the text of the items of an array is enough to read them. -/
def ReadsItems (limit : Option Nat) (fuel : Nat) : Prop :=
  ∀ room depth outer v vs rest, Faithful limit room v → FaithfulItems limit room vs →
    (printAt depth v ++ printItems depth vs).length < fuel →
    readElements limit fuel room
      (printAt depth v ++ (printItems depth vs ++ (newLine outer ++ ']' :: rest))) =
        .ok (wideItems (v :: vs), rest)

/-- Enough fuel for the text of the members of an object is enough to read them behind those that
were read before. -/
def ReadsMembers (limit : Option Nat) (fuel : Nat) : Prop :=
  ∀ room depth outer before key v ms rest,
    (Keyed.keys (before ++ wideMembers ((key, v) :: ms))).Nodup →
    Faithful limit room v → FaithfulMembers limit room ms →
    (printString key ++ printAt depth v ++ printMembers depth ms).length < fuel →
    readMembers limit fuel room before
      (printString key ++ (": ".toList ++ (printAt depth v ++
        (printMembers depth ms ++ (newLine outer ++ '\x7d' :: rest))))) =
          .ok (before ++ wideMembers ((key, v) :: ms), rest)

theorem endsNumber_comma (t : Text) : EndsNumber (',' :: t) := by
  rintro c ⟨⟩
  decide

theorem endsNumber_newLine (depth : Nat) (t : Text) : EndsNumber (newLine depth ++ t) := by
  rintro c ⟨⟩
  decide

theorem readsItems_succ {fuel : Nat} (hv : ReadsValues limit fuel) (hi : ReadsItems limit fuel) :
    ReadsItems limit (fuel + 1) := by
  intro room depth outer v vs rest hf hfs hl
  rw [List.length_append] at hl
  rw [readElements]
  cases vs with
  | nil =>
    rw [printItems, List.nil_append, hv room depth v _ hf (by omega) (endsNumber_newLine _ _)]
    simp only [bind, Except.bind, skipSpace_newLine]
    rfl
  | cons w ws =>
    obtain ⟨hw, hws⟩ := hfs
    have hp := beginsValue_printAt depth hw
    simp only [printItems, List.cons_append, List.append_assoc, List.length_cons,
      List.length_append] at hl ⊢
    rw [hv room depth v _ hf (by omega) (endsNumber_comma _)]
    have hi := hi room depth outer w ws rest hw hws (by rw [List.length_append]; omega)
    simp only [bind, Except.bind]
    rw [skipSpace_cons rfl]
    simp only [skipSpace_newLine, skipSpace_of_beginsValue hp, hi]
    rfl

theorem readString_printString (t rest : Text) :
    ∃ r, printString t ++ rest = '"' :: r ∧ readString r = .ok (.text t, rest) := by
  refine ⟨t.flatMap escapeChar ++ '"' :: rest, ?_, readString_escape t rest⟩
  simp [printString]

theorem readsMembers_succ {fuel : Nat} (hv : ReadsValues limit fuel) (hm : ReadsMembers limit fuel) :
    ReadsMembers limit (fuel + 1) := by
  intro room depth outer before key v ms rest hk hf hfs hl
  rw [List.length_append, List.length_append] at hl
  obtain ⟨r, hr, hs⟩ := readString_printString key
    (": ".toList ++ (printAt depth v ++ (printMembers depth ms ++ (newLine outer ++ '\x7d' :: rest))))
  have hc : ": ".toList = [':', ' '] := rfl
  have hp := beginsValue_printAt depth hf
  -- the key is new, so that its member goes to the end
  rw [wideMembers] at hk ⊢
  have hput : Keyed.put (.text key) v.wide before = before ++ [(.text key, v.wide)] := by
    refine Keyed.put_of_not_mem fun h => ?_
    rw [Keyed.keys, List.map_append, List.nodup_append] at hk
    exact hk.2.2 _ h _ List.mem_cons_self rfl
  rw [hr, readMembers]
  simp only [bind, Except.bind, hs, hc, List.cons_append, List.nil_append]
  rw [skipSpace_cons rfl]
  simp only
  rw [show ∀ t, skipSpace (' ' :: t) = skipSpace t from fun _ => rfl, skipSpace_of_beginsValue hp]
  cases ms with
  | nil =>
    rw [printMembers, List.nil_append, hv room depth v _ hf (by omega) (endsNumber_newLine _ _)]
    simp only [skipSpace_newLine, hput]
    rfl
  | cons m ms =>
    obtain ⟨next, w⟩ := m
    obtain ⟨hw, hws⟩ := hfs
    simp only [printMembers, List.cons_append, List.append_assoc, List.length_cons,
      List.length_append] at hl ⊢
    rw [hv room depth v _ hf (by omega) (endsNumber_comma _)]
    have hm := hm room depth outer (before ++ [(.text key, v.wide)]) next w ms rest
      (by simpa using hk) hw hws (by simp only [List.length_append]; omega)
    obtain ⟨r', hr', -⟩ := readString_printString next
      (": ".toList ++ (printAt depth w ++ (printMembers depth ms ++ (newLine outer ++ '\x7d' :: rest))))
    simp only [hput]
    rw [skipSpace_cons rfl]
    simp only [skipSpace_newLine]
    rw [hr', skipSpace_cons rfl, ← hr', hm, List.append_assoc]
    rfl

theorem keys_wideMembers (members : List (Text × Json Text)) :
    Keyed.keys (wideMembers members) = (Keyed.keys members).map .text := by
  induction members with
  | nil => rfl
  | cons m rest ih => rw [wideMembers, Keyed.keys_cons, Keyed.keys_cons, List.map_cons, ih]

/-- Members that are named once are so when they are read. -/
theorem nodup_keys_wideMembers {members : List (Text × Json Text)} (h : (Keyed.keys members).Nodup) :
    (Keyed.keys (wideMembers members)).Nodup := by
  rw [keys_wideMembers]
  exact List.pairwise_map.2 (h.imp fun hne e => hne (Wide.text.inj e))

theorem readValue_ofInt {fuel : Nat} {i : Int} {rest : Text} (hi : Short limit i)
    (hr : EndsNumber rest) :
    readValue limit (fuel + 1) room (Text.ofInt i ++ rest) = .ok (.int i, rest) := by
  obtain ⟨c, r, hc, hd⟩ := exists_ofInt_eq_cons i
  have hne := fun d => ne_of_isDigit_or_minus (d := d) hd
  have hs : readScalar limit (Text.ofInt i ++ rest) = .ok (.int i, rest) := readScalar_ofInt hi hr
  rw [hc, List.cons_append, readValue, ← List.cons_append, ← hc, hs]
  · intro r h
    exact hne '"' (by decide) (List.cons.inj h).1
  · intro r h
    exact hne '[' (by decide) (List.cons.inj h).1
  · intro r h
    exact hne '\x7b' (by decide) (List.cons.inj h).1

theorem readValue_array {fuel : Nat} (hi : ReadsItems limit fuel) {depth : Nat}
    {items : List (Json Text)} (rest : Text) (hf : Faithful limit room (.array items))
    (hl : (printAt depth (.array items)).length ≤ fuel + 1) :
    readValue limit (fuel + 1) room (printAt depth (.array items) ++ rest) =
      .ok (.array (wideItems items), rest) := by
  obtain ⟨inner, hroom, hf⟩ := hf
  cases items with
  | nil =>
    rw [printAt]
    show readValue limit (fuel + 1) room ('[' :: ']' :: rest) = _
    simp only [readValue, hroom]
    rfl
  | cons v vs =>
    obtain ⟨hv, hvs⟩ := hf
    have hp := beginsValue_printAt (depth + 1) hv
    -- the first item is no closing bracket
    have hb : ∀ x r, skipSpace (newLine (depth + 1) ++ (printAt (depth + 1) v ++ x)) ≠ ']' :: r := by
      obtain ⟨c, r, hc, -, hne, -⟩ := id hp
      intro x r' h
      rw [skipSpace_newLine, skipSpace_of_beginsValue hp, hc] at h
      exact hne (List.cons.inj h).1
    simp only [printAt, List.cons_append, List.append_assoc, List.length_cons, List.length_append,
      List.nil_append] at hl ⊢
    rw [readValue]
    simp only [hroom]
    split
    · next h => exact absurd h (hb _ _)
    · rw [skipSpace_newLine, skipSpace_of_beginsValue hp,
        hi inner (depth + 1) depth v vs rest hv hvs (by rw [List.length_append]; omega)]
      rfl

theorem readValue_object {fuel : Nat} (hm : ReadsMembers limit fuel) {depth : Nat}
    {members : List (Text × Json Text)} (rest : Text) (hf : Faithful limit room (.object members))
    (hl : (printAt depth (.object members)).length ≤ fuel + 1) :
    readValue limit (fuel + 1) room (printAt depth (.object members) ++ rest) =
      .ok (.object (wideMembers members), rest) := by
  obtain ⟨inner, hroom, hk, hf⟩ := hf
  cases members with
  | nil =>
    rw [printAt]
    show readValue limit (fuel + 1) room ('\x7b' :: '\x7d' :: rest) = _
    simp only [readValue, hroom]
    rfl
  | cons m ms =>
    obtain ⟨key, v⟩ := m
    obtain ⟨hv, hvs⟩ := hf
    have hm := hm inner (depth + 1) depth [] key v ms rest (nodup_keys_wideMembers hk) hv hvs
    simp only [printAt, List.cons_append, List.append_assoc, List.length_cons, List.length_append,
      List.nil_append] at hl hm ⊢
    obtain ⟨r, hr, -⟩ := readString_printString key
      (": ".toList ++ (printAt (depth + 1) v ++ (printMembers (depth + 1) ms ++
        (newLine depth ++ '\x7d' :: rest))))
    rw [readValue]
    simp only [hroom]
    rw [hr] at hm ⊢
    rw [skipSpace_newLine, skipSpace_cons rfl]
    show (readMembers limit fuel inner [] ('"' :: r) >>= _) = _
    rw [hm (by omega)]
    rfl

theorem readsValues_succ {fuel : Nat} (hi : ReadsItems limit fuel) (hm : ReadsMembers limit fuel) :
    ReadsValues limit (fuel + 1) := by
  intro room depth v rest hf hl hr
  cases v with
  | null => rfl
  | bool b => cases b <;> rfl
  | int i => exact readValue_ofInt hf hr
  | float x => exact hf.elim
  | string t =>
    obtain ⟨r, hr, hs⟩ := readString_printString t rest
    rw [wide, printAt, hr, readValue, hs]
    rfl
  | array items => exact readValue_array hi rest hf hl
  | object members => exact readValue_object hm rest hf hl

theorem length_pos_of_beginsValue {t : Text} (h : BeginsValue t) : 0 < t.length := by
  obtain ⟨c, r, rfl, -⟩ := h
  exact Nat.succ_pos _

/-- Every character of a value pays for one turn of the fuel. -/
theorem reads (fuel : Nat) :
    ReadsValues limit fuel ∧ ReadsItems limit fuel ∧ ReadsMembers limit fuel := by
  induction fuel with
  | zero =>
    refine ⟨?_, ?_, ?_⟩
    · intro room depth v rest hf hl
      have hp := length_pos_of_beginsValue (beginsValue_printAt depth hf)
      omega
    · intro room depth outer v vs rest _ _ hl
      exact absurd hl (Nat.not_lt_zero _)
    · intro room depth outer before key v ms rest _ _ _ hl
      exact absurd hl (Nat.not_lt_zero _)
  | succ fuel ih =>
    obtain ⟨hv, hi, hm⟩ := ih
    exact ⟨readsValues_succ hi hm, readsItems_succ hv hi, readsMembers_succ hv hm⟩

/-- **A document is read back from its text**, with a line feed behind it. -/
theorem parseWithin_print {v : Json Text} (h : Faithful limit room v) :
    parseWithin limit (v.print ++ ['\n']) room = .ok v.wide := by
  have hp := beginsValue_printAt 0 h
  have hl : (printAt 0 v).length ≤ 2 * (printAt 0 v ++ ['\n']).length + 2 := by
    rw [List.length_append]
    omega
  have hd : readDocument limit room (printAt 0 v ++ ['\n']) = .ok v.wide := by
    rw [readDocument, skipSpace_of_beginsValue hp,
      (reads _).1 room 0 v ['\n'] h hl (endsNumber_newLine 0 [])]
    rfl
  unfold parseWithin print
  split
  · next rest heq =>
    obtain ⟨c, r, hc, -, -, -, hne⟩ := hp
    rw [hc, List.cons_append] at heq
    exact absurd (List.cons.inj heq).1 hne
  · rw [hd]
    rfl

/-! ### Line ends -/

theorem lineEnd_not_mem_escapeChar {e : Char} (he : e = '\n' ∨ e = '\r') (c : Char) :
    e ∉ escapeChar c := by
  have hpiece : ∀ piece ∈ ["\\\"".toList, "\\\\".toList, "\\n".toList, "\\r".toList,
      "\\t".toList, "\\f".toList, "\\b".toList, "\\u".toList], e ∉ piece := by
    rcases he with rfl | rfl <;> decide
  have hex : ∀ n < 0x20, e ∉ Text.hexPadded 4 n := by
    rcases he with rfl | rfl <;> decide
  unfold escapeChar
  split_ifs with h₁ h₂ h₃ h₄ h₅ h₆ h₇ h₈
  · exact hpiece _ (by simp)
  · exact hpiece _ (by simp)
  · exact hpiece _ (by simp)
  · exact hpiece _ (by simp)
  · exact hpiece _ (by simp)
  · exact hpiece _ (by simp)
  · exact hpiece _ (by simp)
  · rw [List.mem_append, not_or]
    exact ⟨hpiece _ (by simp), hex _ h₈⟩
  · rw [List.mem_singleton]
    rintro rfl
    simp [h₃, h₄] at he

/-- A string is written on one line. -/
theorem lineEnd_not_mem_printString {e : Char} (he : e = '\n' ∨ e = '\r') (t : Text) :
    e ∉ printString t := by
  have hquote : e ≠ '"' := by
    rcases he with rfl | rfl <;> decide
  simp only [printString, List.cons_append, List.mem_cons, List.mem_append, List.mem_flatMap,
    List.not_mem_nil, or_false, not_or, not_exists, not_and]
  exact ⟨hquote, fun c _ => lineEnd_not_mem_escapeChar he c, hquote⟩

theorem return_not_mem_printString (t : Text) : '\r' ∉ printString t :=
  lineEnd_not_mem_printString (.inr rfl) t

theorem return_not_mem_newLine (depth : Nat) : '\r' ∉ newLine depth := by
  rw [newLine, List.mem_cons, List.mem_replicate]
  simp

mutual

/-- The lines of a document end with line feeds alone. -/
theorem return_not_mem_printAt (depth : Nat) : ∀ room v, Faithful limit room v → '\r' ∉ printAt depth v
  | _, .null, _ => by simp [printAt]
  | _, .bool true, _ => by simp [printAt]
  | _, .bool false, _ => by simp [printAt]
  | _, .int i, _ => Text.not_mem_ofInt (by decide) (by decide) i
  | _, .float _, h => h.elim
  | _, .string t, _ => return_not_mem_printString t
  | _, .array [], _ => by simp [printAt]
  | _, .array (v :: vs), ⟨inner, _, hv, hvs⟩ => by
    have hv := return_not_mem_printAt (depth + 1) inner v hv
    have hvs := return_not_mem_printItems (depth + 1) inner vs hvs
    simp [printAt, return_not_mem_newLine, hv, hvs]
  | _, .object [], _ => by simp [printAt]
  | _, .object ((key, v) :: ms), ⟨inner, _, _, hv, hms⟩ => by
    have hv := return_not_mem_printAt (depth + 1) inner v hv
    have hms := return_not_mem_printMembers (depth + 1) inner ms hms
    simp [printAt, return_not_mem_newLine, return_not_mem_printString, hv, hms]

theorem return_not_mem_printItems (depth : Nat) :
    ∀ room vs, FaithfulItems limit room vs → '\r' ∉ printItems depth vs
  | _, [], _ => List.not_mem_nil
  | room, v :: vs, h => by
    have hv := return_not_mem_printAt depth room v h.1
    have hvs := return_not_mem_printItems depth room vs h.2
    simp [printItems, return_not_mem_newLine, hv, hvs]

theorem return_not_mem_printMembers (depth : Nat) :
    ∀ room ms, FaithfulMembers limit room ms → '\r' ∉ printMembers depth ms
  | _, [], _ => List.not_mem_nil
  | room, (key, v) :: ms, h => by
    have hv := return_not_mem_printAt depth room v h.1
    have hms := return_not_mem_printMembers depth room ms h.2
    simp [printMembers, return_not_mem_newLine, return_not_mem_printString, hv, hms]

end

theorem return_not_mem_print {v : Json Text} (h : Faithful limit room v) : '\r' ∉ v.print :=
  return_not_mem_printAt 0 room v h

end CommentTasks.Json
