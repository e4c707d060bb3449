/-!
# Keyed lists

A list of keys with their values, in the order in which the keys were first put. Putting a value
under a key that is there changes the value and keeps the place.
-/

namespace CommentTasks.Keyed

universe u v

variable {κ : Type u} {α : Type v}

/-- The keys of a list. -/
def keys (l : List (κ × α)) : List κ := l.map Prod.fst

@[simp] theorem keys_nil : keys ([] : List (κ × α)) = [] := rfl

@[simp] theorem keys_cons (x : κ × α) (l : List (κ × α)) : keys (x :: l) = x.1 :: keys l := rfl

variable [BEq κ]

/-- Put a value under a key. -/
def put (key : κ) (value : α) : List (κ × α) → List (κ × α)
  | [] => [(key, value)]
  | (k, old) :: rest => if k == key then (k, value) :: rest else (k, old) :: put key value rest

variable [LawfulBEq κ]

/-- A key that is there keeps its place, and a new one goes to the end. -/
theorem keys_put (key : κ) (value : α) (l : List (κ × α)) :
    keys (put key value l) = if key ∈ keys l then keys l else keys l ++ [key] := by
  induction l with
  | nil => simp [put]
  | cons x rest ih =>
    obtain ⟨k, old⟩ := x
    by_cases h : k = key
    · simp [put, h]
    · have h' : key ≠ k := fun e => h e.symm
      simp only [put, beq_iff_eq, h, if_false, keys_cons, List.mem_cons, h', false_or, ih]
      split <;> simp

theorem put_of_not_mem {key : κ} {value : α} {l : List (κ × α)} (h : key ∉ keys l) :
    put key value l = l ++ [(key, value)] := by
  induction l with
  | nil => rfl
  | cons x rest ih =>
    obtain ⟨k, old⟩ := x
    rw [keys_cons, List.mem_cons, not_or] at h
    have hk : (k == key) = false := by simpa using fun e : k = key => h.1 e.symm
    rw [put, hk, ih h.2]
    rfl

theorem lookup_put_self (key : κ) (value : α) (l : List (κ × α)) :
    (put key value l).lookup key = some value := by
  induction l with
  | nil => simp [put]
  | cons x rest ih =>
    obtain ⟨k, old⟩ := x
    by_cases h : k = key
    · simp [put, h]
    · have h' : (key == k) = false := by simpa using fun e : key = k => h e.symm
      simp [put, h, List.lookup_cons, h', ih]

theorem lookup_put_of_ne {key other : κ} (value : α) (l : List (κ × α)) (h : other ≠ key) :
    (put key value l).lookup other = l.lookup other := by
  have h' : (other == key) = false := by simpa using h
  induction l with
  | nil => simp [put, List.lookup_cons, h']
  | cons x rest ih =>
    obtain ⟨k, old⟩ := x
    by_cases hk : k = key
    · subst hk
      simp [put, List.lookup_cons, h']
    · simp [put, hk, List.lookup_cons, ih]

theorem lookup_eq_some_iff_mem {key : κ} {value : α} {l : List (κ × α)} (h : (keys l).Nodup) :
    l.lookup key = some value ↔ (key, value) ∈ l := by
  induction l with
  | nil => simp
  | cons x rest ih =>
    obtain ⟨k, old⟩ := x
    rw [keys_cons, List.nodup_cons] at h
    by_cases hk : key = k
    · subst hk
      have hn : (key, value) ∉ rest := fun hm => h.1 (List.mem_map.2 ⟨_, hm, rfl⟩)
      simp [hn, eq_comm]
    · have hk' : (key == k) = false := by simpa using hk
      rw [List.lookup_cons, hk', List.mem_cons]
      simp [hk, ih h.2]

theorem put_of_lookup {key : κ} {value : α} {l : List (κ × α)} (h : l.lookup key = some value) :
    put key value l = l := by
  induction l with
  | nil => cases h
  | cons x rest ih =>
    obtain ⟨k, old⟩ := x
    by_cases hk : k = key
    · subst hk
      have ho : some old = some value := by simpa [List.lookup_cons] using h
      cases ho
      rw [put, if_pos (beq_self_eq_true k)]
    · have hk' : (key == k) = false := by simpa using fun e : key = k => hk e.symm
      rw [List.lookup_cons, hk'] at h
      rw [put, if_neg (by simpa using hk), ih h]

theorem nodup_keys_put {key : κ} {value : α} {l : List (κ × α)} (h : (keys l).Nodup) :
    (keys (put key value l)).Nodup := by
  rw [keys_put]
  split
  · exact h
  · next hk =>
    exact List.nodup_append.2 ⟨h, by simp, fun a ha b hb e => by
      rw [List.mem_singleton] at hb
      exact hk (hb ▸ e ▸ ha)⟩

end CommentTasks.Keyed
