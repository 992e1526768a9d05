/-
Rows: values kept under keys, in the order in which the keys arrived. A key that is put again keeps
its place and changes its value, so no key ever has two rows.
-/
namespace RecordKeys

/-- Values kept under keys. -/
abbrev Rows (κ α : Type) := List (κ × α)

namespace Rows

variable {κ α β : Type}

/-- The keys in the order of arrival. -/
def keys (x : Rows κ α) : List κ := x.map (·.1)

@[simp] theorem keys_nil : keys ([] : Rows κ α) = [] := rfl

@[simp] theorem keys_cons (p : κ × α) (x : Rows κ α) : keys (p :: x) = p.1 :: x.keys := rfl

@[simp] theorem keys_append (x y : Rows κ α) : keys (x ++ y) = x.keys ++ y.keys := List.map_append

section Lookup

variable [DecidableEq κ]

/-- The value kept under a key. -/
def get? (x : Rows κ α) (key : κ) : Option α := (x.find? (·.1 == key)).map (·.2)

/-- Keeps a value under a key. A key that is there keeps its place; a new one comes last. -/
def put (key : κ) (a : α) : Rows κ α → Rows κ α
  | [] => [(key, a)]
  | (k, old) :: rest => if k = key then (k, a) :: rest else (k, old) :: put key a rest

/-- Drops a key; the others keep their order. -/
def drop (key : κ) : Rows κ α → Rows κ α
  | [] => []
  | (k, old) :: rest => if k = key then rest else (k, old) :: drop key rest

/-! ## Lookup -/

@[simp] theorem get?_nil (key : κ) : get? ([] : Rows κ α) key = none := rfl

theorem get?_cons (p : κ × α) (x : Rows κ α) (key : κ) :
    get? (p :: x) key = if p.1 = key then some p.2 else x.get? key := by
  unfold get?
  by_cases h : p.1 = key
  · simp [h]
  · simp [h]

theorem get?_eq_none_iff {x : Rows κ α} {key : κ} : x.get? key = none ↔ key ∉ x.keys := by
  induction x with
  | nil => simp [keys]
  | cons p x ih =>
    rw [get?_cons]
    split
    · rename_i h; simp [keys, h]
    · rename_i h; rw [ih]; simp [keys, Ne.symm h]

theorem isSome_get?_iff {x : Rows κ α} {key : κ} : (x.get? key).isSome ↔ key ∈ x.keys := by
  rw [Option.isSome_iff_ne_none, Ne, get?_eq_none_iff, Classical.not_not]

theorem mem_of_get? {x : Rows κ α} {key : κ} {a : α} (h : x.get? key = some a) : (key, a) ∈ x := by
  induction x with
  | nil => cases h
  | cons p x ih =>
    rw [get?_cons] at h
    split at h
    · rename_i hk; cases h; cases hk; exact List.mem_cons_self
    · exact List.mem_cons_of_mem _ (ih h)

/-- Where no key has two rows, every row is found under its key. -/
theorem get?_eq_some_iff {x : Rows κ α} (hx : x.keys.Nodup) {key : κ} {a : α} :
    x.get? key = some a ↔ (key, a) ∈ x := by
  refine ⟨mem_of_get?, fun h => ?_⟩
  induction x with
  | nil => cases h
  | cons p x ih =>
    simp only [keys_cons, List.nodup_cons] at hx
    rw [get?_cons]
    rcases List.mem_cons.1 h with h | h
    · cases h; simp
    · rw [if_neg, ih hx.2 h]
      intro hk
      exact hx.1 (hk ▸ List.mem_map_of_mem h)

/-! ## Putting -/

theorem get?_put_self (key : κ) (a : α) (x : Rows κ α) : (put key a x).get? key = some a := by
  induction x with
  | nil => simp [put, get?]
  | cons p rest ih =>
    unfold put
    split
    · rename_i h; simp [get?, h]
    · rename_i h; simpa [get?, h] using ih

theorem get?_put_of_ne {key other : κ} (h : other ≠ key) (a : α) (x : Rows κ α) :
    (put key a x).get? other = x.get? other := by
  induction x with
  | nil => simp [put, get?, h.symm]
  | cons p rest ih =>
    unfold put
    split
    · rename_i hk; simp [get?, hk, h.symm]
    · rename_i hk
      by_cases ho : p.1 = other
      · simp [get?, ho]
      · simpa [get?, ho] using ih

/-- A key that is not there comes last. -/
theorem put_of_not_mem {key : κ} {x : Rows κ α} (h : key ∉ x.keys) (a : α) :
    put key a x = x ++ [(key, a)] := by
  induction x with
  | nil => rfl
  | cons p rest ih =>
    simp only [keys_cons, List.mem_cons, not_or] at h
    unfold put
    rw [if_neg (Ne.symm h.1), ih h.2, List.cons_append]

theorem mem_keys_put {key other : κ} {a : α} {x : Rows κ α} :
    other ∈ (put key a x).keys ↔ other = key ∨ other ∈ x.keys := by
  rw [← isSome_get?_iff, ← isSome_get?_iff]
  by_cases h : other = key
  · subst h; simp [get?_put_self]
  · simp [get?_put_of_ne h, h]

theorem nodup_keys_put (key : κ) (a : α) {x : Rows κ α} (hx : x.keys.Nodup) :
    (put key a x).keys.Nodup := by
  induction x with
  | nil => simp [put, keys]
  | cons p rest ih =>
    simp only [keys_cons, List.nodup_cons] at hx
    unfold put
    split
    · simpa only [keys_cons, List.nodup_cons] using hx
    · rename_i hk
      simp only [keys_cons, List.nodup_cons]
      refine ⟨fun hp => ?_, ih hx.2⟩
      rcases mem_keys_put.1 hp with h | h
      · exact hk h
      · exact hx.1 h

/-- A key that is there keeps its place. -/
theorem keys_put_of_mem {key : κ} {x : Rows κ α} (h : key ∈ x.keys) (a : α) :
    (put key a x).keys = x.keys := by
  induction x with
  | nil => cases h
  | cons p rest ih =>
    unfold put
    split
    · rfl
    · rename_i hp
      rw [keys_cons, keys_cons, ih ((List.mem_cons.1 h).resolve_left (Ne.symm hp))]

/-- Rows that are put one by one, each under a key that is not there yet, come one after the
other. -/
theorem foldl_put_eq_append (f : β → α) (new : Rows κ β) {x : Rows κ α}
    (h : (x.keys ++ new.keys).Nodup) :
    new.foldl (fun x p => put p.1 (f p.2) x) x = x ++ new.map fun p => (p.1, f p.2) := by
  induction new generalizing x with
  | nil => simp
  | cons p new ih =>
    have hp : p.1 ∉ x.keys := fun hm =>
      (List.nodup_append.1 h).2.2 _ hm _ List.mem_cons_self rfl
    rw [List.foldl_cons, put_of_not_mem hp, ih]
    · simp
    · simpa [keys] using h

/-! ## Dropping -/

theorem keys_drop (key : κ) (x : Rows κ α) : (drop key x).keys = x.keys.erase key := by
  induction x with
  | nil => rfl
  | cons p rest ih =>
    unfold drop
    split
    · rename_i h; rw [keys_cons, h, List.erase_cons_head]
    · rename_i h; rw [keys_cons, keys_cons, ih, List.erase_cons_tail (by simpa using h)]

theorem get?_drop_self (key : κ) {x : Rows κ α} (hx : x.keys.Nodup) :
    (drop key x).get? key = none := by
  rw [get?_eq_none_iff, keys_drop]
  exact hx.not_mem_erase

theorem get?_drop_of_ne {key other : κ} (h : other ≠ key) (x : Rows κ α) :
    (drop key x).get? other = x.get? other := by
  induction x with
  | nil => rfl
  | cons p rest ih =>
    unfold drop
    split
    · rename_i hk; rw [get?_cons, if_neg (hk ▸ h.symm)]
    · rw [get?_cons, get?_cons, ih]

theorem drop_of_not_mem {key : κ} {x : Rows κ α} (h : key ∉ x.keys) : drop key x = x := by
  induction x with
  | nil => rfl
  | cons p rest ih =>
    simp only [keys_cons, List.mem_cons, not_or] at h
    unfold drop
    rw [if_neg (Ne.symm h.1), ih h.2]

end Lookup

end Rows

end RecordKeys
