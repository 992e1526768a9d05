/-
An instance as a store of cells. A cell is a slot of one of its levels, named by the number of bases
up to that level and the position of the slot there, whatever the types of the levels are. To write
a cell is to rebuild the levels below it; no other cell changes, nor the type of any level, and the
old datum written back gives the old instance.

Every access of a member is an access of one cell, provided that the types along its path are those
that the path names.
-/
import RecordKeys.Value
import Mathlib.Data.List.Basic

namespace RecordKeys

/-- Puts a datum into a slot. -/
def Content.write (i : Nat) (d : Datum) : Content → Content
  | slots s => slots (s.set i (some d))
  | variant index => variant index

namespace Value

/-- The instance some bases up. -/
def up? : Nat → Value → Option Value
  | 0, v => some v
  | n + 1, embedding _ _ base => up? n base
  | _ + 1, _ => none

/-- The datum in a cell: that in a slot of the level some bases up. -/
def cell? : Value → Nat → Nat → Option Datum
  | plain _, _, _ => none
  | root _ content, 0, i => content.slot? i
  | root _ _, _ + 1, _ => none
  | embedding _ content _, 0, i => content.slot? i
  | embedding _ _ base, n + 1, i => base.cell? n i

/-- Puts a datum into a cell. -/
def write (d : Datum) : Value → Nat → Nat → Value
  | plain e, _, _ => plain e
  | root id content, 0, i => root id (content.write i d)
  | root id content, _ + 1, _ => root id content
  | embedding id content base, 0, i => embedding id (content.write i d) base
  | embedding id content base, n + 1, i => embedding id content (base.write d n i)

/-- Whether the levels along a path have the types that the path names, and the one at its end is an
instance of `owner`. -/
def reaches (owner : TypeId) : List Link → Value → Bool
  | [], v => v.typeId? == some owner
  | l :: path, embedding id _ base => id == l.owner && base.reaches owner path
  | _ :: _, _ => false

end Value

/-! ## One level -/

namespace Content

theorem slot?_write_self {c : Content} {i : Nat} {old : Datum} (h : c.slot? i = some old)
    (d : Datum) : (c.write i d).slot? i = some d := by
  cases c with
  | variant index => cases h
  | slots s =>
    simp only [slot?, Option.join_eq_some_iff] at h
    obtain ⟨hi, -⟩ := List.getElem?_eq_some_iff.1 h
    simp only [write, slot?, List.getElem?_set_self hi, Option.join_some]

theorem slot?_write_of_ne {i j : Nat} (h : i ≠ j) (c : Content) (d : Datum) :
    (c.write i d).slot? j = c.slot? j := by
  cases c with
  | variant index => rfl
  | slots s => simp only [write, slot?, List.getElem?_set_ne h]

theorem write_write_cancel {c : Content} {i : Nat} {old : Datum} (h : c.slot? i = some old)
    (d : Datum) : (c.write i d).write i old = c := by
  cases c with
  | variant index => cases h
  | slots s =>
    simp only [slot?, Option.join_eq_some_iff] at h
    obtain ⟨hi, hold⟩ := List.getElem?_eq_some_iff.1 h
    simp only [write, List.set_set, ← hold, List.set_getElem_self]

theorem write_self {c : Content} {i : Nat} {d : Datum} (h : c.slot? i = some d) :
    c.write i d = c := by
  cases c with
  | variant index => rfl
  | slots s =>
    simp only [slot?, Option.join_eq_some_iff] at h
    obtain ⟨hi, hd⟩ := List.getElem?_eq_some_iff.1 h
    simp only [write, ← hd, List.set_getElem_self]

end Content

theorem reviseAt_eq {α : Type} (f : Datum → Option (α × Datum)) (i : Nat)
    (s : List (Option Datum)) :
    reviseAt f i s =
      s[i]?.join.bind fun old => (f old).map fun (a, new) => (a, s.set i (some new)) := by
  induction s generalizing i with
  | nil => simp [reviseAt]
  | cons o s ih =>
    cases i with
    | zero => cases o <;> simp [reviseAt]
    | succ i =>
      simp only [reviseAt, ih, List.getElem?_cons_succ, List.set_cons_succ]
      cases s[i]?.join with
      | none => rfl
      | some old => simp only [Option.bind_some, Option.map_map]; rfl

/-- A revision of a slot is a read and a write. -/
theorem Content.revise_eq {α : Type} (f : Datum → Option (α × Datum)) (i : Nat) (c : Content) :
    c.revise i f = (c.slot? i).bind fun old => (f old).map fun (a, new) => (a, c.write i new) := by
  cases c with
  | variant index => rfl
  | slots s =>
    simp only [revise, slot?, write, reviseAt_eq]
    cases s[i]?.join with
    | none => rfl
    | some old => simp only [Option.bind_some, Option.map_map]; rfl

/-! ## All levels -/

namespace Value

theorem cell?_write_self {v : Value} {n i : Nat} {old : Datum} (h : v.cell? n i = some old)
    (d : Datum) : (v.write d n i).cell? n i = some d := by
  induction v generalizing n with
  | plain e => cases h
  | root id content =>
    cases n with
    | zero => exact Content.slot?_write_self h d
    | succ n => cases h
  | embedding id content base ih =>
    cases n with
    | zero => exact Content.slot?_write_self h d
    | succ n => exact ih h

theorem cell?_write_of_ne {n i k j : Nat} (h : (n, i) ≠ (k, j)) (v : Value) (d : Datum) :
    (v.write d n i).cell? k j = v.cell? k j := by
  induction v generalizing n k with
  | plain e => rfl
  | root id content =>
    cases n with
    | succ n => rfl
    | zero =>
      cases k with
      | succ k => rfl
      | zero => exact Content.slot?_write_of_ne (fun hij => h (congrArg _ hij)) content d
  | embedding id content base ih =>
    cases n with
    | zero =>
      cases k with
      | succ k => rfl
      | zero => exact Content.slot?_write_of_ne (fun hij => h (congrArg _ hij)) content d
    | succ n =>
      cases k with
      | zero => rfl
      | succ k => exact ih fun he => h (by cases he; rfl)

theorem write_write_cancel {v : Value} {n i : Nat} {old : Datum} (h : v.cell? n i = some old)
    (d : Datum) : (v.write d n i).write old n i = v := by
  induction v generalizing n with
  | plain e => rfl
  | root id content =>
    cases n with
    | zero => exact congrArg (root id) (Content.write_write_cancel h d)
    | succ n => rfl
  | embedding id content base ih =>
    cases n with
    | zero => exact congrArg (embedding id · base) (Content.write_write_cancel h d)
    | succ n => exact congrArg (embedding id content) (ih h)

/-- To write the datum that is there writes nothing. -/
theorem write_self {v : Value} {n i : Nat} {d : Datum} (h : v.cell? n i = some d) :
    v.write d n i = v := by
  induction v generalizing n with
  | plain e => rfl
  | root id content =>
    cases n with
    | zero => exact congrArg (root id) (Content.write_self h)
    | succ n => rfl
  | embedding id content base ih =>
    cases n with
    | zero => exact congrArg (embedding id · base) (Content.write_self h)
    | succ n => exact congrArg (embedding id content) (ih h)

/-- A write leaves every base in place, and the types as they are. -/
theorem typeId?_up?_write (n i : Nat) (d : Datum) (v : Value) (k : Nat) :
    ((v.write d n i).up? k).map typeId? = (v.up? k).map typeId? := by
  induction v generalizing n k with
  | plain e => rfl
  | root id content => cases n <;> cases k <;> rfl
  | embedding id content base ih =>
    cases k with
    | zero => cases n <;> rfl
    | succ k =>
      cases n with
      | zero => rfl
      | succ n => exact ih n k

theorem typeId?_write (n i : Nat) (d : Datum) (v : Value) : (v.write d n i).typeId? = v.typeId? := by
  cases v <;> cases n <;> rfl

theorem reaches_write (n i : Nat) (d : Datum) (owner : TypeId) (path : List Link) (v : Value) :
    (v.write d n i).reaches owner path = v.reaches owner path := by
  induction path generalizing n v with
  | nil => simp only [reaches, typeId?_write]
  | cons l path ih =>
    cases v with
    | plain e => rfl
    | root id content => cases n <;> rfl
    | embedding id content base =>
      cases n with
      | zero => rfl
      | succ n => exact congrArg (id == l.owner && ·) (ih n base)

/-! ## Accesses by way of a path -/

/-- What is read at the end of a path is a cell. -/
theorem follow_slot?_eq (owner : TypeId) (i : Nat) (path : List Link) (v : Value) :
    (v.follow path).bind (·.slot? owner i) =
      if v.reaches owner path then v.cell? path.length i else none := by
  induction path generalizing v with
  | nil =>
    cases v with
    | plain e => rfl
    | root id content =>
      by_cases h : id = owner <;> simp [follow, slot?, content?, reaches, typeId?, cell?, h]
    | embedding id content base =>
      by_cases h : id = owner <;> simp [follow, slot?, content?, reaches, typeId?, cell?, h]
  | cons l path ih =>
    cases v with
    | plain e => rfl
    | root id content => rfl
    | embedding id content base =>
      by_cases h : id = l.owner
      · simpa [follow, base?, reaches, cell?, h] using ih base
      · simp [follow, base?, reaches, h]

/-- What is revised at the end of a path is a cell: the revision is a read and a write. -/
theorem reviseAlong_eq {α : Type} (owner : TypeId) (i : Nat) (f : Datum → Option (α × Datum))
    (path : List Link) (v : Value) :
    v.reviseAlong (·.reviseSlot owner i f) path =
      if v.reaches owner path then
        (v.cell? path.length i).bind fun old =>
          (f old).map fun (a, new) => (a, v.write new path.length i)
      else none := by
  induction path generalizing v with
  | nil =>
    cases v with
    | plain e => rfl
    | root id content =>
      by_cases h : id = owner
      · simp [reviseAlong, reviseSlot, reaches, typeId?, cell?, write, h, Content.revise_eq,
          Option.map_bind, Function.comp_def]
      · simp [reviseAlong, reviseSlot, reaches, typeId?, h]
    | embedding id content base =>
      by_cases h : id = owner
      · simp [reviseAlong, reviseSlot, reaches, typeId?, cell?, write, h, Content.revise_eq,
          Option.map_bind, Function.comp_def]
      · simp [reviseAlong, reviseSlot, reaches, typeId?, h]
  | cons l path ih =>
    cases v with
    | plain e => rfl
    | root id content => rfl
    | embedding id content base =>
      by_cases h : id = l.owner
      · cases hr : base.reaches owner path <;>
          simp [reviseAlong, reaches, cell?, write, h, ih, hr, Option.map_bind, Function.comp_def]
      · simp [reviseAlong, reaches, h]

end Value

end RecordKeys
