/-
What a record keeps beside its fields, told from the history of the requests that it met. A normal
form has the value that was last put under it since it was last removed, and it has its place by the
first time that something was put under it since then: putting again moves nothing, and removing
moves no other.
-/
import RecordKeys.View.Overflow
import Mathlib.Data.List.DropRight

namespace RecordKeys.OpenRecord

/-- A request that may change a record: a value for a key, the removal of a key, or another value
for the record itself. A value whose kind the caller knows beforehand is put like any other. -/
inductive Change
  | set (key : String) (d : Datum)
  | remove (key : String)
  | write (v : Value)

namespace Change

variable (m : KeyMap)

/-- The value that a change puts under a normal form that no member has. -/
def puts? (normal : String) : Change → Option Datum
  | set key d => if (m.field? key).isNone && m.casing.normal key == normal then some d else none
  | _ => none

/-- Whether a change removes a normal form. -/
def removes (normal : String) : Change → Bool
  | remove key => m.casing.normal key == normal
  | _ => false

/-- What a change makes of the value of a record. -/
def onValue (v : Value) : Change → Value
  | set key d => ((m.field? key).map fun e => (e.replace v d).after).getD v
  | remove _ => v
  | write v' => v'

/-- What a change makes of the contents that a record keeps beside its fields. -/
def onExtras (x : Extras) : Change → Extras
  | set key d => if (m.field? key).isNone then x.put (m.casing.normal key) d else x
  | remove key => x.drop (m.casing.normal key)
  | write _ => x

end Change

/-! ## Histories -/

section Histories

variable (m : KeyMap) (normal : String) (changes : List Change)

/-- The changes since a normal form was last removed. -/
def sinceRemoval : List Change := changes.rtakeWhile fun c => !c.removes m normal

/-- The value that was last put under a normal form since it was last removed. -/
def lastPut? : Option Datum :=
  ((sinceRemoval m normal changes).filterMap (·.puts? m normal)).getLast?

/-- The position in the history at which something was first put under a normal form since it was
last removed. -/
def arrival? : Option Nat :=
  ((sinceRemoval m normal changes).findIdx? fun c => (c.puts? m normal).isSome).map
    (· + (changes.length - (sinceRemoval m normal changes).length))

/-- Whether one normal form has arrived, and another after it. -/
def ArrivesBefore (a b : String) : Prop :=
  ∃ i j, arrival? m a changes = some i ∧ arrival? m b changes = some j ∧ i < j

end Histories

section Steps

variable {m : KeyMap} {normal : String} {changes : List Change} {c : Change}

theorem sinceRemoval_concat :
    sinceRemoval m normal (changes ++ [c]) =
      if c.removes m normal then [] else sinceRemoval m normal changes ++ [c] := by
  unfold sinceRemoval
  rw [List.rtakeWhile_concat]
  cases c.removes m normal <;> simp

theorem length_sinceRemoval_le (m : KeyMap) (normal : String) (changes : List Change) :
    (sinceRemoval m normal changes).length ≤ changes.length :=
  (List.rtakeWhile_suffix _ _).length_le

theorem lastPut?_concat :
    lastPut? m normal (changes ++ [c]) =
      if c.removes m normal then none else (c.puts? m normal).or (lastPut? m normal changes) := by
  unfold lastPut?
  rw [sinceRemoval_concat]
  split
  · rfl
  · rw [List.filterMap_append]
    cases h : c.puts? m normal <;> simp [h]

theorem arrival?_concat :
    arrival? m normal (changes ++ [c]) =
      if c.removes m normal then none
      else (arrival? m normal changes).or
        (if (c.puts? m normal).isSome then some changes.length else none) := by
  have hle := length_sinceRemoval_le m normal changes
  unfold arrival?
  rw [sinceRemoval_concat]
  split
  · rfl
  · simp only [List.findIdx?_append, List.length_append, List.length_singleton,
      Nat.add_sub_add_right]
    cases (sinceRemoval m normal changes).findIdx? fun c => (c.puts? m normal).isSome with
    | some i => rfl
    | none =>
      cases hc : (c.puts? m normal).isSome with
      | false => simp [hc]
      | true => simp [hc]; omega

theorem arrival?_lt {i : Nat} (h : arrival? m normal changes = some i) : i < changes.length := by
  have hle := length_sinceRemoval_le m normal changes
  obtain ⟨j, hj, rfl⟩ := Option.map_eq_some_iff.1 h
  have hlt := (List.findIdx?_eq_some_iff_getElem.1 hj).1
  omega

/-- What a history leaves under a normal form has been put by a request for a spelling of it. -/
theorem exists_set_of_lastPut? {d : Datum} (h : lastPut? m normal changes = some d) :
    ∃ key, .set key d ∈ changes ∧ m.field? key = none ∧ m.casing.normal key = normal := by
  obtain ⟨c, hc, hputs⟩ := List.mem_filterMap.1 (List.mem_of_getLast? h)
  have hmem : c ∈ changes := (List.rtakeWhile_suffix _ _).subset hc
  cases c with
  | remove key => cases hputs
  | write v => cases hputs
  | set key d' =>
    obtain ⟨hputs, hd⟩ := Option.ite_none_right_eq_some.1 hputs
    obtain ⟨hnone, hnormal⟩ := Bool.and_eq_true_iff.1 hputs
    cases hd
    exact ⟨key, hmem, Option.isNone_iff_eq_none.1 hnone, beq_iff_eq.1 hnormal⟩

/-- What has arrived is what has a value. -/
theorem isSome_arrival?_iff :
    (arrival? m normal changes).isSome ↔ (lastPut? m normal changes).isSome := by
  induction changes using List.reverseRecOn with
  | nil => rfl
  | append_singleton changes c ih =>
    rw [arrival?_concat, lastPut?_concat]
    split
    · rfl
    · rw [Option.isSome_or, Option.isSome_or, Bool.or_eq_true, Bool.or_eq_true, ih, or_comm]
      cases (c.puts? m normal).isSome <;> simp

/-- Whoever has arrived stays where it is until it is removed. -/
theorem ArrivesBefore.concat {a b : String} (h : ArrivesBefore m changes a b)
    (ha : ¬ c.removes m a) (hb : ¬ c.removes m b) : ArrivesBefore m (changes ++ [c]) a b := by
  obtain ⟨i, j, hi, hj, hlt⟩ := h
  refine ⟨i, j, ?_, ?_, hlt⟩
  · rw [arrival?_concat, if_neg ha, hi, Option.some_or]
  · rw [arrival?_concat, if_neg hb, hj, Option.some_or]

theorem ArrivesBefore.ne {a b : String} (h : ArrivesBefore m changes a b) : a ≠ b := by
  rintro rfl
  obtain ⟨i, j, hi, hj, hlt⟩ := h
  cases hi.symm.trans hj
  exact Nat.lt_irrefl i hlt

end Steps

/-! ## What is kept beside the fields -/

/-- Contents are those that a history leaves, in the order in which they arrived. -/
structure LeftBy (m : KeyMap) (changes : List Change) (x : Extras) : Prop where
  get : ∀ normal, x.get? normal = lastPut? m normal changes
  inOrder : x.keys.Pairwise (ArrivesBefore m changes)

namespace LeftBy

variable {m : KeyMap} {changes : List Change} {x : Extras}

theorem nodup (h : LeftBy m changes x) : x.keys.Nodup := h.inOrder.imp ArrivesBefore.ne

theorem mem_keys_iff (h : LeftBy m changes x) {normal : String} :
    normal ∈ x.keys ↔ (arrival? m normal changes).isSome := by
  rw [isSome_arrival?_iff, ← h.get, Rows.isSome_get?_iff]

/-- A change that neither puts nor removes leaves everything as it is. -/
theorem idle (h : LeftBy m changes x) {c : Change}
    (hc : ∀ normal, c.puts? m normal = none ∧ ¬ c.removes m normal) :
    LeftBy m (changes ++ [c]) x where
  get normal := by
    rw [lastPut?_concat, if_neg (hc normal).2, (hc normal).1, Option.none_or, h.get]
  inOrder := h.inOrder.imp fun {a b} hab => hab.concat (hc a).2 (hc b).2

theorem put (h : LeftBy m changes x) {key : String} (hkey : m.field? key = none) (d : Datum) :
    LeftBy m (changes ++ [.set key d]) (x.put (m.casing.normal key) d) := by
  have hputs : ∀ normal, (Change.set key d).puts? m normal =
      if m.casing.normal key = normal then some d else none := by
    intro normal; simp [Change.puts?, hkey]
  have hremoves : ∀ normal, ¬ (Change.set key d).removes m normal := fun _ => Bool.false_ne_true
  have hkept : x.keys.Pairwise (ArrivesBefore m (changes ++ [.set key d])) :=
    h.inOrder.imp fun {a b} hab => hab.concat (hremoves a) (hremoves b)
  constructor
  · intro normal
    rw [lastPut?_concat, if_neg (hremoves normal), hputs]
    split
    · rename_i hn; rw [← hn, Rows.get?_put_self, Option.some_or]
    · rename_i hn; rw [Rows.get?_put_of_ne (Ne.symm hn), Option.none_or, h.get]
  · by_cases hmem : m.casing.normal key ∈ x.keys
    · rw [Rows.keys_put_of_mem hmem]
      exact hkept
    · -- a normal form that is new arrives after all that are there
      rw [Rows.put_of_not_mem hmem, Rows.keys_append, List.pairwise_append]
      refine ⟨hkept, List.pairwise_singleton _ _, fun a ha b hb => ?_⟩
      rw [List.mem_singleton.1 hb]
      obtain ⟨i, hi⟩ := Option.isSome_iff_exists.1 (h.mem_keys_iff.1 ha)
      refine ⟨i, changes.length, ?_, ?_, arrival?_lt hi⟩
      · rw [arrival?_concat, if_neg (hremoves a), hi, Option.some_or]
      · have hnew : arrival? m (m.casing.normal key) changes = none := by
          rw [← Option.not_isSome_iff_eq_none, ← h.mem_keys_iff]; exact hmem
        rw [arrival?_concat, if_neg (hremoves _), hnew, hputs, if_pos rfl]
        rfl

theorem drop (h : LeftBy m changes x) (key : String) :
    LeftBy m (changes ++ [.remove key]) (x.drop (m.casing.normal key)) := by
  have hremoves : ∀ normal, (Change.remove key).removes m normal ↔ m.casing.normal key = normal :=
    fun _ => beq_iff_eq
  constructor
  · intro normal
    rw [lastPut?_concat]
    split
    · rename_i hn
      rw [← (hremoves normal).1 hn]
      exact Rows.get?_drop_self _ h.nodup
    · rename_i hn
      rw [Rows.get?_drop_of_ne fun he => hn ((hremoves normal).2 he.symm), h.get]
      rfl
  · rw [Rows.keys_drop]
    -- what is left is other than what is removed
    have hne : ∀ a ∈ x.keys.erase (m.casing.normal key), ¬ (Change.remove key).removes m a :=
      fun a ha hr => (h.nodup.mem_erase_iff.1 ha).1 ((hremoves a).1 hr).symm
    exact (h.inOrder.sublist List.erase_sublist).imp_of_mem fun ha hb hab =>
      hab.concat (hne _ ha) (hne _ hb)

/-- One change keeps to the history. -/
theorem concat (h : LeftBy m changes x) (c : Change) :
    LeftBy m (changes ++ [c]) (c.onExtras m x) := by
  cases c with
  | set key d =>
    cases hkey : m.field? key with
    | none =>
      simp only [Change.onExtras, hkey, Option.isNone_none, if_true]
      exact h.put hkey d
    | some e =>
      simp only [Change.onExtras, hkey, Option.isNone_some, Bool.false_eq_true, if_false]
      exact h.idle fun normal => ⟨by simp [Change.puts?, hkey], Bool.false_ne_true⟩
  | remove key => exact h.drop key
  | write v => exact h.idle fun normal => ⟨rfl, Bool.false_ne_true⟩

theorem nil (m : KeyMap) : LeftBy m [] [] := ⟨fun _ => rfl, List.Pairwise.nil⟩

/-- All changes, one after the other, keep to their history. -/
theorem foldl (m : KeyMap) (changes : List Change) :
    LeftBy m changes (changes.foldl (fun x c => c.onExtras m x) []) := by
  induction changes using List.reverseRecOn with
  | nil => exact nil m
  | append_singleton changes c ih => rw [List.foldl_concat]; exact ih.concat c

end LeftBy

end RecordKeys.OpenRecord
