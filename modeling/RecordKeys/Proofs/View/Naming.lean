/-
Names of variants, there and back. The name of a variant is found by going through all keys for one
that stands for it, and the variant of a name by looking the name up; yet each undoes the other. Both
come down to one relation: a variant carries a name if it is the one of a member that is a key, and
that is the name of this member. If no two members are one variant then a variant carries one name at
most, and since the type has a key map, a name is carried by one variant at most.

Keys that the enumeration has from a base are declared by a type of another identity, so they stand
for no variant of it, whatever they are.
-/
import RecordKeys.Proofs.KeyMap.Flattening
import RecordKeys.Proofs.Registry.Reached
import RecordKeys.View.Variant

namespace RecordKeys

namespace Layout

/-- No two keys that a type declares stand for one variant. -/
def VariantsApart (t : Layout) : Prop :=
  ∀ k ∈ t.members, ∀ k' ∈ t.members, k.isKey → k'.isKey →
    k.access.isVariant → k.access = k'.access → k = k'

/-- The variant at a position is that of a key of this name. -/
def Carries (t : Layout) (i : Nat) (n : Name) : Prop :=
  ∃ k ∈ t.members, k.isKey ∧ k.access = .variant i ∧ k.wireName = n

instance (t : Layout) : Decidable t.VariantsApart := by unfold VariantsApart; infer_instance

/-- A variant carries one name at most. -/
theorem VariantsApart.name_unique {t : Layout} (h : t.VariantsApart) {i : Nat} {n n' : Name}
    (hn : t.Carries i n) (hn' : t.Carries i n') : n = n' := by
  obtain ⟨k, hk, hkey, haccess, rfl⟩ := hn
  obtain ⟨k', hk', hkey', haccess', rfl⟩ := hn'
  rw [h k hk k' hk' hkey hkey' (by rw [haccess]; rfl) (haccess.trans haccess'.symm)]

end Layout

/-! ## Variants of instances -/

namespace Value

theorem typeId?_of_variant? {v : Value} {owner : TypeId} {i : Nat}
    (h : v.variant? owner = some i) : v.typeId? = some owner := by
  cases v with
  | plain d => cases h
  | root id content =>
    by_cases hid : id = owner
    · rw [hid]; rfl
    · simp [variant?, content?, hid] at h
  | embedding id content base =>
    by_cases hid : id = owner
    · rw [hid]; rfl
    · simp [variant?, content?, hid] at h

@[simp] theorem variant?_root (owner : TypeId) (i : Nat) :
    (root owner (.variant i)).variant? owner = some i := by
  simp [variant?, content?]

/-- An instance that holds no base is nothing but its variant. -/
theorem eq_root_of_variant? {v : Value} {owner : TypeId} {i : Nat} (h : v.variant? owner = some i)
    (hbase : v.base? owner = none) : v = root owner (.variant i) := by
  have hid := typeId?_of_variant? h
  cases v with
  | plain d => cases h
  | root id content =>
    cases hid
    cases content with
    | slots s => simp [variant?, content?] at h
    | variant j => simpa [variant?, content?] using h
  | embedding id content base => cases hid; simp [base?] at hbase

end Value

namespace Entry

theorem isVariant_iff {e : Entry} {v : Value} :
    e.isVariant v ↔ ∃ i, e.member.access = .variant i ∧ v.variant? e.declaring.id = some i := by
  unfold isVariant
  cases e.member.access <;> simp

theorem variant?_eq_some_iff {e : Entry} {w : Value} :
    e.variant? = some w ↔
      ∃ i, e.member.access = .variant i ∧ w = .root e.declaring.id (.variant i) := by
  unfold variant?
  cases e.member.access <;> simp [eq_comm]

end Entry

/-! ## Key maps of enumerations -/

namespace KeyMap

variable {t : Layout} {m : KeyMap} (hm : build .exact t = .ok m)

include hm

/-- Each key that a type declares is filed under its name. -/
theorem own_mem_filed {k : Member} (hk : k ∈ t.members) (hkey : k.isKey) :
    (k.wireName, (⟨k, t, []⟩ : Entry)) ∈ m.filed := by
  rw [(build_spec hm).2.2.1]
  refine List.mem_map.2 ⟨⟨0, t, k⟩, Layout.mem_listing.2 ⟨?_, hk, hkey⟩, ?_⟩
  · rw [Layout.chain_eq_cons]; rfl
  · simp [Listed.row, Listed.entry, Listed.key]

variable (hid : ∀ u ∈ t.chain.tail, u.id ≠ t.id)

include hid

/-- The keys whose declaring type has the identity of the enumeration are its own. -/
theorem own_of_mem_filed {p : Name × Entry} (hp : p ∈ m.filed) (ht : p.2.declaring.id = t.id) :
    ∃ k ∈ t.members, k.isKey ∧ p = (k.wireName, ⟨k, t, []⟩) := by
  rw [(build_spec hm).2.2.1] at hp
  obtain ⟨⟨rank, owner, k⟩, hx, rfl⟩ := List.mem_map.1 hp
  obtain ⟨hlevel, hk, hkey⟩ := Layout.mem_listing.1 hx
  rw [Layout.chain_eq_cons] at hlevel
  cases rank with
  | zero =>
    cases hlevel
    exact ⟨k, hk, hkey, by simp [Listed.row, Listed.entry, Listed.key]⟩
  | succ rank => exact absurd ht (hid _ (List.mem_of_getElem? hlevel))

/-- A key that stands for the variant that an instance of the enumeration has taken lends it its
name. -/
theorem carries_of_isVariant {p : Name × Entry} (hp : p.2.declaring.id = t.id → p ∈ m.filed)
    {v : Value} (hv : v.typeId? = some t.id) (hvariant : p.2.isVariant v) :
    ∃ i, v.variant? t.id = some i ∧ t.Carries i p.2.name := by
  obtain ⟨i, haccess, hi⟩ := Entry.isVariant_iff.1 hvariant
  -- an instance has one identity, so the key is declared by the enumeration itself
  have howner : p.2.declaring.id = t.id :=
    Option.some.inj ((Value.typeId?_of_variant? hi).symm.trans hv)
  obtain ⟨k, hk, hkey, rfl⟩ := own_of_mem_filed hm hid (hp howner) howner
  exact ⟨i, hi, k, hk, hkey, haccess, rfl⟩

/-- The name that is found for a variant is the one that it carries, in whichever order the keys are
gone through, and whichever keys of other types are among them. -/
theorem variantName?_eq_some_iff (ht : t.VariantsApart) {rows : Rows Name Entry}
    (hrows : ∀ p : Name × Entry, p.2.declaring.id = t.id → (p ∈ rows ↔ p ∈ m.filed)) {v : Value}
    {n : Name} :
    { m with filed := rows }.variantName? v = some n ↔
      ∃ i, v.variant? t.id = some i ∧ t.Carries i n := by
  have hlayout : m.layout = t := (build_spec hm).1
  have hfound : ∀ p, rows.find? (·.2.isVariant v) = some p → v.typeId? = some t.id →
      ∃ i, v.variant? t.id = some i ∧ t.Carries i p.2.name := fun p hfind hv =>
    carries_of_isVariant hm hid
      (fun howner => (hrows p howner).1 (List.mem_of_find?_eq_some hfind)) hv
      (by simpa using List.find?_some hfind)
  unfold variantName?
  constructor
  · intro h
    split at h
    · rename_i hv
      obtain ⟨p, hfind, rfl⟩ := Option.map_eq_some_iff.1 h
      exact hfound p hfind (by simpa [Value.isOf, hlayout] using hv)
    · cases h
  · rintro ⟨i, hi, k, hk, hkey, haccess, rfl⟩
    have hv := Value.typeId?_of_variant? hi
    rw [if_pos (by simp [Value.isOf, hlayout, hv])]
    cases hfind : rows.find? (·.2.isVariant v) with
    | none =>
      have hnot := List.find?_eq_none.1 hfind _ ((hrows _ rfl).2 (own_mem_filed hm hk hkey))
      exact absurd (Entry.isVariant_iff.2 ⟨i, haccess, hi⟩) hnot
    | some p =>
      obtain ⟨j, hj, hcarries⟩ := hfound p hfind hv
      cases hi.symm.trans hj
      rw [Option.map_some, ht.name_unique hcarries ⟨k, hk, hkey, haccess, rfl⟩]

/-- The variant that is found for a name is the one that carries it. -/
theorem variant_of_lookup_iff {n : Name} {w : Value} :
    ((m.lookup n).bind (·.variant?)).filter (·.isOf t) = some w ↔
      ∃ i, w = .root t.id (.variant i) ∧ t.Carries i n := by
  obtain ⟨-, hcasing, -, hwf⟩ := build_spec hm
  have hlookup : m.lookup n = m.filed.get? n := by
    unfold lookup find?; rw [hcasing, Casing.key_exact]
  rw [hlookup, Option.filter_eq_some_iff, Option.bind_eq_some_iff]
  constructor
  · rintro ⟨⟨e, he, hvariant⟩, hw⟩
    obtain ⟨i, haccess, rfl⟩ := Entry.variant?_eq_some_iff.1 hvariant
    have howner : e.declaring.id = t.id := by simpa [Value.isOf, Value.typeId?] using hw
    obtain ⟨k, hk, hkey, hp⟩ := own_of_mem_filed hm hid (Rows.mem_of_get? he) howner
    cases hp
    exact ⟨i, rfl, k, hk, hkey, haccess, rfl⟩
  · rintro ⟨i, rfl, k, hk, hkey, haccess, rfl⟩
    refine ⟨⟨⟨k, t, []⟩, (Rows.get?_eq_some_iff hwf.nodup).2 (own_mem_filed hm hk hkey), ?_⟩, ?_⟩
    · exact Entry.variant?_eq_some_iff.2 ⟨i, haccess, rfl⟩
    · simp [Value.isOf, Value.typeId?]

end KeyMap

/-! ## Requests -/

namespace Registry

variable {serves : Layout → Prop} {r : Registry} {t : Layout} {m : KeyMap}

/-- The key map of an enumeration is the one of a build. -/
theorem enumMap_of_build (hone : Layout.OneEach serves) (hr : r.Reached serves) (ht : serves t)
    (henum : t.isEnum) (hm : KeyMap.build .exact t = .ok m) : r.enumMap t = .ok m := by
  obtain ⟨s, hs, rfl⟩ := hr.answer_of_build hone ht hm
  unfold enumMap
  rw [if_pos henum, hs]

section Answers

variable (henum : r.enumMap t = .ok m) (hm : KeyMap.build .exact t = .ok m)
  (hid : ∀ u ∈ t.chain.tail, u.id ≠ t.id)

include henum hm hid

theorem variantName_eq_ok_iff (hv : t.VariantsApart) {v : Value} {n : Name} :
    r.variantName ⟨t, v⟩ = .ok n ↔ ∃ i, v.variant? t.id = some i ∧ t.Carries i n := by
  rw [← KeyMap.variantName?_eq_some_iff hm hid hv fun _ _ => Iff.rfl]
  simp only [variantName, henum]
  cases m.variantName? v <;> simp

theorem variantName_eq_error_iff (hv : t.VariantsApart) {v : Value} {e : ViewError} :
    r.variantName ⟨t, v⟩ = .error e ↔
      e = .unnamedVariant t.name ∧ ∀ i n, v.variant? t.id = some i → ¬ t.Carries i n := by
  have hok := fun n => variantName_eq_ok_iff henum hm hid hv (v := v) (n := n)
  have herror : (∃ n, r.variantName ⟨t, v⟩ = .ok n) ∨
      r.variantName ⟨t, v⟩ = .error (.unnamedVariant t.name) := by
    simp only [variantName, henum]
    cases m.variantName? v <;> simp
  constructor
  · intro h
    refine ⟨?_, fun i n hi hcarries => ?_⟩
    · rcases herror with ⟨n, hn⟩ | hn
      · rw [h] at hn; cases hn
      · rw [h] at hn; cases hn; rfl
    · have hn := (hok n).2 ⟨i, hi, hcarries⟩
      rw [h] at hn; cases hn
  · rintro ⟨rfl, hnone⟩
    refine herror.resolve_left ?_
    rintro ⟨n, hn⟩
    obtain ⟨i, hi, hcarries⟩ := (hok n).1 hn
    exact hnone i n hi hcarries

theorem parseVariant_eq_some_iff {n : Name} {w : Value} :
    r.parseVariant t n = .ok (some w) ↔ ∃ i, w = .root t.id (.variant i) ∧ t.Carries i n := by
  rw [← KeyMap.variant_of_lookup_iff hm hid]
  simp only [parseVariant, henum, Except.ok.injEq]

theorem parseVariant_eq_none_iff {n : Name} :
    r.parseVariant t n = .ok none ↔ ∀ i, ¬ t.Carries i n := by
  have hsome := fun w => KeyMap.variant_of_lookup_iff hm hid (n := n) (w := w)
  simp only [parseVariant, henum, Except.ok.injEq, Option.eq_none_iff_forall_ne_some, Ne, hsome]
  constructor
  · intro h i hcarries
    exact h _ ⟨i, rfl, hcarries⟩
  · rintro h w ⟨i, -, hcarries⟩
    exact h i hcarries

end Answers

/-- Names of variants and variants of names undo each other, for every enumeration that has a key
map, whatever its bases are and whatever the two registries have been asked before. A variant without
a name is one that no key stands for, and a name without a variant one that no key has. The constant
of a key is an instance without a base; of an instance that holds one, the name gives back the
variant. In which order the keys are gone through, and which keys come from bases, is of no
account. -/
theorem variantName_parseVariant (hone : Layout.OneEach serves) (hr : r.Reached serves)
    {r' : Registry} (hr' : r'.Reached serves) (ht : serves t) (henum : t.isEnum)
    (hv : t.VariantsApart) (hm : KeyMap.build .exact t = .ok m) :
    (∀ v n, v.base? t.id = none → r.variantName ⟨t, v⟩ = .ok n →
      r'.parseVariant t n = .ok (some v)) ∧
    (∀ n v, r'.parseVariant t n = .ok (some v) → r.variantName ⟨t, v⟩ = .ok n) ∧
    (∀ v n, r.variantName ⟨t, v⟩ = .ok n →
      ∃ w, r'.parseVariant t n = .ok (some w) ∧ w.variant? t.id = v.variant? t.id) ∧
    (∀ v e, r.variantName ⟨t, v⟩ = .error e ↔
      e = .unnamedVariant t.name ∧ ∀ i n, v.variant? t.id = some i → ¬ t.Carries i n) ∧
    (∀ n, (∃ answer, r'.parseVariant t n = .ok answer) ∧
      (r'.parseVariant t n = .ok none ↔ ∀ i, ¬ t.Carries i n)) ∧
    r.enumMap t = .ok m ∧
    ∀ rows : Rows Name Entry,
      (∀ p : Name × Entry, p.2.declaring.id = t.id → (p ∈ rows ↔ p ∈ m.filed)) →
      ∀ v, { m with filed := rows }.variantName? v = m.variantName? v := by
  have hid : ∀ u ∈ t.chain.tail, u.id ≠ t.id := fun u hu => hone.id_ne ht hu
  have hmap := enumMap_of_build hone hr ht henum hm
  have hmap' := enumMap_of_build hone hr' ht henum hm
  have hname := fun v n => variantName_eq_ok_iff hmap hm hid hv (v := v) (n := n)
  have hparse := fun n w => parseVariant_eq_some_iff hmap' hm hid (n := n) (w := w)
  refine ⟨?_, ?_, ?_, ?_, ?_, hmap, ?_⟩
  · intro v n hbase hn
    obtain ⟨i, hi, hcarries⟩ := (hname v n).1 hn
    exact (hparse n v).2 ⟨i, Value.eq_root_of_variant? hi hbase, hcarries⟩
  · intro n v hp
    obtain ⟨i, rfl, hcarries⟩ := (hparse n v).1 hp
    exact (hname _ n).2 ⟨i, Value.variant?_root _ i, hcarries⟩
  · intro v n hn
    obtain ⟨i, hi, hcarries⟩ := (hname v n).1 hn
    exact ⟨_, (hparse n _).2 ⟨i, rfl, hcarries⟩, by rw [Value.variant?_root, hi]⟩
  · intro v e
    exact variantName_eq_error_iff hmap hm hid hv
  · intro n
    exact ⟨⟨_, by simp only [parseVariant, hmap']; rfl⟩, parseVariant_eq_none_iff hmap' hm hid⟩
  · intro rows hrows v
    refine Option.ext fun n => ?_
    rw [KeyMap.variantName?_eq_some_iff hm hid hv hrows]
    exact (KeyMap.variantName?_eq_some_iff hm hid hv fun _ _ => Iff.rfl).symm

/-! ## An enumeration with a base -/

/-- An enumeration with the keys of its base, a new name, the null name and a variant that is no
key. -/
def sampleColor : Layout :=
  .embedding ⟨"Color", 2, .enumeration,
      [⟨"Red", none, {}, "Color", .variant 0, []⟩,
        ⟨"Green", some "verde", {}, "Color", .variant 1, []⟩,
        ⟨"Unset", none, { null := true }, "Color", .variant 2, []⟩,
        ⟨"Internal", none, { excluded := true }, "Color", .variant 3, []⟩], []⟩
    "meta"
    (.root ⟨"Meta", 1, .record, [⟨"label", none, {}, "alloc::string::String", .slot 0, []⟩], []⟩)

theorem variantName_parseVariant_color :
    Registry.empty.variantName ⟨sampleColor, .root 2 (.variant 1)⟩ = .ok (some "verde") ∧
    Registry.empty.parseVariant sampleColor (some "verde") = .ok (some (.root 2 (.variant 1))) ∧
    Registry.empty.parseVariant sampleColor none = .ok (some (.root 2 (.variant 2))) ∧
    Registry.empty.variantName ⟨sampleColor, .root 2 (.variant 2)⟩ = .ok none := by
  have hbuild : ∃ m, KeyMap.build .exact sampleColor = .ok m := ⟨_, rfl⟩
  obtain ⟨m, hm⟩ := hbuild
  have hone : Layout.OneEach (· ∈ sampleColor.chain) := .of_chain (by decide)
  obtain ⟨hname, hparse, -⟩ := variantName_parseVariant hone .empty .empty
    (Layout.self_mem_chain _) (by decide) (by decide) hm
  have hgreen : Registry.empty.variantName ⟨sampleColor, .root 2 (.variant 1)⟩ = .ok (some "verde") :=
    rfl
  have hnull : Registry.empty.parseVariant sampleColor none = .ok (some (.root 2 (.variant 2))) :=
    rfl
  exact ⟨hgreen, hname _ _ rfl hgreen, hnull, hparse _ _ hnull⟩

end Registry

end RecordKeys
