/-
Key maps that are in one casing throughout. Every key is filed under the normal form of its own
name, so a name that is listed is its own normal form, and the keys stand in the order of the names.
That is hereditary: it holds of every key map whose bases were asked for in its own casing, whether
they were built or came out of a shared registry.
-/
import RecordKeys.Proofs.Name.Normal
import RecordKeys.Proofs.Registry.Reached

namespace RecordKeys

/-! ## Lists of names -/

/-- The null name stands before all others, if it is there. -/
theorem Name.Increasing.eq_append {names : List Name} (h : Increasing names) :
    names = List.replicate (names.count none) none ++ (names.filterMap id).map some := by
  have hothers : ∀ l : List Name, none ∉ l → l = (l.filterMap id).map some := by
    intro l hl
    induction l with
    | nil => rfl
    | cons n l ih =>
      cases n with
      | none => exact absurd List.mem_cons_self hl
      | some a => exact congrArg (some a :: ·) (ih fun hm => hl (List.mem_cons_of_mem _ hm))
  cases names with
  | nil => rfl
  | cons n rest =>
    have hrest : none ∉ rest := fun hm => by
      -- nothing precedes the null name
      have hn := (List.pairwise_cons.1 h).1 none hm
      cases n <;> exact hn
    have hcount : rest.count none = 0 := List.count_eq_zero.2 hrest
    cases n with
    | none =>
      rw [List.count_cons_self, hcount]
      exact congrArg (none :: ·) (hothers rest hrest)
    | some a =>
      rw [List.count_cons_of_ne (by simp), hcount]
      exact hothers _ (by simpa using hrest)

namespace KeyMap

/-- The keys stand in the order of the names, one for each. -/
theorem map_some_fields {m : KeyMap} (h : m.toIndex.WF) : m.fields.map some = m.names.map m.find? := by
  rw [fields, List.map_filterMap, ← List.filterMap_eq_map]
  refine List.filterMap_congr fun n hn => ?_
  have hfiled := (h.mem_names n).1 hn
  obtain ⟨e, he⟩ := Option.isSome_iff_exists.1 (Rows.isSome_get?_iff.2 hfiled)
  show (m.filed.get? n).map some = some (m.filed.get? n)
  rw [he]; rfl

theorem mem_keys_iff {m : KeyMap} (h : m.toIndex.WF) {name : String} :
    name ∈ m.keys ↔ (m.find? (some name)).isSome := by
  unfold keys find?
  rw [List.mem_filterMap, Rows.isSome_get?_iff, ← h.mem_names]
  simp

/-- The keys are listed in the order of names. -/
theorem increasing_keys {m : KeyMap} (h : m.toIndex.WF) :
    Name.Increasing (m.keys.map some) := by
  unfold keys Name.Increasing
  rw [List.pairwise_map, List.pairwise_filterMap]
  exact h.increasing.imp fun hab a ha b hb => by cases ha; cases hb; exact hab

/-- The names that are not null stand behind the null name, if it is there. -/
theorem names_getElem? {m : KeyMap} (h : m.toIndex.WF) (i : Nat) :
    m.names[m.names.count none + i]? = m.keys[i]?.map some := by
  have hsplit : ∀ k, m.names = List.replicate k none ++ m.keys.map some →
      m.names[k + i]? = m.keys[i]?.map some := by
    intro k hk
    rw [hk, List.getElem?_append_right (by simp), List.length_replicate, Nat.add_sub_cancel_left,
      List.getElem?_map]
  exact hsplit _ h.increasing.eq_append

/-! ## One casing throughout -/

/-- A key map in one casing throughout: every key is filed under the normal form of its name. -/
structure Uniform (casing : Casing) (m : KeyMap) : Prop where
  wf : m.toIndex.WF
  casing_eq : m.casing = casing
  filed_under : ∀ p ∈ m.filed, p.1 = casing.key p.2.name

section Uniform

variable {t : Layout} {casing : Casing} {m : KeyMap}

/-- A type whose inherited keys are filed under the normal forms of their names adds its own keys in
the same way. -/
theorem complete_uniform {base : Option KeyMap} (hbase : ∀ b, base = some b → b.Uniform casing)
    (h : complete t casing base = .ok m) : m.Uniform casing := by
  obtain ⟨-, hcasing, henrol⟩ := complete_eq_ok_iff.1 h
  have hwf : (inherited t base).WF := inherited_wf fun b hb => (hbase b hb).wf
  have hinherited : ∀ p ∈ (inherited t base).filed, p.1 = casing.key p.2.name := by
    unfold inherited
    cases t.link? with
    | none => nofun
    | some link =>
      cases base with
      | none => nofun
      | some b =>
        have hb := hbase b rfl
        intro p hp
        rw [filed_seed hb.wf.nodup] at hp
        obtain ⟨q, hq, rfl⟩ := List.mem_map.1 hp
        exact hb.filed_under q hq
  obtain ⟨hfiled, hm⟩ := enrol_spec hwf henrol
  refine ⟨hm, hcasing, fun p hp => ?_⟩
  rw [hfiled] at hp
  rcases List.mem_append.1 hp with hp | hp
  · exact hinherited p hp
  · obtain ⟨e, -, rfl⟩ := List.mem_map.1 hp
    rfl

theorem uniform_hereditary :
    Hereditary (fun _ => True) fun q a => ∀ m, a = .ok m → m.Uniform q.casing where
  base _ _ := trivial
  refused _ _ _ h := by cases h
  failed _ _ _ _ _ h := by cases h
  alone _ _ _ _ h := complete_uniform (fun _ hb => by cases hb) h
  completed _ _ _ hb _ h := complete_uniform (fun b he => hb b (by cases he; rfl)) h
  shared _ _ _ h := h

/-- A name that is listed is its own normal form. -/
theorem Uniform.key_eq (h : m.Uniform casing) {n : Name} (hn : n ∈ m.names) : casing.key n = n := by
  obtain ⟨p, hp, rfl⟩ := List.mem_map.1 ((h.wf.mem_names n).1 hn)
  rw [h.filed_under p hp, Casing.key_key]

theorem Uniform.normal_of_mem_keys (h : m.Uniform casing) {k : String} (hk : k ∈ m.keys) :
    casing.normal k = k := by
  have hlisted : some k ∈ m.names := by simpa [keys] using hk
  exact Option.some.inj (h.key_eq hlisted)

theorem Uniform.mem_fields_iff (h : m.Uniform casing) {e : Entry} :
    e ∈ m.fields ↔ (casing.key e.name, e) ∈ m.filed := by
  rw [fields, List.mem_filterMap]
  constructor
  · rintro ⟨n, -, he⟩
    have hrow := Rows.mem_of_get? he
    exact h.filed_under _ hrow ▸ hrow
  · intro hrow
    refine ⟨casing.key e.name, ?_, (Rows.get?_eq_some_iff h.wf.nodup).2 hrow⟩
    rw [h.wf.mem_names]
    exact List.mem_map_of_mem (f := Prod.fst) hrow

/-- A name is looked up to the key whose name has the same normal form. -/
theorem Uniform.lookup_eq_some_iff (h : m.Uniform casing) {n : Name} {e : Entry} :
    m.lookup n = some e ↔ e ∈ m.fields ∧ casing.key e.name = casing.key n := by
  rw [h.mem_fields_iff, lookup, find?, h.casing_eq, Rows.get?_eq_some_iff h.wf.nodup]
  constructor
  · intro hrow
    have hkey : casing.key n = casing.key e.name := h.filed_under _ hrow
    exact ⟨hkey ▸ hrow, hkey.symm⟩
  · rintro ⟨hrow, hkey⟩
    exact hkey ▸ hrow

theorem Uniform.lookup_eq_none_iff (h : m.Uniform casing) {n : Name} :
    m.lookup n = none ↔ ∀ e ∈ m.fields, casing.key e.name ≠ casing.key n := by
  rw [Option.eq_none_iff_forall_ne_some]
  constructor
  · intro hnone e he hkey
    exact hnone e (h.lookup_eq_some_iff.2 ⟨he, hkey⟩)
  · intro hnone e hlookup
    obtain ⟨he, hkey⟩ := h.lookup_eq_some_iff.1 hlookup
    exact hnone e he hkey

theorem Uniform.field?_eq (h : m.Uniform casing) (name : String) :
    m.field? name = m.find? (some (casing.normal name)) := by
  rw [field?, lookup, h.casing_eq, Casing.key_some]

/-- A name that is listed is looked up as it is. -/
theorem Uniform.field?_eq_find? (h : m.Uniform casing) {k : String} (hk : k ∈ m.keys) :
    m.field? k = m.find? (some k) := by
  rw [h.field?_eq, h.normal_of_mem_keys hk]

/-- Under a name that is listed, and is not null, there is a key whose name has that normal form. -/
theorem Uniform.field?_of_mem_keys (h : m.Uniform casing) {k : String} (hk : k ∈ m.keys) :
    ∃ e name, m.field? k = some e ∧ e.name = some name ∧ casing.normal name = k := by
  obtain ⟨e, he⟩ := Option.isSome_iff_exists.1 ((mem_keys_iff h.wf).1 hk)
  have hkey : some k = casing.key e.name := h.filed_under _ (Rows.mem_of_get? he)
  cases hname : e.name with
  | none => rw [hname] at hkey; cases hkey
  | some name =>
    rw [hname] at hkey
    refine ⟨e, name, ?_, hname, (Option.some.inj hkey).symm⟩
    rw [h.field?_eq_find? hk, he]

/-- The key at the position of a name is the one that the name is looked up to. -/
theorem Uniform.fields_getElem? (h : m.Uniform casing) {i : Nat} {n : Name}
    (hn : m.names[i]? = some n) : ∃ e, m.lookup n = some e ∧ m.fields[i]? = some e := by
  have hfields : (m.fields.map some)[i]? = (m.names.map m.find?)[i]? := by rw [map_some_fields h.wf]
  rw [List.getElem?_map, List.getElem?_map, hn, Option.map_some] at hfields
  obtain ⟨e, he, hsome⟩ := Option.map_eq_some_iff.1 hfields
  refine ⟨e, ?_, he⟩
  rw [lookup, h.casing_eq, h.key_eq (List.mem_of_getElem? hn), ← hsome]

end Uniform

/-! ## Key maps whose bases were asked for in the same casing -/

/-- The key maps that a request for a type comes to: the one that is built, those that a shared
registry returns in a run of threads, and those that a registry answers with afterwards. -/
inductive Resolved (t : Layout) (casing : Casing) : KeyMap → Prop
  | built {m : KeyMap} (build : build casing t = .ok m) : Resolved t casing m
  | returned {requests : List (List Request)} {schedule : List Nat} {s : Shared}
    (returned : (⟨t, casing⟩, .ok s) ∈ ((Machine.start .empty requests).run schedule).returned) :
    Resolved t casing s.map
  | answered {r : Registry} {s : Shared} (reached : r.Reached fun _ => True)
    (answer : (r.resolve casing t).answer = .ok s) : Resolved t casing s.map

variable {t : Layout} {casing : Casing} {m : KeyMap}

/-- What is hereditary holds of every key map that a request comes to. -/
theorem Resolved.holds {holds : Request → Except Fault KeyMap → Prop}
    (h : Hereditary (fun _ => True) holds) (hm : Resolved t casing m) :
    holds ⟨t, casing⟩ (.ok m) := by
  cases hm with
  | built hbuild => exact hbuild ▸ h.build casing trivial
  | returned hret =>
    exact Machine.run_returned h (fun _ _ _ _ => trivial) hret
  | answered hr hanswer =>
    have hholds := hr.answer h (t := t) trivial casing
    rwa [hanswer] at hholds

theorem Resolved.uniform (hm : Resolved t casing m) : m.Uniform casing :=
  hm.holds uniform_hereditary m rfl

end KeyMap

end RecordKeys
