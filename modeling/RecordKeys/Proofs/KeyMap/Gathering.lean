/-
How the keys of one type are gathered. An index is well-formed when its two halves agree: no name
is filed twice, and the names listed, in their order, are those that something is filed under.
Seeding from a base and adding members keep it so, and what is filed is a plain list: the rows of
the base, seen through the step to it, and behind them the rows of the type's own members.
-/
import RecordKeys.KeyMap.Build
import RecordKeys.Proofs.Name.Order
import Mathlib.Data.List.Nodup

namespace RecordKeys

/-- The two halves of an index agree. -/
structure Index.WF (x : Index) : Prop where
  nodup : x.filed.keys.Nodup
  increasing : Name.Increasing x.names
  mem_names : ∀ n, n ∈ x.names ↔ n ∈ x.filed.keys

theorem Index.empty_wf : Index.empty.WF :=
  ⟨List.nodup_nil, List.Pairwise.nil, fun _ => Iff.rfl⟩

theorem Index.WF.add {x : Index} (h : x.WF) (key : Name) (e : Entry) : (x.add key e).WF where
  nodup := Rows.nodup_keys_put key e h.nodup
  increasing := Name.increasing_insert key h.increasing
  mem_names n := by
    show n ∈ Name.insert key x.names ↔ n ∈ (x.filed.put key e).keys
    rw [Name.mem_insert, Rows.mem_keys_put, h.mem_names]

namespace KeyMap

/-- A row seen through a step from a type to its base. -/
def through (link : Link) (p : Name × Entry) : Name × Entry := (p.1, p.2.inherit link)

/-- The rows of the members that are keys. -/
def ownRows (t : Layout) (casing : Casing) (members : List Member) : Rows Name Entry :=
  (members.filterMap (Entry.ofMember? t)).map fun e => (casing.key e.name, e)

/-! ## Seeding -/

theorem keys_map_through (link : Link) (rows : Rows Name Entry) :
    Rows.keys (rows.map (through link)) = rows.keys := by
  simp [Rows.keys, through]

theorem filed_seed {base : KeyMap} (h : base.filed.keys.Nodup) (link : Link) :
    (seed link base).filed = base.filed.map (through link) := by
  show base.filed.foldl (fun filed p => Rows.put p.1 (p.2.inherit link) filed) [] = _
  rw [Rows.foldl_put_eq_append (·.inherit link) base.filed (by simpa using h)]
  rfl

theorem seed_wf {base : KeyMap} (h : base.toIndex.WF) (link : Link) : (seed link base).WF where
  nodup := by rw [filed_seed h.nodup, keys_map_through]; exact h.nodup
  increasing := Name.increasing_insertAll base.names List.Pairwise.nil
  mem_names n := by
    rw [filed_seed h.nodup, keys_map_through]
    show n ∈ Name.insertAll base.names [] ↔ _
    rw [Name.mem_insertAll, h.mem_names]
    simp

/-! ## Own members -/

variable {t : Layout} {casing : Casing}

theorem ownRows_cons_of_not_key {m : Member} (h : Entry.ofMember? t m = none) (rest : List Member) :
    ownRows t casing (m :: rest) = ownRows t casing rest := by
  simp [ownRows, h]

theorem ownRows_cons_of_key {m : Member} {own : Entry} (h : Entry.ofMember? t m = some own)
    (rest : List Member) :
    ownRows t casing (m :: rest) = (casing.key own.name, own) :: ownRows t casing rest := by
  simp [ownRows, h]

/-- Members that are added come behind what is there, and the index stays well-formed. -/
theorem enrol_spec {members : List Member} {x y : Index} (hx : x.WF)
    (h : enrol t casing members x = .ok y) :
    y.filed = x.filed ++ ownRows t casing members ∧ y.WF := by
  induction members generalizing x with
  | nil => cases h; simp [ownRows, hx]
  | cons m rest ih =>
    unfold enrol at h
    cases hm : Entry.ofMember? t m with
    | none =>
      rw [hm] at h
      rw [ownRows_cons_of_not_key hm]
      exact ih hx h
    | some own =>
      rw [hm] at h
      simp only at h
      cases hf : x.filed.get? (casing.key own.name) with
      | some earlier => rw [hf] at h; cases h
      | none =>
        rw [hf] at h
        obtain ⟨hy, hwf⟩ := ih (hx.add _ own) h
        have hput : (x.add (casing.key own.name) own).filed = x.filed ++ [(casing.key own.name, own)] :=
          Rows.put_of_not_mem (Rows.get?_eq_none_iff.1 hf) own
        refine ⟨?_, hwf⟩
        rw [hy, hput, ownRows_cons_of_key hm, List.append_assoc, List.singleton_append]

/-- Adding members fails exactly when a name would be filed twice. -/
theorem enrol_isOk_iff {members : List Member} {x : Index} (hx : x.WF) :
    (∃ y, enrol t casing members x = .ok y) ↔
      (x.filed.keys ++ (ownRows t casing members).keys).Nodup := by
  constructor
  · rintro ⟨y, h⟩
    obtain ⟨hy, hwf⟩ := enrol_spec hx h
    rw [← Rows.keys_append, ← hy]
    exact hwf.nodup
  · intro hnd
    induction members generalizing x with
    | nil => exact ⟨x, rfl⟩
    | cons m rest ih =>
      unfold enrol
      cases hm : Entry.ofMember? t m with
      | none =>
        rw [ownRows_cons_of_not_key hm] at hnd
        exact ih hx hnd
      | some own =>
        rw [ownRows_cons_of_key hm, Rows.keys_cons] at hnd
        have hnot : casing.key own.name ∉ x.filed.keys := fun hmem =>
          (List.nodup_append.1 hnd).2.2 _ hmem _ List.mem_cons_self rfl
        simp only [Rows.get?_eq_none_iff.2 hnot]
        have hput : (x.add (casing.key own.name) own).filed = x.filed ++ [(casing.key own.name, own)] :=
          Rows.put_of_not_mem hnot own
        -- the key moves from the members to the rows, and the list of all keys stays the same
        refine ih (hx.add _ own) ?_
        rw [hput, Rows.keys_append, List.append_assoc]
        exact hnd

/-! ## Completing -/

theorem inherited_embedding (l : Level) (field : String) (base : Layout) (m : KeyMap) :
    inherited (.embedding l field base) (some m) = seed ⟨l.id, field⟩ m := rfl

theorem complete_eq_ok_iff {base : Option KeyMap} {m : KeyMap} :
    complete t casing base = .ok m ↔
      m.layout = t ∧ m.casing = casing ∧
        enrol t casing t.members (inherited t base) = .ok m.toIndex := by
  unfold complete
  cases enrol t casing t.members (inherited t base) with
  | error f => simp [Except.map]
  | ok x =>
    rcases m with ⟨i, l, c⟩
    simp only [Except.map, Except.ok.injEq, KeyMap.mk.injEq]
    constructor
    · rintro ⟨rfl, rfl, rfl⟩; exact ⟨rfl, rfl, rfl⟩
    · rintro ⟨rfl, rfl, rfl⟩; exact ⟨rfl, rfl, rfl⟩

theorem complete_isOk_iff {base : Option KeyMap} :
    (∃ m, complete t casing base = .ok m) ↔
      ∃ x, enrol t casing t.members (inherited t base) = .ok x := by
  constructor
  · rintro ⟨m, h⟩; exact ⟨_, (complete_eq_ok_iff.1 h).2.2⟩
  · rintro ⟨x, h⟩; exact ⟨⟨x, t, casing⟩, complete_eq_ok_iff.2 ⟨rfl, rfl, h⟩⟩

theorem inherited_wf {base : Option KeyMap} (h : ∀ b, base = some b → b.toIndex.WF) :
    (inherited t base).WF := by
  unfold inherited
  cases t.link? with
  | none => exact Index.empty_wf
  | some link =>
    cases base with
    | none => exact Index.empty_wf
    | some b => exact seed_wf (h b rfl) link

theorem complete_wf {base : Option KeyMap} (hbase : ∀ b, base = some b → b.toIndex.WF) {m : KeyMap}
    (h : complete t casing base = .ok m) : m.toIndex.WF :=
  (enrol_spec (inherited_wf hbase) (complete_eq_ok_iff.1 h).2.2).2

/-! ## Builds by way of the base -/

variable {b : Layout}

theorem build_of_refused {fault : Fault} (h : t.refusal? casing = some fault) :
    build casing t = .error fault := by
  cases t <;> simp only [build, h]

theorem build_of_alone (h : t.refusal? casing = none) (hb : t.base? = none) :
    build casing t = complete t casing none := by
  cases t with
  | root l => simp only [build, h]
  | embedding l field base => cases hb

theorem build_of_failed (h : t.refusal? casing = none) (hb : t.base? = some b) {fault : Fault}
    (hfault : build casing b = .error fault) : build casing t = .error fault := by
  cases t with
  | root l => cases hb
  | embedding l field base => cases hb; simp only [build, h, hfault]

theorem build_of_built (h : t.refusal? casing = none) (hb : t.base? = some b) {m : KeyMap}
    (hm : build casing b = .ok m) : build casing t = complete t casing (some m) := by
  cases t with
  | root l => cases hb
  | embedding l field base => cases hb; simp only [build, h, hm]

theorem complete_of_build_root {l : Level} {m : KeyMap} (h : build casing (.root l) = .ok m) :
    (Layout.root l).refusal? casing = none ∧ complete (.root l) casing none = .ok m := by
  cases hr : (Layout.root l).refusal? casing with
  | some fault => rw [build_of_refused hr] at h; cases h
  | none => rw [build_of_alone hr rfl] at h; exact ⟨rfl, h⟩

theorem complete_of_build_embedding {l : Level} {field : String} {base : Layout} {m : KeyMap}
    (h : build casing (.embedding l field base) = .ok m) :
    (Layout.embedding l field base).refusal? casing = none ∧
      ∃ b, build casing base = .ok b ∧
        complete (.embedding l field base) casing (some b) = .ok m := by
  cases hr : (Layout.embedding l field base).refusal? casing with
  | some fault => rw [build_of_refused hr] at h; cases h
  | none =>
    cases hb : build casing base with
    | error fault => rw [build_of_failed hr rfl hb] at h; cases h
    | ok b => rw [build_of_built hr rfl hb] at h; exact ⟨rfl, b, rfl, h⟩

end KeyMap

end RecordKeys
