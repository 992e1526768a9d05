/-
Where keys have their content. The place of a key is the cell that its member is: the number of
steps to the level that declares it, and the slot there. If the members of each level have slots of
their own, then no two keys of a key map share a place, and the member of a key shares its slot with
no other member of its level, key or not. That is hereditary, so it holds of a key map however it
was come by.
-/
import RecordKeys.Proofs.Registry.Reached
import RecordKeys.Proofs.Value.Cells

namespace RecordKeys

/-- The slot that holds the data of a member, unless it is sealed or a variant. -/
def Member.slot? (m : Member) : Option Nat :=
  match m.access with
  | .slot i => some i
  | _ => none

namespace Layout

/-- No two members that a type declares itself have one slot. -/
def OwnSlotsApart (t : Layout) : Prop := (t.members.filterMap Member.slot?).Nodup

/-- At no level of the chain do two members have one slot. -/
def SlotsApart (t : Layout) : Prop := ∀ u ∈ t.chain, u.OwnSlotsApart

instance (t : Layout) : Decidable t.OwnSlotsApart := inferInstanceAs (Decidable (List.Nodup _))

instance (t : Layout) : Decidable t.SlotsApart := inferInstanceAs (Decidable (∀ u ∈ t.chain, _))

theorem OwnSlotsApart.eq_of_slot {t : Layout} (h : t.OwnSlotsApart) {m m' : Member}
    (hm : m ∈ t.members) (hm' : m' ∈ t.members) {i : Nat} (hi : m.slot? = some i)
    (hi' : m'.slot? = some i) : m = m' := by
  have hpair := List.pairwise_filterMap.1 h
  exact List.Pairwise.forall_of_forall_of_flip
    (R := fun x y => ∀ i, x.slot? = some i → y.slot? = some i → x = y)
    (fun _ _ _ _ _ => rfl)
    (hpair.imp fun hne i hx hy => absurd rfl (hne i hx i hy))
    (hpair.imp fun hne i hy hx => absurd rfl (hne i hx i hy)) hm hm' i hi hi'

theorem SlotsApart.own {t : Layout} (h : t.SlotsApart) : t.OwnSlotsApart := h t t.self_mem_chain

theorem SlotsApart.base {t b : Layout} (h : t.SlotsApart) (hb : t.base? = some b) :
    b.SlotsApart := by
  cases t with
  | root l => cases hb
  | embedding l field base => cases hb; exact fun u hu => h u (List.mem_cons_of_mem _ hu)

end Layout

/-! ## Places -/

namespace Entry

/-- The cell that the member of a key is. -/
def place? (e : Entry) : Option (Nat × Nat) := e.member.slot?.map fun i => (e.path.length, i)

/-- Whether an instance has the levels that the path of a key names. -/
def reached (e : Entry) (v : Value) : Bool := v.reaches e.declaring.id e.path

theorem place?_eq_some_iff {e : Entry} {n i : Nat} :
    e.place? = some (n, i) ↔ e.path.length = n ∧ e.member.slot? = some i := by
  unfold place?
  cases e.member.slot? <;> simp

theorem place?_inherit (link : Link) (e : Entry) :
    (e.inherit link).place? = e.place?.map fun p => (p.1 + 1, p.2) := by
  unfold place? inherit
  cases e.member.slot? <;> rfl

theorem get_eq (e : Entry) (v : Value) :
    e.get v = if e.reached v then e.place?.bind fun p => v.cell? p.1 p.2 else none := by
  unfold get place? Member.slot? reached
  cases e.member.access with
  | slot i => exact Value.follow_slot?_eq ..
  | sealed => simp
  | variant i => simp

/-- A revision of a key is a read and a write of its place. -/
theorem revise_eq_some_iff {α : Type} {f : Datum → Option (α × Datum)} {e : Entry} {v v' : Value}
    {a : α} :
    e.revise f v = some (a, v') ↔
      ∃ n i old new, e.place? = some (n, i) ∧ e.get v = some old ∧ f old = some (a, new) ∧
        v' = v.write new n i := by
  have hget := e.get_eq v
  unfold revise
  unfold place? Member.slot? reached at *
  cases ha : e.member.access with
  | sealed => simp
  | variant i => simp
  | slot i =>
    simp only [ha, Option.map_some, Option.bind_some] at hget
    simp only [Value.reviseAlong_eq, hget, Option.map_some, Option.some.injEq, Prod.mk.injEq]
    split
    · constructor
      · intro h
        obtain ⟨old, hold, h⟩ := Option.bind_eq_some_iff.1 h
        obtain ⟨⟨a', new⟩, hf, h⟩ := Option.map_eq_some_iff.1 h
        cases h
        exact ⟨_, i, old, new, ⟨rfl, rfl⟩, hold, hf, rfl⟩
      · rintro ⟨n, j, old, new, ⟨rfl, rfl⟩, hold, hf, rfl⟩
        simp only [hold, Option.bind_some, hf, Option.map_some]
    · simp

theorem get_write_self {e : Entry} {n i : Nat} (hp : e.place? = some (n, i)) {v : Value}
    {old : Datum} (h : e.get v = some old) (d : Datum) : e.get (v.write d n i) = some d := by
  rw [get_eq, hp] at h ⊢
  split at h
  · rename_i hr
    have hr' : e.reached (v.write d n i) = true := by rw [reached, Value.reaches_write]; exact hr
    rw [if_pos hr']
    exact Value.cell?_write_self h d
  · cases h

theorem get_write_of_ne {e : Entry} {n i : Nat} (hp : e.place? ≠ some (n, i)) (v : Value)
    (d : Datum) : e.get (v.write d n i) = e.get v := by
  rw [get_eq, get_eq, reached, reached, Value.reaches_write]
  cases he : e.place? with
  | none => rfl
  | some p =>
    have hne : (n, i) ≠ (p.1, p.2) := fun h => hp (by rw [he, h])
    simp only [Option.bind_some, Value.cell?_write_of_ne hne]

/-- A member that has a content has a place. -/
theorem place?_of_get {e : Entry} {v : Value} {old : Datum} (h : e.get v = some old) :
    ∃ n i, e.place? = some (n, i) := by
  rw [get_eq] at h
  split at h
  · obtain ⟨⟨n, i⟩, hp, -⟩ := Option.bind_eq_some_iff.1 h
    exact ⟨n, i, hp⟩
  · cases h

theorem cell?_of_get {e : Entry} {n i : Nat} (hp : e.place? = some (n, i)) {v : Value}
    {old : Datum} (h : e.get v = some old) : v.cell? n i = some old := by
  rw [get_eq, hp] at h
  split at h
  · exact h
  · cases h

/-- The path that is taken to write leads to the place that is read. -/
theorem revise_of_get {α : Type} {f : Datum → Option (α × Datum)} {e : Entry} {v : Value}
    {old : Datum} {n i : Nat} (hp : e.place? = some (n, i)) (hget : e.get v = some old) :
    e.revise f v = (f old).map fun (a, new) => (a, v.write new n i) := by
  refine Option.ext fun ⟨a, v'⟩ => ?_
  rw [revise_eq_some_iff, Option.map_eq_some_iff]
  constructor
  · rintro ⟨n', i', old', new, hp', hget', hf, rfl⟩
    cases hp.symm.trans hp'
    cases hget.symm.trans hget'
    exact ⟨(a, new), hf, rfl⟩
  · rintro ⟨⟨a', new⟩, hf, he⟩
    cases he
    exact ⟨n, i, old, new, hp, hget, hf, rfl⟩

theorem revise_of_get_eq_none {α : Type} {f : Datum → Option (α × Datum)} {e : Entry} {v : Value}
    (h : e.get v = none) : e.revise f v = none := by
  rw [Option.eq_none_iff_forall_ne_some]
  rintro ⟨a, v'⟩ hr
  obtain ⟨-, -, old, -, -, hget, -, -⟩ := revise_eq_some_iff.1 hr
  rw [h] at hget
  cases hget

end Entry

/-! ## Keys in places of their own -/

/-- An index whose keys have places of their own, and whose members have slots of their own at the
levels that declare them. -/
structure Index.Apart (x : Index) : Prop where
  wf : x.WF
  apart : ∀ p ∈ x.filed, ∀ q ∈ x.filed, ∀ place,
    p.2.place? = some place → q.2.place? = some place → p = q
  declared : ∀ p ∈ x.filed, p.2.member ∈ p.2.declaring.members ∧ p.2.declaring.OwnSlotsApart

theorem Index.empty_apart : Index.empty.Apart where
  wf := Index.empty_wf
  apart _ hp := absurd hp List.not_mem_nil
  declared _ hp := absurd hp List.not_mem_nil

namespace KeyMap

variable {t : Layout} {casing : Casing}

theorem seed_apart {base : KeyMap} (h : base.toIndex.Apart) (link : Link) :
    (seed link base).Apart where
  wf := seed_wf h.wf link
  apart p hp q hq place hpp hqp := by
    rw [filed_seed h.wf.nodup] at hp hq
    obtain ⟨p', hp', rfl⟩ := List.mem_map.1 hp
    obtain ⟨q', hq', rfl⟩ := List.mem_map.1 hq
    simp only [through, Entry.place?_inherit, Option.map_eq_some_iff] at hpp hqp
    obtain ⟨⟨n, i⟩, hpp, rfl⟩ := hpp
    obtain ⟨⟨k, j⟩, hqp, he⟩ := hqp
    cases he
    rw [h.apart p' hp' q' hq' _ hpp hqp]
  declared p hp := by
    rw [filed_seed h.wf.nodup] at hp
    obtain ⟨p', hp', rfl⟩ := List.mem_map.1 hp
    exact h.declared p' hp'

/-- What a type inherits has places of its own, all of them further up. -/
theorem inherited_apart {base : Option KeyMap} (h : ∀ b, base = some b → b.toIndex.Apart) :
    (inherited t base).Apart ∧ ∀ p ∈ (inherited t base).filed, 0 < p.2.path.length := by
  unfold inherited
  cases t.link? with
  | none => exact ⟨Index.empty_apart, fun _ hp => absurd hp List.not_mem_nil⟩
  | some link =>
    cases base with
    | none => exact ⟨Index.empty_apart, fun _ hp => absurd hp List.not_mem_nil⟩
    | some b =>
      have hb := h b rfl
      refine ⟨seed_apart hb link, fun p hp => ?_⟩
      rw [filed_seed hb.wf.nodup] at hp
      obtain ⟨p, -, rfl⟩ := List.mem_map.1 hp
      exact Nat.succ_pos _

theorem mem_ownRows {members : List Member} {p : Name × Entry} :
    p ∈ ownRows t casing members ↔
      ∃ m ∈ members, m.isKey ∧ p = (casing.key m.wireName, ⟨m, t, []⟩) := by
  simp only [ownRows, Entry.ofMember?, List.mem_map, List.mem_filterMap]
  constructor
  · rintro ⟨e, ⟨m, hm, he⟩, rfl⟩
    split at he
    · rename_i hk; cases he; exact ⟨m, hm, hk, rfl⟩
    · cases he
  · rintro ⟨m, hm, hk, rfl⟩
    exact ⟨_, ⟨m, hm, if_pos hk⟩, rfl⟩

/-- A type whose own members have slots of their own adds its keys in places of their own: they are
at the level itself, and what it inherits is not. -/
theorem complete_apart (ht : t.OwnSlotsApart) {base : Option KeyMap} {m : KeyMap}
    (hbase : ∀ b, base = some b → b.toIndex.Apart) (h : complete t casing base = .ok m) :
    m.toIndex.Apart := by
  obtain ⟨-, -, he⟩ := complete_eq_ok_iff.1 h
  obtain ⟨hx, hup⟩ := inherited_apart (t := t) hbase
  obtain ⟨hfiled, hwf⟩ := enrol_spec hx.wf he
  -- own keys are at the level itself, inherited ones further up
  have hcross : ∀ p ∈ (inherited t base).filed, ∀ q ∈ ownRows t casing t.members, ∀ place,
      p.2.place? = some place → q.2.place? = some place → False := by
    rintro p hp q hq ⟨n, i⟩ hpp hqp
    obtain ⟨x, -, -, rfl⟩ := mem_ownRows.1 hq
    have hn := hup p hp
    rw [(Entry.place?_eq_some_iff.1 hpp).1, ← (Entry.place?_eq_some_iff.1 hqp).1] at hn
    exact Nat.lt_irrefl 0 hn
  refine ⟨hwf, fun p hp q hq place hpp hqp => ?_, fun p hp => ?_⟩
  · rw [hfiled] at hp hq
    rcases List.mem_append.1 hp with hp | hp <;> rcases List.mem_append.1 hq with hq | hq
    · exact hx.apart p hp q hq place hpp hqp
    · exact (hcross p hp q hq place hpp hqp).elim
    · exact (hcross q hq p hp place hqp hpp).elim
    · obtain ⟨x, hxm, -, rfl⟩ := mem_ownRows.1 hp
      obtain ⟨y, hym, -, rfl⟩ := mem_ownRows.1 hq
      obtain ⟨n, i⟩ := place
      rw [ht.eq_of_slot hxm hym (Entry.place?_eq_some_iff.1 hpp).2
        (Entry.place?_eq_some_iff.1 hqp).2]
  · rw [hfiled] at hp
    rcases List.mem_append.1 hp with hp | hp
    · exact hx.declared p hp
    · obtain ⟨x, hxm, -, rfl⟩ := mem_ownRows.1 hp
      exact ⟨hxm, ht⟩

/-- That the keys of a key map have places of their own is hereditary. -/
theorem apart_hereditary :
    Hereditary Layout.SlotsApart fun _ a => ∀ m, a = .ok m → m.toIndex.Apart where
  base ht hb := ht.base hb
  refused _ _ _ h := by cases h
  failed _ _ _ _ _ h := by cases h
  alone ht _ _ _ h := complete_apart ht.own (fun _ hb => by cases hb) h
  completed ht _ _ hb _ h := complete_apart ht.own (fun b he => hb b (by cases he; rfl)) h
  shared _ _ _ h := h

/-! ## Key maps however they were come by -/

/-- The key maps of layouts whose members have slots of their own: those that are built, those that
a request to a shared registry returns in a run, and those that a registry answers with. -/
inductive Obtained : KeyMap → Prop
  | built {t : Layout} {casing : Casing} {m : KeyMap} (apart : t.SlotsApart)
    (build : build casing t = .ok m) : Obtained m
  | returned {requests : List (List Request)} {schedule : List Nat} {q : Request} {s : Shared}
    (apart : ∀ todo ∈ requests, ∀ q ∈ todo, q.layout.SlotsApart)
    (returned : (q, .ok s) ∈ ((Machine.start .empty requests).run schedule).returned) :
    Obtained s.map
  | answered {r : Registry} {t : Layout} {casing : Casing} {s : Shared}
    (reached : r.Reached Layout.SlotsApart) (apart : t.SlotsApart)
    (answer : (r.resolve casing t).answer = .ok s) : Obtained s.map

/-- The keys of a key map have places of their own, however it was come by. -/
theorem Obtained.apart {m : KeyMap} (h : Obtained m) : m.toIndex.Apart := by
  cases h with
  | built apart hbuild => exact apart_hereditary.build _ apart m hbuild
  | returned apart hret => exact Machine.run_returned apart_hereditary apart hret _ rfl
  | @answered r t casing s reached apart hanswer =>
    have hholds := reached.answer apart_hereditary apart casing
    rw [hanswer] at hholds
    exact hholds _ rfl

end KeyMap

end RecordKeys
