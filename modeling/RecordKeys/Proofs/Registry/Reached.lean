/-
Registries as they come about: threads ask for layouts in any order of their steps, and single
requests may follow. What is hereditary holds of all that such a registry stores and answers. In
particular, if every identity belongs to one layout, then a registry answers with exactly the
outcome of a build, whatever it has been asked before.
-/
import RecordKeys.Proofs.Layout.Listing
import RecordKeys.Proofs.Registry.Alone

namespace RecordKeys

/-! ## One layout for each identity -/

/-- Layouts of which no two have one identity, together with all their bases. -/
structure Layout.OneEach (serves : Layout → Prop) : Prop where
  base : ∀ {t b}, serves t → t.base? = some b → serves b
  eq_of_id : ∀ {t u}, serves t → serves u → t.id = u.id → t = u

namespace Layout

/-- The levels of one chain, if no two have one identity. -/
theorem OneEach.of_chain {t : Layout} (h : ∀ u ∈ t.chain, ∀ w ∈ t.chain, u.id = w.id → u = w) :
    OneEach (· ∈ t.chain) where
  base hu hb := base_mem_chain hu hb
  eq_of_id hu hw hid := h _ hu _ hw hid

theorem OneEach.chain {serves : Layout → Prop} (h : OneEach serves) {t u : Layout} (ht : serves t)
    (hu : u ∈ t.chain) : serves u := by
  induction t with
  | root l =>
    rw [chain_root, List.mem_singleton] at hu
    exact hu ▸ ht
  | embedding l field base ih =>
    rcases List.mem_cons.1 hu with rfl | hu
    · exact ht
    · exact ih (h.base ht rfl) hu

theorem length_chain_le {t u : Layout} (hu : u ∈ t.chain) : u.chain.length ≤ t.chain.length := by
  induction t with
  | root l =>
    rw [chain_root, List.mem_singleton] at hu
    rw [hu]
  | embedding l field base ih =>
    rcases List.mem_cons.1 hu with rfl | hu
    · exact Nat.le_refl _
    · exact Nat.le_succ_of_le (ih hu)

/-- A type has another identity than each of its bases. -/
theorem OneEach.id_ne {serves : Layout → Prop} (h : OneEach serves) {t u : Layout} (ht : serves t)
    (hu : u ∈ t.chain.tail) : u.id ≠ t.id := by
  intro hid
  have hsame : u = t := h.eq_of_id (h.chain ht (List.mem_of_mem_tail hu)) ht hid
  cases t with
  | root l => cases hu
  | embedding l field base =>
    have hle := length_chain_le (t := base) hu
    rw [hsame, chain_embedding, List.length_cons] at hle
    omega

/-- With one layout for each identity, that an answer is the one of a build is hereditary. -/
theorem OneEach.build_hereditary {serves : Layout → Prop} (h : OneEach serves) :
    Hereditary serves fun q a => a = KeyMap.build q.casing q.layout where
  base := h.base
  refused _ hr := (KeyMap.build_of_refused hr).symm
  failed _ hr hb hf := (KeyMap.build_of_failed hr hb hf.symm).symm
  alone _ hr hb := (KeyMap.build_of_alone hr hb).symm
  completed _ hr hb hm := (KeyMap.build_of_built hr hb hm.symm).symm
  shared ht hu hid hm := by rw [← h.eq_of_id ht hu hid]; exact hm

end Layout

/-! ## Registries -/

namespace Registry

variable {serves : Layout → Prop} {holds : Request → Except Fault KeyMap → Prop}

/-- The registries that threads leave behind, and that requests made afterwards leave behind, if all
requests are for layouts that are served. -/
inductive Reached (serves : Layout → Prop) : Registry → Prop
  | run {requests : List (List Request)} (schedule : List Nat)
    (served : ∀ todo ∈ requests, ∀ q ∈ todo, serves q.layout) :
    Reached serves ((Machine.start .empty requests).run schedule).registry
  | resolve {r : Registry} {t : Layout} (casing : Casing) (reached : Reached serves r)
    (served : serves t) : Reached serves (r.resolve casing t).registry

theorem Reached.empty : Reached serves .empty := @Reached.run serves [] [] nofun

theorem Reached.mono {serves' : Layout → Prop} (h : ∀ t, serves t → serves' t) {r : Registry}
    (hr : r.Reached serves) : r.Reached serves' := by
  induction hr with
  | run schedule served => exact .run schedule fun todo htodo q hq => h _ (served todo htodo q hq)
  | resolve casing _ served ih => exact .resolve casing ih (h _ served)

theorem Reached.upholds (h : Hereditary serves holds) {r : Registry} (hr : r.Reached serves) :
    r.Upholds serves holds := by
  induction hr with
  | run schedule served => exact (Machine.run_upholds h served schedule).registry
  | resolve casing _ served ih => exact (ih.resolve h served casing).2

/-- What is hereditary holds of all answers of such a registry. -/
theorem Reached.answer (h : Hereditary serves holds) {r : Registry} (hr : r.Reached serves)
    {t : Layout} (ht : serves t) (casing : Casing) :
    holds ⟨t, casing⟩ (outcome (r.resolve casing t).answer) :=
  ((hr.upholds h).resolve h ht casing).1

/-- With one layout for each identity, a registry answers as a build does. -/
theorem Reached.answer_eq_build (h : Layout.OneEach serves) {r : Registry} (hr : r.Reached serves)
    {t : Layout} (ht : serves t) (casing : Casing) :
    (r.resolve casing t).answer.map (·.map) = KeyMap.build casing t :=
  hr.answer h.build_hereditary ht casing

theorem Reached.answer_of_build (h : Layout.OneEach serves) {r : Registry} (hr : r.Reached serves)
    {t : Layout} (ht : serves t) {casing : Casing} {m : KeyMap}
    (hm : KeyMap.build casing t = .ok m) :
    ∃ s, (r.resolve casing t).answer = .ok s ∧ s.map = m := by
  have hanswer := hr.answer_eq_build h ht casing
  rw [hm] at hanswer
  cases ha : (r.resolve casing t).answer with
  | error fault => rw [ha] at hanswer; cases hanswer
  | ok s => rw [ha] at hanswer; cases hanswer; exact ⟨s, rfl, rfl⟩

end Registry

/-! ## Key maps as registries give them -/

namespace KeyMap

/-- That the two halves of a key map agree, and that it is in the casing that was asked for, is
hereditary. -/
theorem wf_hereditary :
    Hereditary (fun _ => True) fun q a =>
      ∀ m, a = .ok m → m.toIndex.WF ∧ m.casing = q.casing where
  base _ _ := trivial
  refused _ _ _ h := by cases h
  failed _ _ _ _ _ h := by cases h
  alone _ _ _ _ h :=
    ⟨complete_wf (fun _ hb => by cases hb) h, (complete_eq_ok_iff.1 h).2.1⟩
  completed _ _ _ hb _ h :=
    ⟨complete_wf (fun b he => by cases he; exact (hb _ rfl).1) h, (complete_eq_ok_iff.1 h).2.1⟩
  shared _ _ _ h := h

end KeyMap

end RecordKeys
