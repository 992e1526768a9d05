/-
A view that is gone through against a view that is looked up. The keys are listed under their normal
forms, the pairs under the names that were declared; the null name is left out of both, and a member
without a content out of the pairs alone. Nevertheless the pairs are those keys, in their order, that
have a content: the normal form of the name of a pair is the key that it was come by, and to look up
that name gives the content of the pair.
-/
import RecordKeys.Proofs.KeyMap.Flattening
import RecordKeys.Proofs.KeyMap.Uniform
import RecordKeys.View.Basic

namespace RecordKeys

namespace View

variable {t : Layout} {casing : Casing} {w : View}

/-- The pair that a key has if a view is gone through. -/
def pairOf? (w : View) (e : Entry) : Option (String × Datum) :=
  match e.name, e.get w.value with
  | some name, some content => some (name, content)
  | _, _ => none

/-- A key has a pair: the name with which the member behind the key was declared, and the content
that is read under the key. -/
def Shows (w : View) (key : String) (p : String × Datum) : Prop :=
  ∃ e, w.map.field? key = some e ∧ e.name = some p.1 ∧ w.get key = some p.2

/-! ## Pairs and keys -/

theorem pairOf?_eq_some_iff {e : Entry} {p : String × Datum} :
    w.pairOf? e = some p ↔ e.name = some p.1 ∧ e.get w.value = some p.2 := by
  obtain ⟨name, content⟩ := p
  unfold pairOf?
  cases e.name <;> cases e.get w.value <;> simp

/-- The null name has no pair, so the pairs are those of the other names. -/
theorem pairs_eq (h : w.map.Uniform casing) :
    w.pairs = w.keys.filterMap fun k => (w.map.field? k).bind w.pairOf? := by
  have hnull : (w.map.find? none).bind w.pairOf? = none := by
    cases he : w.map.find? none with
    | none => rfl
    | some e =>
      have hkey : none = casing.key e.name := h.filed_under _ (Rows.mem_of_get? he)
      cases hname : e.name with
      | none => simp [pairOf?, hname]
      | some name => rw [hname] at hkey; cases hkey
  have hkeys : ∀ k ∈ w.keys, (w.map.find? (some k)).bind w.pairOf? =
      (w.map.field? k).bind w.pairOf? := by
    intro k hk
    rw [h.field?_eq_find? hk]
  calc w.pairs
      = w.map.names.filterMap fun n => (w.map.find? n).bind w.pairOf? := List.filterMap_filterMap
    _ = (w.keys.map some).filterMap fun n => (w.map.find? n).bind w.pairOf? := by
      rw [h.wf.increasing.eq_append, List.filterMap_append, List.filterMap_replicate_of_none
        (f := fun n => (w.map.find? n).bind w.pairOf?) hnull]
      rfl
    _ = w.keys.filterMap fun k => (w.map.field? k).bind w.pairOf? := by
      rw [List.filterMap_map]
      exact List.filterMap_congr hkeys

/-- A key that is listed has a pair exactly if it has a content. -/
theorem shows_or_get_eq_none (h : w.map.Uniform casing) {k : String} (hk : k ∈ w.keys) :
    (∃ p, (w.map.field? k).bind w.pairOf? = some p ∧ (w.get k).isSome ∧ w.Shows k p) ∨
      ((w.map.field? k).bind w.pairOf? = none ∧ (w.get k).isSome = false) := by
  obtain ⟨e, name, he, hname, -⟩ := h.field?_of_mem_keys hk
  have hget : w.get k = e.get w.value := by rw [get, he, Option.bind_some]
  rw [he, Option.bind_some, hget]
  cases hcontent : e.get w.value with
  | none => exact .inr ⟨by simp [pairOf?, hcontent], rfl⟩
  | some content =>
    exact .inl ⟨(name, content), pairOf?_eq_some_iff.2 ⟨hname, hcontent⟩, rfl, e, he, hname,
      hget.trans hcontent⟩

/-- To take what a function gives for the members of a list is to keep those for which it gives
something, and to have that for each. -/
theorem forall₂_filterMap {α β : Type} {R : α → β → Prop} {f : α → Option β} {p : α → Bool}
    {l : List α} (h : ∀ a ∈ l, (∃ b, f a = some b ∧ p a = true ∧ R a b) ∨ (f a = none ∧ p a = false)) :
    List.Forall₂ R (l.filter p) (l.filterMap f) := by
  induction l with
  | nil => exact .nil
  | cons a l ih =>
    have hrest := ih fun a' ha' => h a' (List.mem_cons_of_mem _ ha')
    rcases h a List.mem_cons_self with ⟨b, hb, hp, hR⟩ | ⟨hnone, hp⟩
    · rw [List.filter_cons_of_pos hp, List.filterMap_cons_some hb]
      exact .cons hR hrest
    · rw [List.filter_cons_of_neg (by simp [hp]), List.filterMap_cons_none hnone]
      exact hrest

/-- The pairs are those of the keys with a content, one after the other. -/
theorem forall₂_shows (h : w.map.Uniform casing) :
    List.Forall₂ w.Shows (w.keys.filter fun k => (w.get k).isSome) w.pairs := by
  rw [pairs_eq h]
  exact forall₂_filterMap fun k hk => shows_or_get_eq_none h hk

/-! ## Pairs and names -/

/-- The key that has a pair is the normal form of the name of the pair. -/
theorem Shows.normal_eq (h : w.map.Uniform casing) {k : String} {p : String × Datum}
    (hk : k ∈ w.keys) (hp : w.Shows k p) : casing.normal p.1 = k := by
  obtain ⟨e, he, hname, -⟩ := hp
  obtain ⟨e', name, he', hname', hnormal⟩ := h.field?_of_mem_keys hk
  cases he.symm.trans he'
  cases hname.symm.trans hname'
  exact hnormal

/-- The normal forms of the names, in the order of the pairs, are the keys that they were come by. -/
theorem map_normal_pairs (h : w.map.Uniform casing) :
    (w.pairs.map fun p => casing.normal p.1) = w.keys.filter fun k => (w.get k).isSome := by
  have hmap : List.Forall₂ (· = ·) (w.keys.filter fun k => (w.get k).isSome)
      (w.pairs.map fun p => casing.normal p.1) := by
    rw [List.forall₂_map_right_iff]
    refine ((List.forall₂_and_left _ _).2
      ⟨fun k hk => (List.mem_filter.1 hk).1, forall₂_shows h⟩).imp ?_
    rintro k p ⟨hk, hp⟩
    exact (hp.normal_eq h hk).symm
  rw [List.forall₂_eq_eq_eq] at hmap
  exact hmap.symm

/-- A pair is the one that its name has as a key. -/
theorem shows_of_mem_pairs (h : w.map.Uniform casing) {p : String × Datum} (hp : p ∈ w.pairs) :
    w.Shows p.1 p := by
  obtain ⟨e, he, hpair⟩ := List.mem_filterMap.1 hp
  obtain ⟨hname, hcontent⟩ := pairOf?_eq_some_iff.1 hpair
  have hlookup : w.map.field? p.1 = some e := h.lookup_eq_some_iff.2 ⟨he, by rw [hname]⟩
  exact ⟨e, hlookup, hname, by rw [get, hlookup, Option.bind_some, hcontent]⟩

/-- The member with the null name is not the one of any pair. -/
theorem null_of_lookup (h : w.map.Uniform casing) {e : Entry} (he : w.map.lookup none = some e) :
    e.name = none := by
  have hkey : casing.key e.name = none := (h.lookup_eq_some_iff.1 he).2
  cases hname : e.name with
  | none => rfl
  | some name => rw [hname] at hkey; cases hkey

/-- To go through a view agrees with looking it up, for every value and every key map that a request
for its type comes to. The keys are in their order, and a name is a key exactly if its normal form is
listed. The pairs are those of the keys that have a content, in the order of the keys: the name that
the member was declared with, and the content that is read. The name of a pair has the key for its
normal form, no two pairs have names of one normal form, and to look up the name of a pair gives its
content. The member with the null name is in none of them. -/
theorem pairs_follow_keys (hm : KeyMap.Resolved t casing w.map) :
    Name.Increasing (w.keys.map some) ∧
    (∀ name, w.contains name ↔ casing.normal name ∈ w.keys) ∧
    List.Forall₂ w.Shows (w.keys.filter fun k => (w.get k).isSome) w.pairs ∧
    ((w.pairs.map fun p => casing.normal p.1) = w.keys.filter fun k => (w.get k).isSome) ∧
    (w.pairs.map fun p => casing.normal p.1).Nodup ∧
    (∀ p ∈ w.pairs, w.get p.1 = some p.2) ∧
    ∀ e, w.map.lookup none = some e → ∀ p ∈ w.pairs, w.map.field? p.1 ≠ some e := by
  have h := hm.uniform
  have hincreasing := KeyMap.increasing_keys h.wf
  have hnodup : w.keys.Nodup := hincreasing.nodup.of_map _
  refine ⟨hincreasing, fun name => ?_, forall₂_shows h, map_normal_pairs h, ?_, fun p hp => ?_,
    fun e he p hp hfield => ?_⟩
  · rw [contains, h.field?_eq]
    exact (KeyMap.mem_keys_iff h.wf).symm
  · rw [map_normal_pairs h]
    exact hnodup.filter _
  · obtain ⟨-, -, -, hget⟩ := shows_of_mem_pairs h hp
    exact hget
  · obtain ⟨e', he', hname, -⟩ := shows_of_mem_pairs h hp
    cases hfield.symm.trans he'
    rw [null_of_lookup h he] at hname
    cases hname

/-! ## Keys without a pair -/

/-- A type with a key that is never reached and one with the null name, over a base with two keys. -/
def sampleTicket : Layout :=
  .embedding ⟨"Ticket", 2, .record,
    [⟨"seat", some "Seat", {}, "u32", .slot 0, []⟩, ⟨"stub", none, {}, "u32", .sealed, []⟩,
      ⟨"rest", none, { null := true }, "u32", .slot 1, []⟩], []⟩ "event"
    (.root ⟨"Event", 1, .record,
      [⟨"place", some "Place", {}, "u32", .slot 0, []⟩, ⟨"date", none, {}, "u32", .slot 1, []⟩], []⟩)

/-- An instance of the type in which a slot of the base is empty. -/
def sampleAdmission : Value :=
  .embedding 2 (.slots [some (.u32 12), some (.u32 0)]) (.root 1 (.slots [some (.u32 3), none]))

theorem pairs_follow_keys_ticket :
    ∃ m, KeyMap.build .folded sampleTicket = .ok m ∧
      keys ⟨m, sampleAdmission⟩ = ["date", "place", "seat", "stub"] ∧
      pairs ⟨m, sampleAdmission⟩ = [("Place", .u32 3), ("Seat", .u32 12)] ∧
      (m.lookup none).isSome ∧ get ⟨m, sampleAdmission⟩ "Place" = some (.u32 3) ∧
      contains ⟨m, sampleAdmission⟩ "STUB" := by
  obtain ⟨m, hm⟩ : ∃ m, KeyMap.build .folded sampleTicket = .ok m :=
    (KeyMap.build_isOk_iff _).2 (by decide +kernel)
  have hkeys : keys ⟨m, sampleAdmission⟩ = ["date", "place", "seat", "stub"] :=
    KeyMap.eq_of_map_build (f := fun m => keys ⟨m, sampleAdmission⟩) hm (by decide +kernel)
  have hpairs : pairs ⟨m, sampleAdmission⟩ = [("Place", .u32 3), ("Seat", .u32 12)] :=
    KeyMap.eq_of_map_build (f := fun m => pairs ⟨m, sampleAdmission⟩) hm (by decide +kernel)
  have hnull : (m.lookup none).isSome = true :=
    KeyMap.eq_of_map_build (f := fun m => (m.lookup none).isSome) hm (by decide +kernel)
  obtain ⟨-, hcontains, -, -, -, hget, -⟩ :=
    pairs_follow_keys (w := ⟨m, sampleAdmission⟩) (.built hm)
  refine ⟨m, hm, hkeys, hpairs, hnull, hget ("Place", .u32 3) (by rw [hpairs]; decide), ?_⟩
  rw [hcontains, hkeys]
  decide +kernel

end View

end RecordKeys
