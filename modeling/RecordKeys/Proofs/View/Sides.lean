/-
The two sides of a record that keeps what it does not know, and the keys that it lists. What is kept
beside the fields is kept under normal forms that no field has, whatever changes were made, so that no
key is listed twice. Each key that is listed is read where it is listed from, and no spelling of a
field removes anything.
-/
import RecordKeys.Proofs.KeyMap.Casings
import RecordKeys.Proofs.View.Keeping

namespace RecordKeys

namespace KeyMap

/-- The null name is counted and is not a key. -/
theorem size_eq {m : KeyMap} (h : m.toIndex.WF) : m.size = m.names.count none + m.keys.length := by
  have hlength := congrArg List.length h.increasing.eq_append
  rwa [List.length_append, List.length_replicate, List.length_map] at hlength

/-- The null name is listed only if a listed member has it. -/
theorem null_not_mem_names {casing : Casing} {t : Layout} {m : KeyMap} (hm : build casing t = .ok m)
    (ht : ∀ x ∈ t.listing, x.member.wireName ≠ none) : none ∉ m.names := by
  rw [mem_names_of_build hm]
  rintro ⟨x, hx, hkey⟩
  cases hname : x.member.wireName with
  | none => exact ht x hx hname
  | some name => rw [Listed.key, hname] at hkey; cases hkey

end KeyMap

namespace OpenRecord

variable {start o : OpenRecord} {changes : List Change}

/-! ## What is kept beside the fields -/

namespace Tells

theorem normal_of_mem_extras (h : Tells start changes o) {u : String} (hu : u ∈ o.extras.keys) :
    o.map.casing.normal u = u ∧ o.map.field? u = none := by
  obtain ⟨d, hd⟩ := Option.isSome_iff_exists.1 (isSome_arrival?_iff.1 ((h.others u).1 hu))
  obtain ⟨key, -, hnone, rfl⟩ := exists_set_of_lastPut? hd
  -- a spelling and its normal form are the same name, so neither is declared
  rw [h.map, KeyMap.field?_congr (Casing.normal_normal _ key)]
  exact ⟨Casing.normal_normal _ key, hnone⟩

theorem nodup_extras (h : Tells start changes o) : o.extras.keys.Nodup :=
  (List.nodup_append.1 (h.keys ▸ h.nodup)).2.1

/-- What is kept beside the fields is read under its key. -/
theorem get_of_mem_extras (h : Tells start changes o) {u : String} {d : Datum}
    (hu : (u, d) ∈ o.extras) : o.get u = some d := by
  obtain ⟨hnormal, hnone⟩ := h.normal_of_mem_extras (List.mem_map_of_mem (f := Prod.fst) hu)
  have hget : o.get u = o.extras.get? (o.map.casing.normal u) := get_of_undeclared hnone ..
  rw [hget, hnormal, Rows.get?_eq_some_iff h.nodup_extras]
  exact hu

end Tells

/-! ## What is listed -/

/-- A record that lists no key twice. -/
structure Distinct (casing : Casing) (o : OpenRecord) : Prop where
  /-- What is kept beside the fields is kept under normal forms, each once, and none of them is a
  spelling of a field. -/
  others : o.extras.keys.Nodup
  normal : ∀ u ∈ o.extras.keys, casing.normal u = u
  undeclared : ∀ u ∈ o.extras.keys, o.map.field? u = none
  nodup : o.keys.Nodup
  size : none ∉ o.map.names → o.size = o.keys.length
  /-- A key is read where it is listed from: from the field that is filed under it, or from what is
  kept beside the fields. -/
  declared : ∀ k ∈ o.map.keys, ∃ e, o.map.find? (some k) = some e ∧ o.get k = e.get o.value
  kept : ∀ u d, (u, d) ∈ o.extras → o.get u = some d
  /-- No spelling of a field removes anything. -/
  remove : ∀ key e, o.map.field? key = some e → o.remove key = (none, o)

theorem Tells.distinct {casing : Casing} (h : Tells start changes o) (hlawful : Lawful o)
    (hm : o.map.Uniform casing) : Distinct casing o where
  others := h.nodup_extras
  normal u hu := hm.casing_eq ▸ (h.normal_of_mem_extras hu).1
  undeclared u hu := (h.normal_of_mem_extras hu).2
  nodup := h.nodup
  size hnull := by
    have hkeys : o.keys.length = o.map.keys.length + o.extras.length := by
      rw [OpenRecord.keys, List.length_append, Rows.keys, List.length_map]
    rw [OpenRecord.size, KeyMap.size_eq hm.wf, List.count_eq_zero.2 hnull, hkeys, Nat.zero_add]
  declared k hk := by
    obtain ⟨e, -, hfield, -, -⟩ := hm.field?_of_mem_keys hk
    exact ⟨e, hm.field?_eq_find? hk ▸ hfield, get_of_declared hfield ..⟩
  kept u d hu := h.get_of_mem_extras hu
  remove := hlawful.remove_declared

/-! ## Wrapped records -/

/-- A record is wrapped with the key map that the registry answers with, unless that is the one of
an enumeration. -/
theorem wrap_eq_ok_iff {r : Registry} {casing : Casing} {i : Instance} :
    (wrap r casing i).record = .ok o ↔ ∃ s, (r.resolve casing i.layout).answer = .ok s ∧
      s.map.layout.isEnum = false ∧ o = ⟨i.layout, i.value, s.map, []⟩ := by
  simp only [wrap]
  cases (r.resolve casing i.layout).answer with
  | error fault => simp
  | ok s =>
    simp only [Except.ok.injEq, exists_eq_left']
    split
    · rename_i hform
      simp [hform]
    · rename_i hform
      rw [Except.ok.injEq, eq_comm]
      simp [hform]

/-- A record that keeps what it does not know lists no key twice, after every run of changes, those
that are refused included, with names compared in either way, and whatever the registry that gave its
key map has been asked before. If every identity belongs to one layout, then a type without a member
for the null name has a key map without the null name. -/
theorem run_lists_once {serves : Layout → Prop} {r : Registry} (hr : r.Reached serves)
    (casing : Casing) (i : Instance) (hi : serves i.layout)
    (ho : (wrap r casing i).record = .ok o) :
    (∀ changes, (o.run changes).map = o.map ∧ Distinct casing (o.run changes)) ∧
    (Layout.OneEach serves → (∀ x ∈ i.layout.listing, x.member.wireName ≠ none) →
      none ∉ o.map.names) := by
  obtain ⟨s, hs, -, rfl⟩ := wrap_eq_ok_iff.1 ho
  have hm : s.map.Uniform casing :=
    (KeyMap.Resolved.answered (hr.mono fun _ _ => trivial) hs).uniform
  refine ⟨fun changes => ?_, fun hone => ?_⟩
  · obtain ⟨htells, hlawful⟩ := run_tells (o := ⟨i.layout, i.value, s.map, []⟩) hm.wf rfl changes
    exact ⟨htells.map, htells.distinct hlawful (htells.map ▸ hm)⟩
  · have hbuild := hr.answer_eq_build hone hi casing
    rw [hs] at hbuild
    exact KeyMap.null_not_mem_names hbuild.symm

/-! ## A record that is asked for its fields as if they were not declared -/

/-- Changes that try to remove fields, in other spellings, and to put values of other kinds there. -/
def sampleAttempts : List Change :=
  [.remove "TITLE", .set "Title" (.u32 1), .set "Zone" (.u32 2), .set "RANK" (.u32 9),
    .set "zone" (.u32 3), .write (.root 1 (.slots [some (.string "c"), none])), .remove "rank"]

theorem run_lists_once_note :
    ∃ o, (wrap .empty .folded sampleInstance).record = .ok o ∧
      (o.run sampleAttempts).keys = ["rank", "title", "zone"] ∧
      (o.run sampleAttempts).size = 3 ∧
      (o.run sampleAttempts).get "zone" = some (.u32 3) ∧
      (o.run sampleAttempts).remove "Title" = (none, o.run sampleAttempts) ∧
      Distinct .folded (o.run sampleAttempts) := by
  have hone : Layout.OneEach (· ∈ sampleNote.chain) := .of_chain (by decide)
  have hnote : sampleNote ∈ sampleNote.chain := sampleNote.self_mem_chain
  obtain ⟨o, ho⟩ : ∃ o, (wrap .empty .folded sampleInstance).record = .ok o :=
    ⟨_, wrap_eq_ok_iff.2 ⟨_, rfl, rfl, rfl⟩⟩
  obtain ⟨hdistinct, hnull⟩ := run_lists_once .empty .folded sampleInstance hnote ho
  obtain ⟨hmap, hrun⟩ := hdistinct sampleAttempts
  have hkeys : (o.run sampleAttempts).keys = ["rank", "title", "zone"] := by
    cases ho; decide +kernel
  have hsize : (o.run sampleAttempts).size = (o.run sampleAttempts).keys.length :=
    hrun.size (hmap ▸ hnull hone (by decide))
  refine ⟨o, ho, hkeys, by rw [hsize, hkeys]; rfl, hrun.kept "zone" (.u32 3) ?_, ?_, hrun⟩
  · cases ho; decide +kernel
  · obtain ⟨e, he⟩ : ∃ e, (o.run sampleAttempts).map.field? "Title" = some e := by
      rw [hmap]; cases ho; exact ⟨_, rfl⟩
    exact hrun.remove "Title" e he

end OpenRecord

end RecordKeys
