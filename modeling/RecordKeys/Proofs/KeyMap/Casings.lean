/-
The key maps of one type in the two casings. To leave case out of account only makes more names
equal: a type that has a key map without regard to case has one with regard to it, and the two hold
the same keys under names that correspond one to one. The order of the keys may differ, since it is
that of the normal forms; and of a type that has neither key map, two other members may be reported.
-/
import RecordKeys.Proofs.KeyMap.Flattening
import Mathlib.Data.Set.Function

namespace RecordKeys

/-- The normal form without regard to case is made from the name as it is written. -/
theorem Listed.key_folded (x : Listed) : x.key .folded = Casing.folded.key (x.key .exact) := by
  rw [key, key, Casing.key_exact]

namespace KeyMap

variable {casing : Casing} {t : Layout}

theorem mem_names_of_build {m : KeyMap} (h : build casing t = .ok m) {n : Name} :
    n ∈ m.names ↔ ∃ x ∈ t.listing, x.key casing = n := by
  rw [(build_spec h).2.2.2.mem_names, keys_of_build h, List.mem_map]

/-- A name of the one key map that two listed members have in the other is the name of one member. -/
theorem exact_key_injOn (h : (t.listing.map (·.key .folded)).Nodup) {x y : Listed}
    (hx : x ∈ t.listing) (hy : y ∈ t.listing)
    (hkey : Casing.folded.key (x.key .exact) = Casing.folded.key (y.key .exact)) :
    x.key .exact = y.key .exact := by
  rw [← Listed.key_folded, ← Listed.key_folded] at hkey
  rw [List.inj_on_of_nodup_map h hx hy hkey]

theorem nodup_exact_of_folded (h : (t.listing.map (·.key .folded)).Nodup) :
    (t.listing.map (·.key .exact)).Nodup := by
  have hcompose : t.listing.map (·.key .folded) =
      (t.listing.map (·.key .exact)).map Casing.folded.key := by
    rw [List.map_map]
    exact List.map_congr_left fun x _ => x.key_folded
  rw [hcompose] at h
  exact h.of_map

theorem build_exact_of_folded {m : KeyMap} (h : build .folded t = .ok m) :
    ∃ m', build .exact t = .ok m' := by
  obtain ⟨-, hbases, hnodup⟩ := (build_isOk_iff t).1 ⟨m, h⟩
  refine (build_isOk_iff t).2 ⟨?_, hbases, nodup_exact_of_folded hnodup⟩
  rintro ⟨-, hcasing⟩
  cases hcasing

/-- The names of a type in the two casings correspond one to one. -/
theorem names_bijOn {m m' : KeyMap} (h : build .folded t = .ok m) (h' : build .exact t = .ok m') :
    Set.BijOn Casing.folded.key {n | n ∈ m'.names} {n | n ∈ m.names} := by
  have hnodup := ((build_isOk_iff t).1 ⟨m, h⟩).2.2
  refine ⟨fun n hn => ?_, fun n hn k hk he => ?_, fun n hn => ?_⟩
  · obtain ⟨x, hx, rfl⟩ := (mem_names_of_build h').1 hn
    exact (mem_names_of_build h).2 ⟨x, hx, x.key_folded⟩
  · obtain ⟨x, hx, rfl⟩ := (mem_names_of_build h').1 hn
    obtain ⟨y, hy, rfl⟩ := (mem_names_of_build h').1 hk
    exact exact_key_injOn hnodup hx hy he
  · obtain ⟨x, hx, rfl⟩ := (mem_names_of_build h).1 hn
    exact ⟨x.key .exact, (mem_names_of_build h').2 ⟨x, hx, rfl⟩, x.key_folded.symm⟩

/-- Only the null name has the null name for its normal form. -/
theorem null_mem_names_iff {m m' : KeyMap} (h : build .folded t = .ok m)
    (h' : build .exact t = .ok m') : none ∈ m'.names ↔ none ∈ m.names := by
  have hbij := names_bijOn h h'
  constructor
  · intro hn
    exact hbij.mapsTo hn
  · intro hn
    obtain ⟨n, hn, hkey⟩ := hbij.surjOn hn
    cases n with
    | none => exact hn
    | some name => cases hkey

/-- A name of the key map with regard to case is looked up to the same key in both. -/
theorem lookup_in_both {m m' : KeyMap} (h : build .folded t = .ok m) (h' : build .exact t = .ok m')
    {n : Name} (hn : n ∈ m'.names) : ∃ e, m'.lookup n = some e ∧ m.lookup n = some e := by
  obtain ⟨x, hx, rfl⟩ := (mem_names_of_build h').1 hn
  exact ⟨x.entry t, lookup_of_build h' hx (Casing.key_exact _).symm, lookup_of_build h hx x.key_folded⟩

/-- A type whose base already repeats a name in another spelling, and which repeats one itself. -/
def sampleLedger : Layout :=
  .embedding ⟨"Ledger", 2, .record, [⟨"sum", some "total", {}, "u32", .slot 0, []⟩], []⟩ "book"
    (.root ⟨"Book", 1, .record,
      [⟨"total", none, {}, "u32", .slot 0, []⟩, ⟨"page", none, {}, "u32", .slot 1, []⟩,
        ⟨"pages", some "Page", {}, "u32", .slot 2, []⟩], []⟩)

/-- Leaving case out of account only adds collisions. A type that has a key map without regard to
case has one with regard to it; the normal forms of the names of the latter are the names of the
former, each of one name, and the null name that of the null name; and each of these names is looked
up to the same key in both, with its member, the layout that declares it, and the path to it. A type
that is refused with regard to case is refused without; the members that are reported may differ. -/
theorem build_folded_adds (t : Layout) :
    (∀ m, build .folded t = .ok m → ∃ m', build .exact t = .ok m' ∧
      Set.BijOn Casing.folded.key {n | n ∈ m'.names} {n | n ∈ m.names} ∧
      Casing.folded.key none = none ∧ (none ∈ m'.names ↔ none ∈ m.names) ∧
      ∀ n ∈ m'.names, ∃ e, m'.lookup n = some e ∧ m.lookup n = some e) ∧
    (∀ fault, build .exact t = .error fault → ∃ fault', build .folded t = .error fault') ∧
    ∃ u type name first second type' name' first' second',
      build .exact u = .error (.sameName type name first second .exact) ∧
      build .folded u = .error (.sameName type' name' first' second' .folded) ∧
      first ≠ first' ∧ second ≠ second' := by
  refine ⟨fun m h => ?_, fun fault h => ?_, ?_⟩
  · obtain ⟨m', h'⟩ := build_exact_of_folded h
    exact ⟨m', h', names_bijOn h h', rfl, null_mem_names_iff h h', fun n hn => lookup_in_both h h' hn⟩
  · cases hf : build .folded t with
    | error fault' => exact ⟨fault', rfl⟩
    | ok m =>
      obtain ⟨m', h'⟩ := build_exact_of_folded hf
      rw [h] at h'; cases h'
  · exact ⟨sampleLedger, "Ledger", some "total", ⟨"Book", "total"⟩, ⟨"Ledger", "sum"⟩,
      "Book", some "page", ⟨"Book", "page"⟩, ⟨"Book", "pages"⟩,
      by decide +kernel, by decide +kernel, by decide, by decide⟩

/-! ## A type with its keys in two orders -/

/-- A type whose base has a name with a capital that comes first as it is written. -/
def sampleAtlas : Layout :=
  .embedding ⟨"Atlas", 2, .record, [⟨"index", none, {}, "u32", .slot 0, []⟩], []⟩ "map"
    (.root ⟨"Map", 1, .record,
      [⟨"north", none, {}, "u32", .slot 0, []⟩, ⟨"scale", some "Scale", {}, "u32", .slot 1, []⟩], []⟩)

theorem build_folded_adds_atlas :
    ∃ m m' e, build .folded sampleAtlas = .ok m ∧ build .exact sampleAtlas = .ok m' ∧
      m.keys = ["index", "north", "scale"] ∧ m'.keys = ["Scale", "index", "north"] ∧
      m'.lookup (some "Scale") = some e ∧ m.lookup (some "Scale") = some e ∧
      e.path = [⟨2, "map"⟩] := by
  obtain ⟨m, hm⟩ : ∃ m, build .folded sampleAtlas = .ok m :=
    (build_isOk_iff _).2 (by decide +kernel)
  obtain ⟨m', hm', -, -, -, hlookup⟩ := (build_folded_adds sampleAtlas).1 m hm
  have hkeys : m.keys = ["index", "north", "scale"] :=
    eq_of_map_build (f := (·.keys)) hm (by decide +kernel)
  have hkeys' : m'.keys = ["Scale", "index", "north"] :=
    eq_of_map_build (f := (·.keys)) hm' (by decide +kernel)
  have hscale : some "Scale" ∈ m'.names :=
    (mem_names_of_build hm').2 ⟨⟨1, _, ⟨"scale", some "Scale", {}, "u32", .slot 1, []⟩⟩,
      .tail _ List.mem_cons_self, rfl⟩
  have hpath : (m'.lookup (some "Scale")).map (·.path) = some [⟨2, "map"⟩] :=
    eq_of_map_build (f := fun m => (m.lookup (some "Scale")).map (·.path)) hm' (by decide +kernel)
  obtain ⟨e, he', he⟩ := hlookup (some "Scale") hscale
  rw [he'] at hpath
  exact ⟨m, m', e, hm, hm', hkeys, hkeys', he', he, Option.some.inj hpath⟩

end KeyMap

end RecordKeys
