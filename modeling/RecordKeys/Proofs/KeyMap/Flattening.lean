/-
What a build produces, told without the build: for every chain of bases, a type has a key map
exactly when it is no enumeration that is asked for without regard to case, no base of it is an
enumeration, and no two of its listed members have one normal form; the key map then files each
listed member under its normal form, with the path of steps to the level that declares it, and
nothing else.

The proof follows the chain. At each level the rows of the base, one step further away, come first
and the rows of the level itself behind them, which is how the listing of the level is made up.
-/
import RecordKeys.Proofs.KeyMap.Gathering
import RecordKeys.Proofs.Layout.Listing

namespace RecordKeys

/-- The key that a listed member is for the type that it is listed for. -/
def Listed.entry (t : Layout) (x : Listed) : Entry := ⟨x.member, x.owner, t.links.take x.rank⟩

/-- The row of a listed member. -/
def Listed.row (t : Layout) (casing : Casing) (x : Listed) : Name × Entry :=
  (x.key casing, x.entry t)

/-- The path of a key has a step for each level up to the one that declares it. -/
theorem Listed.length_path_entry {t : Layout} {x : Listed} (hx : t.chain[x.rank]? = some x.owner) :
    (x.entry t).path.length = x.rank := by
  obtain ⟨hlt, -⟩ := List.getElem?_eq_some_iff.1 hx
  rw [Layout.length_chain] at hlt
  show (t.links.take x.rank).length = x.rank
  rw [List.length_take, Nat.min_eq_left (Nat.le_of_lt_succ hlt)]

theorem Listed.isInherited_entry {t : Layout} {x : Listed} (hx : x ∈ t.listing) :
    (x.entry t).isInherited ↔ 0 < x.rank := by
  rw [← Listed.length_path_entry (Layout.mem_listing.1 hx).1, List.length_pos_iff]
  simp [Entry.isInherited]

/-! ## Refusals -/

theorem Layout.refusal?_eq_none_iff {casing : Casing} {t : Layout} :
    t.refusal? casing = none ↔
      ¬ (t.isEnum ∧ casing = .folded) ∧ ∀ b, t.base? = some b → b.isEnum = false := by
  cases t with
  | root l => cases casing <;> simp [refusal?, Casing.ignoresCase, base?]
  | embedding l field base =>
    cases casing <;> cases hb : base.isEnum <;> cases he : (embedding l field base).isEnum <;>
      simp [refusal?, Casing.ignoresCase, base?, hb, he]

namespace KeyMap

variable {casing : Casing}

/-! ## The rows of a level -/

theorem ownRows_eq_map (t : Layout) (members : List Member) :
    ownRows t casing members =
      ((members.filter (·.isKey)).map fun m => (⟨0, t, m⟩ : Listed)).map (Listed.row t casing) := by
  unfold ownRows
  induction members with
  | nil => rfl
  | cons m rest ih =>
    cases hm : m.isKey with
    | false =>
      rw [List.filterMap_cons_none (by simp [Entry.ofMember?, hm]), ih]
      simp [hm]
    | true =>
      have hown : Entry.ofMember? t m = some ⟨m, t, []⟩ := by simp [Entry.ofMember?, hm]
      rw [List.filterMap_cons_some hown, List.map_cons, ih]
      simp [hm, Listed.row, Listed.entry, Listed.key, Entry.name]

theorem ownRows_eq (t : Layout) :
    ownRows t casing t.members = (t.ownListing 0).map (Listed.row t casing) :=
  ownRows_eq_map t t.members

theorem keys_ownRows (t : Layout) :
    (ownRows t casing t.members).keys = (t.ownListing 0).map (·.key casing) := by
  rw [ownRows_eq, Rows.keys, List.map_map]; rfl

/-- The rows of a base, seen through the step to it, are the rows of its members as they are listed
for the type that embeds it. -/
theorem map_through_rows (l : Level) (field : String) (base : Layout) :
    (base.listing.map (Listed.row base casing)).map (through ⟨l.id, field⟩) =
      (base.listing.map Listed.raise).map (Listed.row (.embedding l field base) casing) := by
  rw [List.map_map, List.map_map]
  rfl

/-! ## The whole chain -/

/-- A key map that was built holds the rows of the listing, and its two halves agree. -/
theorem build_spec {t : Layout} {m : KeyMap} (h : build casing t = .ok m) :
    m.layout = t ∧ m.casing = casing ∧ m.filed = t.listing.map (Listed.row t casing) ∧
      m.toIndex.WF := by
  induction t generalizing m with
  | root l =>
    obtain ⟨-, hcomplete⟩ := complete_of_build_root h
    obtain ⟨hl, hc, he⟩ := complete_eq_ok_iff.1 hcomplete
    obtain ⟨hf, hwf⟩ := enrol_spec Index.empty_wf he
    refine ⟨hl, hc, ?_, hwf⟩
    rw [hf, ownRows_eq, Layout.listing_root]
    rfl
  | embedding l field base ih =>
    obtain ⟨-, b, hb, hcomplete⟩ := complete_of_build_embedding h
    obtain ⟨-, -, hbf, hbwf⟩ := ih hb
    obtain ⟨hl, hc, he⟩ := complete_eq_ok_iff.1 hcomplete
    rw [inherited_embedding] at he
    obtain ⟨hf, hwf⟩ := enrol_spec (seed_wf hbwf _) he
    refine ⟨hl, hc, ?_, hwf⟩
    -- the rows of the base come first, as its members do in the listing
    rw [hf, filed_seed hbwf.nodup, hbf, map_through_rows, ownRows_eq,
      Layout.listing_embedding, List.map_append]

/-- The names that something is filed under are the normal forms of the listed members. -/
theorem keys_of_build {t : Layout} {m : KeyMap} (h : build casing t = .ok m) :
    m.filed.keys = t.listing.map (·.key casing) := by
  rw [(build_spec h).2.2.1, Rows.keys, List.map_map]; rfl

/-- What a build comes to is so of the key map that was built. -/
theorem eq_of_map_build {α : Type} {f : KeyMap → α} {a : α} {t : Layout} {m : KeyMap}
    (h : build casing t = .ok m) (ha : (build casing t).map f = .ok a) : f m = a := by
  rw [h] at ha
  exact Except.ok.inj ha

/-- Each key is declared by the level that its path leads to. -/
theorem chain_of_mem_filed {t : Layout} {m : KeyMap} (h : build casing t = .ok m)
    {p : Name × Entry} (hp : p ∈ m.filed) :
    t.chain[p.2.path.length]? = some p.2.declaring := by
  rw [(build_spec h).2.2.1] at hp
  obtain ⟨x, hx, rfl⟩ := List.mem_map.1 hp
  have hlevel := (Layout.mem_listing.1 hx).1
  show t.chain[(x.entry t).path.length]? = some x.owner
  rw [Listed.length_path_entry hlevel, hlevel]

/-- A type has a key map exactly when neither its form, nor a base, nor its names forbid it. -/
theorem build_isOk_iff (t : Layout) :
    (∃ m, build casing t = .ok m) ↔
      ¬ (t.isEnum ∧ casing = .folded) ∧ (∀ u ∈ t.chain.tail, u.isEnum = false) ∧
        (t.listing.map (·.key casing)).Nodup := by
  induction t with
  | root l =>
    have hnd : ((Layout.root l).listing.map (·.key casing)) =
        (Index.empty.filed.keys ++ (ownRows (.root l) casing (Layout.root l).members).keys) := by
      rw [keys_ownRows, Layout.listing_root]; rfl
    rw [hnd, ← enrol_isOk_iff Index.empty_wf, build]
    cases hr : (Layout.root l).refusal? casing with
    | some f =>
      have : ¬ ¬ ((Layout.root l).isEnum ∧ casing = .folded) := fun hn => by
        rw [Layout.refusal?_eq_none_iff.2 ⟨hn, fun _ hb => by cases hb⟩] at hr; cases hr
      simp [this]
    | none =>
      simp only [complete_isOk_iff]
      have htail : ∀ u ∈ (Layout.root l).chain.tail, u.isEnum = false := fun _ hu => by cases hu
      exact ⟨fun h => ⟨(Layout.refusal?_eq_none_iff.1 hr).1, htail, h⟩, fun h => h.2.2⟩
  | embedding l field base ih =>
    have hlist : ((Layout.embedding l field base).listing.map (·.key casing)) =
        base.listing.map (·.key casing) ++
          (ownRows (.embedding l field base) casing l.members).keys := by
      rw [Layout.listing_embedding, List.map_append, List.map_map]
      exact congrArg _ (keys_ownRows (.embedding l field base)).symm
    have htail : (∀ u ∈ (Layout.embedding l field base).chain.tail, u.isEnum = false) ↔
        base.isEnum = false ∧ ∀ u ∈ base.chain.tail, u.isEnum = false := by
      rw [Layout.chain_embedding, List.tail_cons, Layout.chain_eq_cons, List.forall_mem_cons,
        List.tail_cons]
    rw [hlist, htail]
    constructor
    · rintro ⟨m, h⟩
      obtain ⟨hr, b, hb, hcomplete⟩ := complete_of_build_embedding h
      obtain ⟨hfold, hbase⟩ := Layout.refusal?_eq_none_iff.1 hr
      have hbwf := (build_spec hb).2.2.2
      have hnd := (enrol_isOk_iff (seed_wf hbwf _)).1 ⟨_, (complete_eq_ok_iff.1 hcomplete).2.2⟩
      rw [filed_seed hbwf.nodup, keys_map_through, keys_of_build hb] at hnd
      exact ⟨hfold, ⟨hbase base rfl, (ih.1 ⟨b, hb⟩).2.1⟩, hnd⟩
    · rintro ⟨hfold, ⟨hbase, htail⟩, hnd⟩
      have hr : (Layout.embedding l field base).refusal? casing = none :=
        Layout.refusal?_eq_none_iff.2 ⟨hfold, fun b hb => by cases hb; exact hbase⟩
      obtain ⟨b, hb⟩ := ih.2 ⟨by simp [hbase], htail, (List.nodup_append.1 hnd).1⟩
      have hbwf := (build_spec hb).2.2.2
      rw [build_of_built hr rfl hb]
      refine complete_isOk_iff.2 ((enrol_isOk_iff (seed_wf hbwf _)).2 ?_)
      rw [filed_seed hbwf.nodup, keys_map_through, keys_of_build hb]
      exact hnd

/-! ## Lookup -/

theorem lookup_of_build {t : Layout} {m : KeyMap} (h : build casing t = .ok m) {x : Listed}
    (hx : x ∈ t.listing) {n : Name} (hn : x.key casing = casing.key n) :
    m.lookup n = some (x.entry t) := by
  obtain ⟨-, hc, hf, hwf⟩ := build_spec h
  unfold lookup find?
  rw [hc, ← hn, Rows.get?_eq_some_iff hwf.nodup, hf]
  exact List.mem_map_of_mem (f := Listed.row t casing) hx

theorem lookup_eq_none_of_build {t : Layout} {m : KeyMap} (h : build casing t = .ok m) {n : Name}
    (hn : ∀ x ∈ t.listing, x.key casing ≠ casing.key n) : m.lookup n = none := by
  unfold lookup find?
  rw [(build_spec h).2.1, Rows.get?_eq_none_iff, keys_of_build h]
  intro hm
  obtain ⟨x, hx, he⟩ := List.mem_map.1 hm
  exact hn x hx he

/-- Flattening: a type has a key map exactly when neither its form, nor that of a base, nor two
equal names forbid it. Its names are then those of the listed members in strictly increasing order,
and a name of any spelling is looked up to the one listed member that has its normal form, with the
level that declares it, its name as declared, and the steps to that level. -/
theorem build_flattens (casing : Casing) (t : Layout) :
    ((∃ m, build casing t = .ok m) ↔
      ¬ (t.isEnum ∧ casing = .folded) ∧ (∀ u ∈ t.chain.tail, u.isEnum = false) ∧
        (t.listing.map (·.key casing)).Nodup) ∧
    ∀ m, build casing t = .ok m →
      m.layout = t ∧ m.casing = casing ∧
      Name.Increasing m.names ∧ (∀ n, n ∈ m.names ↔ ∃ x ∈ t.listing, x.key casing = n) ∧
      ∀ n : Name,
        (∀ x ∈ t.listing, x.key casing = casing.key n →
          (∀ y ∈ t.listing, y.key casing = casing.key n → y = x) ∧
          ∃ e, m.lookup n = some e ∧ e.member = x.member ∧ e.declaring = x.owner ∧
            t.chain[x.rank]? = some x.owner ∧ e.name = x.member.wireName ∧
            (e.isInherited ↔ 0 < x.rank) ∧ e.path = t.links.take x.rank) ∧
        ((∀ x ∈ t.listing, x.key casing ≠ casing.key n) → m.lookup n = none) := by
  refine ⟨build_isOk_iff t, fun m h => ?_⟩
  obtain ⟨hl, hc, -, hwf⟩ := build_spec h
  refine ⟨hl, hc, hwf.increasing, fun n => ?_, fun n => ⟨fun x hx hn => ⟨fun y hy hyn => ?_, ?_⟩,
    lookup_eq_none_of_build h⟩⟩
  · rw [hwf.mem_names, keys_of_build h, List.mem_map]
  · exact List.inj_on_of_nodup_map ((build_isOk_iff t).1 ⟨m, h⟩).2.2 hy hx (hyn.trans hn.symm)
  · exact ⟨x.entry t, lookup_of_build h hx hn, rfl, rfl, (Layout.mem_listing.1 hx).1, rfl,
      Listed.isInherited_entry hx, rfl⟩

end KeyMap

end RecordKeys
