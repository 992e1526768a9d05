/-
Which fault a build reports, for every chain of bases and whatever else is wrong with it. A type
that is an enumeration and asked for without regard to case is reported before its base is asked
for. Otherwise the enumeration that is nearest among the bases is reported, whatever the names are.
Otherwise, if two listed members have one normal form, the first member that repeats the normal
form of one listed before it is reported together with that one. A type with none of these faults
has a key map.

Forms are looked at on the way down the chain and names on the way back up, so of several forms the
nearest is reported, and of several names the one closest to the root.
-/
import RecordKeys.Proofs.KeyMap.Flattening

namespace RecordKeys

namespace Layout

/-- Of the bases of a type, the one that is `i + 1` steps away is the nearest that is an
enumeration; the type before it embeds it in a field. -/
structure NearestEnum (t : Layout) (i : Nat) (u : Layout) (field : String) (b : Layout) : Prop where
  embedding : t.chain[i]? = some u
  field : u.baseField? = some field
  base : t.chain[i + 1]? = some b
  isEnum : b.isEnum
  nearer : ∀ j w, j < i → t.chain[j + 1]? = some w → w.isEnum = false

/-- Of the listed members of a type, `second` is the first that has the normal form of one listed
before it, and `first` is that one. -/
def FirstClash (casing : Casing) (t : Layout) (first second : Listed) : Prop :=
  ∃ before after, t.listing = before ++ second :: after ∧ (before.map (·.key casing)).Nodup ∧
    first ∈ before ∧ first.key casing = second.key casing

variable {casing : Casing} {t : Layout}

/-! ## Forms -/

theorem refusal?_folded (h : t.isEnum ∧ casing = .folded) :
    t.refusal? casing = some (.foldedEnum t.name) := by
  obtain ⟨henum, rfl⟩ := h
  unfold refusal?
  rw [henum]
  rfl

theorem refusal?_embedding {l : Level} {field : String} {base : Layout}
    (h : ¬ ((embedding l field base).isEnum ∧ casing = .folded)) (hbase : base.isEnum) :
    (embedding l field base).refusal? casing = some (.enumBase l.name field base.name) := by
  unfold refusal?
  cases casing <;> simp_all [Casing.ignoresCase]

theorem NearestEnum.embed {i : Nat} {u b : Layout} {field : String} {l : Level} {f : String}
    (h : t.NearestEnum i u field b) (ht : t.isEnum = false) :
    (Layout.embedding l f t).NearestEnum (i + 1) u field b where
  embedding := h.embedding
  field := h.field
  base := h.base
  isEnum := h.isEnum
  nearer j w hj hw := by
    cases j with
    | zero =>
      rw [chain_embedding, chain_eq_cons t] at hw
      cases hw; exact ht
    | succ j => exact h.nearer j w (Nat.lt_of_succ_lt_succ hj) hw

/-! ## Names -/

/-- A list that goes on to a member which repeats one before it has a repetition. -/
theorem not_nodup_of_repeat {before after before' after' : List Listed} {x y : Listed}
    (h : before ++ y :: after = before' ++ after') (hlt : before.length < before'.length)
    (hx : x ∈ before) (hxy : x.key casing = y.key casing) :
    ¬ (before'.map (·.key casing)).Nodup := by
  intro hnodup
  rcases List.append_eq_append_iff.1 h with ⟨mid, hmid, htail⟩ | ⟨mid, hmid, -⟩
  · cases mid with
    | nil => simp [hmid] at hlt
    | cons z mid =>
      rw [List.cons_append, List.cons.injEq] at htail
      obtain ⟨rfl, -⟩ := htail
      rw [hmid, List.map_append, List.map_cons] at hnodup
      exact (List.nodup_append.1 hnodup).2.2 _ (List.mem_map_of_mem hx) _ List.mem_cons_self hxy
  · rw [hmid, List.length_append] at hlt
    omega

/-- There is only one member that repeats another first of all, and only one that it repeats. -/
theorem FirstClash.unique {first second first' second' : Listed}
    (h : t.FirstClash casing first second) (h' : t.FirstClash casing first' second') :
    first' = first ∧ second' = second := by
  obtain ⟨before, after, hsplit, hnodup, hmem, hkey⟩ := h
  obtain ⟨before', after', hsplit', hnodup', hmem', hkey'⟩ := h'
  have hboth := hsplit.symm.trans hsplit'
  have hlen : before.length = before'.length := by
    rcases Nat.lt_trichotomy before.length before'.length with hlt | heq | hgt
    · exact absurd hnodup' (not_nodup_of_repeat hboth hlt hmem hkey)
    · exact heq
    · exact absurd hnodup (not_nodup_of_repeat hboth.symm hgt hmem' hkey')
  obtain ⟨rfl, hrest⟩ := List.append_inj hboth hlen
  cases hrest
  exact ⟨List.inj_on_of_nodup_map hnodup hmem' hmem (hkey'.trans hkey.symm), rfl⟩

theorem FirstClash.embed {l : Level} {field : String} {first second : Listed}
    (h : t.FirstClash casing first second) :
    (Layout.embedding l field t).FirstClash casing first.raise second.raise := by
  obtain ⟨before, after, hsplit, hnodup, hmem, hkey⟩ := h
  refine ⟨before.map .raise, after.map .raise ++ (Layout.embedding l field t).ownListing 0, ?_, ?_,
    List.mem_map_of_mem hmem, hkey⟩
  · rw [listing_embedding, hsplit, List.map_append, List.map_cons, List.append_assoc,
      List.cons_append]
  · rw [List.map_map]; exact hnodup

end Layout

namespace KeyMap

variable {t : Layout} {casing : Casing}

/-- Adding members fails at the first that has a name that something is filed under. -/
theorem enrol_error {members : List Member} {x : Index} (hx : x.WF) {fault : Fault}
    (h : enrol t casing members x = .error fault) :
    ∃ before m after earlier, members = before ++ m :: after ∧ m.isKey ∧
      (x.filed.keys ++ (ownRows t casing before).keys).Nodup ∧
      (casing.key m.wireName, earlier) ∈ x.filed ++ ownRows t casing before ∧
      fault = .sameName t.name (casing.key m.wireName)
        ⟨earlier.declaring.name, earlier.member.name⟩ ⟨t.name, m.name⟩ casing := by
  induction members generalizing x with
  | nil => cases h
  | cons m rest ih =>
    unfold enrol at h
    cases hm : Entry.ofMember? t m with
    | none =>
      rw [hm] at h
      obtain ⟨before, m', after, earlier, hsplit, hkey, hnodup, hmem, hfault⟩ := ih hx h
      refine ⟨m :: before, m', after, earlier, by rw [hsplit, List.cons_append], hkey, ?_, ?_, hfault⟩
      · rw [ownRows_cons_of_not_key hm]; exact hnodup
      · rw [ownRows_cons_of_not_key hm]; exact hmem
    | some own =>
      have hown : m.isKey = true ∧ own = ⟨m, t, []⟩ := by
        unfold Entry.ofMember? at hm
        split at hm
        · rename_i hkey; cases hm; exact ⟨hkey, rfl⟩
        · cases hm
      obtain ⟨hkey, rfl⟩ := hown
      rw [hm] at h
      simp only at h
      cases hf : x.filed.get? (casing.key (Entry.name ⟨m, t, []⟩)) with
      | some earlier =>
        rw [hf] at h
        cases h
        refine ⟨[], m, rest, earlier, rfl, hkey, ?_, ?_, rfl⟩
        · simpa [ownRows] using hx.nodup
        · exact List.mem_append_left _ (Rows.mem_of_get? hf)
      | none =>
        rw [hf] at h
        obtain ⟨before, m', after, earlier, hsplit, hkey', hnodup, hmem, hfault⟩ := ih (hx.add _ _) h
        have hput : (x.add (casing.key (Entry.name ⟨m, t, []⟩)) ⟨m, t, []⟩).filed =
            x.filed ++ [(casing.key (Entry.name ⟨m, t, []⟩), ⟨m, t, []⟩)] :=
          Rows.put_of_not_mem (Rows.get?_eq_none_iff.1 hf) _
        -- what was added before the repetition is among the members before it
        refine ⟨m :: before, m', after, earlier, by rw [hsplit, List.cons_append], hkey', ?_, ?_, hfault⟩
        · rw [ownRows_cons_of_key hm]
          rw [hput, Rows.keys_append, List.append_assoc] at hnodup
          exact hnodup
        · rw [ownRows_cons_of_key hm]
          rw [hput, List.append_assoc] at hmem
          exact hmem

/-- If the keys of a type cannot be completed, its fault is the first clash of its listing. -/
theorem complete_error {base : Option KeyMap} (hx : (inherited t base).WF) (above : List Listed)
    (hfiled : (inherited t base).filed = above.map (Listed.row t casing))
    (hlisting : t.listing = above ++ t.ownListing 0) {fault : Fault}
    (h : complete t casing base = .error fault) :
    ∃ first second, t.FirstClash casing first second ∧
      fault = .sameName second.owner.name (second.key casing)
        ⟨first.owner.name, first.member.name⟩ ⟨second.owner.name, second.member.name⟩ casing := by
  have henrol : enrol t casing t.members (inherited t base) = .error fault := by
    unfold complete at h
    cases he : enrol t casing t.members (inherited t base) with
    | ok x => rw [he] at h; cases h
    | error f => rw [he] at h; cases h; rfl
  obtain ⟨before, m, after, earlier, hsplit, hkey, hnodup, hmem, rfl⟩ := enrol_error hx henrol
  -- the members before the repetition are listed as their rows are
  have hrows : ownRows t casing before = _ := ownRows_eq_map t before
  rw [hfiled, hrows, ← List.map_append] at hmem
  rw [hfiled, hrows, ← Rows.keys_append, ← List.map_append, Rows.keys, List.map_map] at hnodup
  obtain ⟨first, hfirst, hrow⟩ := List.mem_map.1 hmem
  obtain ⟨hkeys, hentry⟩ := Prod.mk.inj hrow
  refine ⟨first, ⟨0, t, m⟩, ⟨_, (after.filter (·.isKey)).map fun m => ⟨0, t, m⟩, ?_, hnodup, hfirst,
    hkeys⟩, ?_⟩
  · rw [hlisting, Layout.ownListing, hsplit]
    simp [hkey]
  · rw [← hentry]; rfl

/-! ## The report -/

/-- A type with an enumeration among its bases is reported by the nearest of them. -/
theorem build_of_enum_base (hfold : ¬ (t.isEnum ∧ casing = .folded))
    (henum : ∃ u ∈ t.chain.tail, u.isEnum) :
    ∃ i u field b, t.NearestEnum i u field b ∧
      build casing t = .error (.enumBase u.name field b.name) := by
  induction t with
  | root l => obtain ⟨u, hu, -⟩ := henum; cases hu
  | embedding l field base ih =>
    cases hbase : base.isEnum with
    | true =>
      refine ⟨0, .embedding l field base, field, base, ⟨rfl, rfl, ?_, hbase, nofun⟩,
        build_of_refused (Layout.refusal?_embedding hfold hbase)⟩
      rw [Layout.chain_embedding, Layout.chain_eq_cons]; rfl
    | false =>
      have hr : (Layout.embedding l field base).refusal? casing = none :=
        Layout.refusal?_eq_none_iff.2 ⟨hfold, fun b hb => by cases hb; exact hbase⟩
      have habove : ∃ u ∈ base.chain.tail, u.isEnum := by
        obtain ⟨u, hu, hue⟩ := henum
        rw [Layout.chain_embedding, List.tail_cons, Layout.chain_eq_cons] at hu
        rcases List.mem_cons.1 hu with rfl | hu
        · rw [hbase] at hue; cases hue
        · exact ⟨u, hu, hue⟩
      obtain ⟨i, u, f, b, hnearest, hfault⟩ := ih (by simp [hbase]) habove
      exact ⟨i + 1, u, f, b, hnearest.embed hbase, build_of_failed hr rfl hfault⟩

/-- A type that neither its form nor that of a base forbids is reported by its first clash, and the
clash of a base is found before those of the types that embed it. -/
theorem build_of_clash (hfold : ¬ (t.isEnum ∧ casing = .folded))
    (hbases : ∀ u ∈ t.chain.tail, u.isEnum = false)
    (hkeys : ¬ (t.listing.map (·.key casing)).Nodup) :
    ∃ first second, t.FirstClash casing first second ∧
      build casing t = .error (.sameName second.owner.name (second.key casing)
        ⟨first.owner.name, first.member.name⟩ ⟨second.owner.name, second.member.name⟩ casing) := by
  have hfails : ∃ fault, build casing t = .error fault := by
    cases h : build casing t with
    | error fault => exact ⟨fault, rfl⟩
    | ok m => exact absurd ((build_isOk_iff t).1 ⟨m, h⟩).2.2 hkeys
  obtain ⟨fault, hfault⟩ := hfails
  induction t generalizing fault with
  | root l =>
    have hr : (Layout.root l).refusal? casing = none :=
      Layout.refusal?_eq_none_iff.2 ⟨hfold, nofun⟩
    have hc := build_of_alone hr rfl ▸ hfault
    obtain ⟨first, second, hclash, rfl⟩ := complete_error (t := .root l) Index.empty_wf [] rfl
      (Layout.listing_root l) hc
    exact ⟨first, second, hclash, hfault⟩
  | embedding l field base ih =>
    rw [Layout.chain_embedding, List.tail_cons, Layout.chain_eq_cons, List.forall_mem_cons] at hbases
    obtain ⟨hbase, habove⟩ := hbases
    have hr : (Layout.embedding l field base).refusal? casing = none :=
      Layout.refusal?_eq_none_iff.2 ⟨hfold, fun b hb => by cases hb; exact hbase⟩
    cases hb : build casing base with
    | error f =>
      have hclashes : ¬ (base.listing.map (·.key casing)).Nodup := fun hn => by
        obtain ⟨m, hm⟩ := (build_isOk_iff base).2 ⟨by simp [hbase], habove, hn⟩
        rw [hm] at hb; cases hb
      obtain ⟨first, second, hclash, hf⟩ := ih (by simp [hbase]) habove hclashes f hb
      exact ⟨first.raise, second.raise, hclash.embed, build_of_failed hr rfl hf⟩
    | ok b =>
      obtain ⟨-, -, hbf, hbwf⟩ := build_spec hb
      have hc := build_of_built hr rfl hb ▸ hfault
      obtain ⟨first, second, hclash, rfl⟩ := complete_error
        (inherited_embedding l field base b ▸ seed_wf hbwf _) (base.listing.map .raise)
        (by rw [inherited_embedding, filed_seed hbwf.nodup, hbf, map_through_rows])
        (Layout.listing_embedding l field base) hc
      exact ⟨first, second, hclash, hfault⟩

/-- The fault of a type. An enumeration that is asked for without regard to case is reported as
such, whatever answers for the base, which is not asked for. Otherwise the nearest enumeration among
the bases is reported, whatever the names are. Otherwise, if two listed members have one normal
form, the first member that repeats another is reported with that one, under the name of the type
that declares it. Otherwise there is no fault. -/
theorem build_blames (casing : Casing) (t : Layout) :
    (t.isEnum ∧ casing = .folded →
      build casing t = .error (.foldedEnum t.name) ∧ t.request? casing = none ∧
        ∀ answer, buildVia answer t casing = .error (.foldedEnum t.name)) ∧
    (¬ (t.isEnum ∧ casing = .folded) → (∃ u ∈ t.chain.tail, u.isEnum) →
      ∃ i u field b, t.NearestEnum i u field b ∧
        build casing t = .error (.enumBase u.name field b.name)) ∧
    (¬ (t.isEnum ∧ casing = .folded) → (∀ u ∈ t.chain.tail, u.isEnum = false) →
      ¬ (t.listing.map (·.key casing)).Nodup →
      ∃ first second, t.FirstClash casing first second ∧
        (∀ first' second', t.FirstClash casing first' second' → first' = first ∧ second' = second) ∧
        build casing t = .error (.sameName second.owner.name (second.key casing)
          ⟨first.owner.name, first.member.name⟩ ⟨second.owner.name, second.member.name⟩ casing)) ∧
    (¬ (t.isEnum ∧ casing = .folded) → (∀ u ∈ t.chain.tail, u.isEnum = false) →
      (t.listing.map (·.key casing)).Nodup → ∃ m, build casing t = .ok m) := by
  refine ⟨fun hfold => ?_, build_of_enum_base, fun hfold hbases hkeys => ?_,
    fun hfold hbases hkeys => (build_isOk_iff t).2 ⟨hfold, hbases, hkeys⟩⟩
  · have hr := Layout.refusal?_folded hfold
    refine ⟨build_of_refused hr, ?_, fun answer => ?_⟩
    · unfold Layout.request?; rw [hr]; rfl
    · unfold buildVia; rw [hr]
  · obtain ⟨first, second, hclash, hfault⟩ := build_of_clash hfold hbases hkeys
    exact ⟨first, second, hclash, fun _ _ h => hclash.unique h, hfault⟩

/-! ## A type and a base that both repeat a name -/

/-- The root of a chain. -/
def sampleEntity : Layout :=
  .root ⟨"Entity", 1, .record, [⟨"id", none, {}, "u32", .slot 0, []⟩], []⟩

/-- A type that spells the name of a key of its base otherwise. -/
def sampleInvoice : Layout :=
  .embedding ⟨"Invoice", 2, .record,
      [⟨"total", none, {}, "u32", .slot 0, []⟩, ⟨"Id", none, {}, "u32", .slot 1, []⟩], []⟩
    "entity" sampleEntity

/-- A type that does so once more. -/
def sampleReminder : Layout :=
  .embedding ⟨"Reminder", 3, .record, [⟨"note", some "ID", {}, "u32", .slot 0, []⟩], []⟩
    "invoice" sampleInvoice

theorem build_blames_reminder :
    build .folded sampleReminder = .error (.sameName "Invoice" (some "id")
      ⟨"Entity", "id"⟩ ⟨"Invoice", "Id"⟩ .folded) := by
  have hclash : sampleReminder.FirstClash .folded
      ⟨2, sampleEntity, ⟨"id", none, {}, "u32", .slot 0, []⟩⟩
      ⟨1, sampleInvoice, ⟨"Id", none, {}, "u32", .slot 1, []⟩⟩ :=
    ⟨[_, ⟨1, sampleInvoice, ⟨"total", none, {}, "u32", .slot 0, []⟩⟩], _, rfl, by decide,
      List.mem_cons_self, by decide +kernel⟩
  obtain ⟨first, second, -, hunique, hbuild⟩ :=
    (build_blames .folded sampleReminder).2.2.1 (by decide) (by decide) (by decide)
  obtain ⟨rfl, rfl⟩ := hunique _ _ hclash
  exact hbuild

end KeyMap

end RecordKeys
