/-
What is told while requests are made one after the other. Every key map is built once: the events
that tell of builds are as many as the key maps that are stored, each tells of a type after all its
bases, and no request finds a key map stored that it has just built itself.

The log stands for this beside the registry, and every event in it beside the request that it is
about. One step either tells of something that changes nothing or stores a key map and tells so, and
both keep the order of the log that of the registry.
-/
import RecordKeys.Proofs.Registry.Growth

namespace RecordKeys

variable {serves : Layout → Prop} {casing : Casing} {t : Layout}

/-! ## Events and what they are about -/

/-- Whether a key map was built. -/
def Event.isBuilt : Event → Bool
  | built .. => true
  | _ => false

/-- An event with the request that it is about, which is one that was made or one for a base that was
made in the course of it. -/
structure Told where
  request : Request
  event : Event

/-- Events that are all about one request. -/
def Request.tells (q : Request) (events : List Event) : List Told := events.map (Told.mk q)

/-- Every build that a log tells of comes after builds of all bases of the type in the same casing. -/
def BasesFirst (log : List Told) : Prop :=
  ∀ before x after, log = before ++ x :: after → x.event.isBuilt →
    ∀ u ∈ x.request.layout.chain.tail,
      ∃ y ∈ before, y.event.isBuilt ∧ y.request = ⟨u, x.request.casing⟩

/-- The identities of the types whose key maps a log tells to have been built in a casing. -/
def builtTypes (casing : Casing) (log : List Told) : List TypeId :=
  (log.filter fun x => x.event.isBuilt && x.request.casing == casing).map (·.request.layout.id)

namespace Registry

/-- What an event says is true of a registry: the type and the casing are those of the request, the
counts are those of the names in the key maps that are stored, and no key map was stored late. -/
def Reports (r : Registry) (x : Told) : Prop :=
  match x.event with
  | .hit type casing =>
    type = x.request.layout.name ∧ casing = x.request.casing ∧
      r.contains x.request.casing x.request.layout
  | .seeding type count base =>
    type = x.request.layout.name ∧ ∃ b s, x.request.layout.base? = some b ∧ base = b.name ∧
      r.find? x.request.casing b.id = some s ∧ count = s.map.names.length
  | .built type casing count =>
    type = x.request.layout.name ∧ casing = x.request.casing ∧
      ∃ s, r.find? x.request.casing x.request.layout.id = some s ∧ count = s.map.names.length
  | .lateStore .. => False

/-- The events of a request, each with what it is about. A request that comes to ask for the base
first tells what that one tells. -/
def told (casing : Casing) : Layout → Registry → List Told
  | .root l, r => Request.tells ⟨.root l, casing⟩ (r.resolve casing (.root l)).events
  | .embedding l field base, r =>
    let t := Layout.embedding l field base
    if r.contains casing t ∨ (t.refusal? casing).isSome then
      Request.tells ⟨t, casing⟩ (r.resolve casing t).events
    else
      let above := r.resolve casing base
      r.told casing base ++ match above.answer with
        | .error _ => []
        | .ok s => Request.tells ⟨t, casing⟩ (above.registry.supply casing t (some s.map)).events

/-- The registry in which the key map of a type is stored after it has been built: the one that the
request for the base leaves behind. -/
def whenStored (r : Registry) (casing : Casing) (t : Layout) : Registry :=
  match t.base? with
  | none => r
  | some b => (r.resolve casing b).registry

end Registry

/-- A registry and what has been told since it was empty, the latest last. -/
structure Chronicle where
  registry : Registry
  log : List Told

namespace Chronicle

/-- Makes a request. -/
def ask (c : Chronicle) (q : Request) : Chronicle :=
  ⟨(c.registry.resolve q.casing q.layout).registry, c.log ++ c.registry.told q.casing q.layout⟩

/-- Makes requests one after the other, of a registry that is empty at first. -/
def run (requests : List Request) : Chronicle := requests.foldl ask ⟨.empty, []⟩

/-- Tells of something that leaves the registry as it is. -/
def tell (c : Chronicle) (x : Told) : Chronicle := ⟨c.registry, c.log ++ [x]⟩

/-- Stores a key map and tells that it was built. -/
def store (c : Chronicle) (q : Request) (m : KeyMap) : Chronicle :=
  ⟨(c.registry.mint m).2.add q.casing q.layout.id (c.registry.mint m).1,
    c.log ++ [⟨q, .built q.layout.name q.casing m.size⟩]⟩

/-- Supplies a type with a key map, given that of its base. -/
def supply (c : Chronicle) (q : Request) (base : Option KeyMap) : Chronicle :=
  ⟨(c.registry.supply q.casing q.layout base).registry,
    c.log ++ q.tells (c.registry.supply q.casing q.layout base).events⟩

end Chronicle

/-! ## Requests by way of the base -/

section Told

variable {r : Registry} {b : Layout} {s : Shared} {fault : Fault}

theorem Registry.told_of_ready
    (h : r.contains casing t ∨ (t.refusal? casing).isSome ∨ t.base? = none) :
    r.told casing t = Request.tells ⟨t, casing⟩ (r.resolve casing t).events := by
  cases t with
  | root l => rfl
  | embedding l field base =>
    have h : r.contains casing (.embedding l field base) ∨
        ((Layout.embedding l field base).refusal? casing).isSome :=
      h.imp_right fun h => h.resolve_right nofun
    rw [told, if_pos h]

theorem Registry.told_of_base (h : r.find? casing t.id = none) (hr : t.refusal? casing = none)
    (hb : t.base? = some b) :
    r.told casing t = r.told casing b ++ match (r.resolve casing b).answer with
      | .error _ => []
      | .ok s => Request.tells ⟨t, casing⟩
        ((r.resolve casing b).registry.supply casing t (some s.map)).events := by
  cases t with
  | root l => cases hb
  | embedding l field base =>
    cases hb
    rw [told, if_neg]
    rw [contains, h, hr]
    decide

/-- The events of a log are those that the requests have. -/
theorem Registry.told_events (r : Registry) (casing : Casing) (t : Layout) :
    (r.told casing t).map (·.event) = (r.resolve casing t).events := by
  have htells : ∀ (q : Request) events, (q.tells events).map (·.event) = events := fun q events => by
    rw [Request.tells, List.map_map]; exact List.map_id _
  induction t with
  | root l => exact htells _ _
  | embedding l field base ih =>
    by_cases h : r.contains casing (.embedding l field base) ∨
        ((Layout.embedding l field base).refusal? casing).isSome
    · rw [told_of_ready (h.imp_right .inl), htells]
    · rw [not_or, contains, Bool.not_eq_true, Option.isSome_eq_false_iff, Option.isNone_iff_eq_none,
        Bool.not_eq_true, Option.isSome_eq_false_iff, Option.isNone_iff_eq_none] at h
      rw [told_of_base h.1 h.2 rfl, List.map_append, ih]
      cases ha : (r.resolve casing base).answer with
      | error fault => rw [resolve_of_failed h.1 h.2 rfl ha]; exact List.append_nil _
      | ok s => rw [resolve_of_answered h.1 h.2 rfl ha, htells]

end Told

/-! ## What a request finds stored -/

namespace Registry

variable {r : Registry} {s : Shared}

theorem find?_of_supply {base : Option KeyMap} (h : (r.supply casing t base).answer = .ok s) :
    (r.supply casing t base).registry.find? casing t.id = some s := by
  unfold supply at h ⊢
  cases hm : KeyMap.complete t casing base with
  | error fault => rw [hm] at h; cases h
  | ok m =>
    rw [hm] at h
    cases h
    exact find?_settle ..

/-- A request is answered with what is stored afterwards. -/
theorem find?_of_resolve (h : (r.resolve casing t).answer = .ok s) :
    (r.resolve casing t).registry.find? casing t.id = some s := by
  cases hs : r.find? casing t.id with
  | some earlier =>
    rw [resolve_of_hit hs] at h ⊢
    cases h
    exact hs
  | none =>
    cases hr : t.refusal? casing with
    | some fault => rw [resolve_of_refused hs hr] at h; cases h
    | none =>
      cases hb : t.base? with
      | none =>
        rw [resolve_of_alone hs hr hb] at h ⊢
        exact find?_of_supply h
      | some b =>
        cases ha : (r.resolve casing b).answer with
        | error fault => rw [resolve_of_failed hs hr hb ha, ha] at h; cases h
        | ok above =>
          rw [resolve_of_answered hs hr hb ha] at h ⊢
          exact find?_of_supply h

/-- A request stores nothing but levels of the chain. -/
theorem Leaves.find?_of_ne {r' : Registry} {a : Except Fault KeyMap} (h : r.Leaves casing t a r')
    {id : TypeId} (hne : ∀ u ∈ t.chain, u.id ≠ id) (hid : r.find? casing id = none) :
    r'.find? casing id = none := by
  cases h with
  | answered hgains => exact hgains.find?_of_ne hne hid
  | clash _ hgains _ => exact hgains.find?_of_ne (fun u hu => hne u (List.mem_of_mem_drop hu)) hid
  | foldedEnum => exact hid
  | enumBase => exact hid

/-- The request for the base does not store the type that is being built. -/
theorem Reached.find?_whenStored (hone : Layout.OneEach serves) (hr : r.Reached serves)
    (ht : serves t) (h : r.find? casing t.id = none) :
    (r.whenStored casing t).find? casing t.id = none := by
  unfold whenStored
  cases hb : t.base? with
  | none => exact h
  | some b =>
    have hleaves := resolve_leaves hone (hr.upholds hone.build_hereditary) (hr.founded hone)
      (hone.base ht hb) casing
    refine hleaves.find?_of_ne (fun u hu => hone.id_ne ht ?_) h
    rw [Layout.chain_of_base hb]
    exact hu

end Registry

/-! ## Logs that grow -/

theorem builtTypes_append (casing : Casing) (log new : List Told) :
    builtTypes casing (log ++ new) = builtTypes casing log ++ builtTypes casing new := by
  rw [builtTypes, List.filter_append, List.map_append]
  rfl

theorem mem_builtTypes {log : List Told} {id : TypeId} :
    id ∈ builtTypes casing log ↔
      ∃ x ∈ log, x.event.isBuilt ∧ x.request.casing = casing ∧ x.request.layout.id = id := by
  simp only [builtTypes, List.mem_map, List.mem_filter, Bool.and_eq_true, beq_iff_eq, and_assoc]

/-- Every build is in one casing or the other. -/
theorem length_filter_isBuilt (log : List Told) :
    (log.filter (·.event.isBuilt)).length =
      (builtTypes .exact log).length + (builtTypes .folded log).length := by
  induction log with
  | nil => rfl
  | cons x log ih =>
    simp only [builtTypes, List.length_map] at ih ⊢
    cases hx : x.event.isBuilt <;> cases hc : x.request.casing <;> simp [hx, hc, ih] <;> omega

theorem BasesFirst.concat {log : List Told} (h : BasesFirst log) {x : Told}
    (hx : x.event.isBuilt → ∀ u ∈ x.request.layout.chain.tail,
      ∃ y ∈ log, y.event.isBuilt ∧ y.request = ⟨u, x.request.casing⟩) :
    BasesFirst (log ++ [x]) := by
  intro before y after hsplit
  rcases List.eq_nil_or_concat after with rfl | ⟨after, last, rfl⟩
  · obtain ⟨rfl, hlast⟩ := List.append_inj' hsplit rfl
    cases hlast
    exact hx
  · rw [List.concat_eq_append, ← List.cons_append, ← List.append_assoc] at hsplit
    obtain ⟨hlog, -⟩ := List.append_inj' hsplit rfl
    exact h before y after hlog

theorem Registry.Reports.mono {r r' : Registry} (h : r.Extends r') {x : Told} (hx : r.Reports x) :
    r'.Reports x := by
  unfold Reports at hx ⊢
  split at hx
  · exact ⟨hx.1, hx.2.1, h.contains hx.2.2⟩
  · obtain ⟨htype, b, s, hb, hname, hs, hcount⟩ := hx
    exact ⟨htype, b, s, hb, hname, h _ _ _ hs, hcount⟩
  · obtain ⟨htype, hcasing, s, hs, hcount⟩ := hx
    exact ⟨htype, hcasing, s, h _ _ _ hs, hcount⟩
  · exact hx

/-! ## What the log and the registry have in common -/

namespace Chronicle

/-- The log of a registry tells the truth, and it tells of one build for each key map that is stored,
in the order in which these were stored. -/
structure Sound (serves : Layout → Prop) (c : Chronicle) : Prop where
  served : ∀ x ∈ c.log, serves x.request.layout
  reports : ∀ x ∈ c.log, c.registry.Reports x
  builds : ∀ casing, builtTypes casing c.log = (c.registry.shelf casing).keys
  distinct : ∀ casing, (c.registry.shelf casing).keys.Nodup
  basesFirst : BasesFirst c.log

theorem sound_empty : Sound serves ⟨.empty, []⟩ where
  served := nofun
  reports := nofun
  builds casing := by cases casing <;> rfl
  distinct casing := by cases casing <;> exact List.nodup_nil
  basesFirst before x after h := by cases before <;> cases h

variable {c : Chronicle} {q : Request}

theorem Sound.tell (hc : c.Sound serves) {x : Told} (hserved : serves x.request.layout)
    (hreports : c.registry.Reports x) (hx : x.event.isBuilt = false) : (c.tell x).Sound serves where
  served := List.forall_mem_append.2 ⟨hc.served, List.forall_mem_singleton.2 hserved⟩
  reports := List.forall_mem_append.2 ⟨hc.reports, List.forall_mem_singleton.2 hreports⟩
  builds casing := by
    have hnone : builtTypes casing [x] = [] := by simp [builtTypes, hx]
    rw [Chronicle.tell, builtTypes_append, hnone, List.append_nil]
    exact hc.builds casing
  distinct := hc.distinct
  basesFirst := hc.basesFirst.concat fun h => by rw [hx] at h; cases h

/-! ### Storing -/

theorem builtTypes_store (c : Chronicle) (q : Request) (m : KeyMap) (casing : Casing) :
    builtTypes casing (c.store q m).log =
      builtTypes casing c.log ++ if casing = q.casing then [q.layout.id] else [] := by
  rw [store, builtTypes_append]
  by_cases h : q.casing = casing
  · simp [builtTypes, Event.isBuilt, h]
  · simp [builtTypes, Event.isBuilt, h, Ne.symm h]

theorem keys_store (hnone : c.registry.find? q.casing q.layout.id = none) (m : KeyMap)
    (casing : Casing) :
    ((c.store q m).registry.shelf casing).keys =
      (c.registry.shelf casing).keys ++ if casing = q.casing then [q.layout.id] else [] := by
  rw [store]
  split
  · rename_i h
    rw [h, Registry.shelf_add_self, Registry.shelf_mint,
      Rows.put_of_not_mem (Rows.get?_eq_none_iff.1 hnone), Rows.keys_append]
    rfl
  · rename_i h
    rw [Registry.shelf_add_of_ne h, Registry.shelf_mint, List.append_nil]

theorem extends_store (hnone : c.registry.find? q.casing q.layout.id = none) (m : KeyMap) :
    c.registry.Extends (c.store q m).registry := by
  have hsettle := (c.registry.mint m).2.extends_settle q.casing q.layout.id (c.registry.mint m).1
  rw [Registry.settle, Registry.find?_mint, hnone] at hsettle
  exact fun casing id s hs => hsettle casing id s (by rwa [Registry.find?_mint])

/-- A type that is not stored, but whose bases are, is stored and told to have been built. -/
theorem Sound.store (hone : Layout.OneEach serves) (hc : c.Sound serves) (hq : serves q.layout)
    (hnone : c.registry.find? q.casing q.layout.id = none)
    (hbases : ∀ u ∈ q.layout.chain.tail, c.registry.contains q.casing u) (m : KeyMap) :
    (c.store q m).Sound serves := by
  refine ⟨?_, ?_, fun casing => ?_, fun casing => ?_, hc.basesFirst.concat fun _ u hu => ?_⟩
  · exact List.forall_mem_append.2 ⟨hc.served, List.forall_mem_singleton.2 hq⟩
  · exact List.forall_mem_append.2
      ⟨fun x hx => (hc.reports x hx).mono (extends_store hnone m),
        List.forall_mem_singleton.2 ⟨rfl, rfl, _, Registry.find?_add_self .., rfl⟩⟩
  · rw [builtTypes_store, keys_store hnone, hc.builds]
  · rw [keys_store hnone]
    split
    · rename_i h
      rw [List.nodup_append_comm, List.singleton_append, List.nodup_cons, h]
      exact ⟨Rows.get?_eq_none_iff.1 hnone, hc.distinct _⟩
    · rw [List.append_nil]; exact hc.distinct casing
  · have hmem : u.id ∈ builtTypes q.casing c.log := by
      rw [hc.builds]
      exact Rows.isSome_get?_iff.1 (hbases u hu)
    obtain ⟨y, hy, hbuilt, hcasing, hid⟩ := mem_builtTypes.1 hmem
    have hlayout : y.request.layout = u :=
      hone.eq_of_id (hc.served y hy) (hone.chain hq (List.mem_of_mem_tail hu)) hid
    exact ⟨y, hy, hbuilt, by rw [← hlayout, ← hcasing]⟩

/-! ## Requests -/

/-- A key map that is supplied for a type that is not stored is stored as it has been built. -/
theorem supply_of_vacant (hnone : c.registry.find? q.casing q.layout.id = none)
    (base : Option KeyMap) :
    let told := match base with
      | some b => c.tell ⟨q, .seeding q.layout.name b.size b.layout.name⟩
      | none => c
    c.supply q base = match KeyMap.complete q.layout q.casing base with
      | .ok m => told.store q m
      | .error _ => told := by
  have hsettle : ∀ m, (c.registry.mint m).2.settle q.casing q.layout.id (c.registry.mint m).1 =
      ((c.registry.mint m).1,
        (c.registry.mint m).2.add q.casing q.layout.id (c.registry.mint m).1) := fun m => by
    rw [Registry.settle, Registry.find?_mint, hnone]
  unfold supply Registry.supply KeyMap.completeEvents
  cases base <;> cases KeyMap.complete q.layout q.casing _ <;>
    simp [hsettle, tell, store, Request.tells]

/-- A request is answered from what is stored, or refused, or fails as the one for the base does, or
supplies its type when the base has been answered for. -/
inductive Asks (c : Chronicle) (q : Request) : Chronicle → Prop
  | hit (found : c.registry.contains q.casing q.layout) :
    Asks c q (c.tell ⟨q, .hit q.layout.name q.casing⟩)
  | refused : Asks c q c
  | alone (vacant : c.registry.find? q.casing q.layout.id = none)
    (base : q.layout.base? = none) : Asks c q (c.supply q none)
  | failed {b : Layout} (base : q.layout.base? = some b) : Asks c q (c.ask ⟨b, q.casing⟩)
  | answered {b : Layout} {s : Shared} (vacant : c.registry.find? q.casing q.layout.id = none)
    (base : q.layout.base? = some b)
    (answer : (c.registry.resolve q.casing b).answer = .ok s) :
    Asks c q ((c.ask ⟨b, q.casing⟩).supply q (some s.map))

theorem ask_asks (c : Chronicle) (q : Request) : c.Asks q (c.ask q) := by
  obtain ⟨t, casing⟩ := q
  unfold ask
  cases hs : c.registry.find? casing t.id with
  | some s =>
    have hcontains : c.registry.contains casing t := Registry.contains_iff.2 ⟨s, hs⟩
    rw [Registry.told_of_ready (.inl hcontains), Registry.resolve_of_hit hs]
    exact .hit hcontains
  | none =>
    cases hr : t.refusal? casing with
    | some fault =>
      rw [Registry.told_of_ready (.inr (.inl (by rw [hr]; rfl))), Registry.resolve_of_refused hs hr]
      have hsame : Chronicle.mk c.registry (c.log ++ []) = c := by rw [List.append_nil]
      rw [show Request.tells ⟨t, casing⟩ [] = [] from rfl, hsame]
      exact .refused
    | none =>
      cases hb : t.base? with
      | none =>
        rw [Registry.told_of_ready (.inr (.inr hb)), Registry.resolve_of_alone hs hr hb]
        exact .alone hs hb
      | some b =>
        rw [Registry.told_of_base hs hr hb]
        cases ha : (c.registry.resolve casing b).answer with
        | error fault =>
          rw [Registry.resolve_of_failed hs hr hb ha, List.append_nil]
          exact .failed hb
        | ok s =>
          rw [Registry.resolve_of_answered hs hr hb ha, ← List.append_assoc]
          exact .answered hs hb ha

theorem Sound.supply (hone : Layout.OneEach serves) (hc : c.Sound serves) (hq : serves q.layout)
    (hnone : c.registry.find? q.casing q.layout.id = none)
    (hbases : ∀ u ∈ q.layout.chain.tail, c.registry.contains q.casing u) {base : Option KeyMap}
    (hbase : ∀ m, base = some m → ∃ b s, q.layout.base? = some b ∧ m.layout.name = b.name ∧
      c.registry.find? q.casing b.id = some s ∧ m = s.map) : (c.supply q base).Sound serves := by
  rw [supply_of_vacant hnone]
  cases base with
  | none =>
    cases KeyMap.complete q.layout q.casing none with
    | error fault => exact hc
    | ok m => exact hc.store hone hq hnone hbases m
  | some m =>
    obtain ⟨b, s, hb, hname, hs, rfl⟩ := hbase m rfl
    have htold : (c.tell ⟨q, .seeding q.layout.name s.map.size s.map.layout.name⟩).Sound serves :=
      hc.tell hq ⟨rfl, b, s, hb, hname, hs, rfl⟩ rfl
    cases KeyMap.complete q.layout q.casing (some s.map) with
    | error fault => exact htold
    | ok m => exact htold.store hone hq hnone hbases m

/-- A request keeps the log and the registry in line, if the one for the base does. -/
theorem Sound.ask_of_base (hone : Layout.OneEach serves) (hc : c.Sound serves)
    (hr : c.registry.Reached serves) (hq : serves q.layout)
    (hbase : ∀ b, q.layout.base? = some b → (c.ask ⟨b, q.casing⟩).Sound serves) :
    (c.ask q).Sound serves := by
  have hasks := c.ask_asks q
  generalize c.ask q = after at hasks
  cases hasks with
  | hit found => exact hc.tell hq ⟨rfl, rfl, found⟩ rfl
  | refused => exact hc
  | alone vacant hb =>
    refine hc.supply hone hq vacant ?_ nofun
    rw [Layout.chain_of_alone hb]
    exact nofun
  | failed hb => exact hbase _ hb
  | @answered b s vacant hb ha =>
    have hserved : serves b := hone.base hq hb
    have hstored := Registry.find?_of_resolve ha
    refine (hbase b hb).supply hone hq ?_ ?_ fun m hm =>
      ⟨b, s, hb, ?_, hstored, (Option.some.inj hm).symm⟩
    · have hvacant := hr.find?_whenStored hone hq vacant
      rw [Registry.whenStored, hb] at hvacant
      exact hvacant
    · rw [Layout.chain_of_base hb]
      exact ((hr.resolve q.casing hserved).founded hone).chain hone hserved
        (Registry.contains_iff.2 ⟨s, hstored⟩)
    · have hbuild := hr.answer_eq_build hone hserved q.casing
      rw [ha] at hbuild
      cases hm
      rw [(KeyMap.build_spec hbuild.symm).1]

theorem Sound.ask (hone : Layout.OneEach serves) (hc : c.Sound serves)
    (hr : c.registry.Reached serves) (hq : serves q.layout) : (c.ask q).Sound serves := by
  obtain ⟨t, casing⟩ := q
  induction t with
  | root l => exact hc.ask_of_base hone hr hq nofun
  | embedding l field base ih =>
    refine hc.ask_of_base hone hr hq fun b hb => ?_
    cases hb
    exact ih (hone.base hq rfl)

/-- Requests made one after the other keep the log and the registry in line. -/
theorem Sound.foldl (hone : Layout.OneEach serves) {requests : List Request} (hc : c.Sound serves)
    (hr : c.registry.Reached serves) (h : ∀ q ∈ requests, serves q.layout) :
    (requests.foldl Chronicle.ask c).registry.Reached serves ∧
      (requests.foldl Chronicle.ask c).Sound serves := by
  induction requests generalizing c with
  | nil => exact ⟨hr, hc⟩
  | cons q requests ih =>
    obtain ⟨hq, hrest⟩ := List.forall_mem_cons.1 h
    exact ih (hc.ask hone hr hq) (hr.resolve q.casing hq) hrest

/-- Every key map is built once, if every identity belongs to one layout and requests are made one
after the other of a registry that is empty at first, in both casings, whether they fail or not and
however often they are repeated. After them the builds that the log tells of are as many as the key
maps that are stored in the two casings, and no two of them are of one type in one casing. Each
comes after those of all bases of the type in the same casing. Whatever the log tells is true: a
build had as many names as the key map that is stored for the type, a key map begun with the names
of the base had as many as the one that is stored for the base, and none was stored late. The next
request tells just its own events, and if it builds the key map of a level, no key map is stored for
this level at the moment of storing it. -/
theorem run_builds_once (hone : Layout.OneEach serves) {requests : List Request}
    (hserved : ∀ q ∈ requests, serves q.layout) :
    let c := run requests
    (c.log.filter (·.event.isBuilt)).length = c.registry.size .exact + c.registry.size .folded ∧
    (∀ casing, (builtTypes casing c.log).Nodup) ∧
    BasesFirst c.log ∧
    (∀ x ∈ c.log, c.registry.Reports x) ∧
    ∀ q, serves q.layout →
      (c.ask q).log.map (·.event) =
        c.log.map (·.event) ++ (c.registry.resolve q.casing q.layout).events ∧
      ∀ u ∈ q.layout.chain, c.registry.find? q.casing u.id = none →
        (c.registry.whenStored q.casing u).find? q.casing u.id = none := by
  intro c
  obtain ⟨hr, hc⟩ : c.registry.Reached serves ∧ c.Sound serves :=
    sound_empty.foldl hone .empty hserved
  have hsize : ∀ casing, (builtTypes casing c.log).length = c.registry.size casing :=
    fun casing => by rw [hc.builds, Rows.keys, List.length_map]; rfl
  refine ⟨?_, fun casing => ?_, hc.basesFirst, hc.reports, fun q hq => ⟨?_, fun u hu hnone => ?_⟩⟩
  · rw [length_filter_isBuilt, hsize, hsize]
  · rw [hc.builds]; exact hc.distinct casing
  · rw [ask, List.map_append, Registry.told_events]
  · exact hr.find?_whenStored hone (hone.chain hq hu) hnone

/-- Three requests for levels of one chain, of which the first fails at the level in the middle. -/
theorem run_builds_once_reminder :
    let serves := (· ∈ KeyMap.sampleReminder.chain)
    let requests : List Request :=
      [⟨KeyMap.sampleReminder, .folded⟩, ⟨KeyMap.sampleReminder, .exact⟩,
        ⟨KeyMap.sampleEntity, .exact⟩]
    let c := run requests
    Layout.OneEach serves ∧ (∀ q ∈ requests, serves q.layout) ∧
      c.registry.size .exact = 3 ∧ c.registry.size .folded = 1 ∧
      (c.log.filter (·.event.isBuilt)).length = 4 ∧ BasesFirst c.log := by
  intro serves requests c
  have hone : Layout.OneEach serves := .of_chain (by decide)
  have hserved : ∀ q ∈ requests, serves q.layout := by decide
  obtain ⟨hcount, -, hfirst, -⟩ := run_builds_once hone hserved
  have hexact : c.registry.size .exact = 3 := by decide +kernel
  have hfolded : c.registry.size .folded = 1 := by decide +kernel
  refine ⟨hone, hserved, hexact, hfolded, ?_, hfirst⟩
  rw [hcount, hexact, hfolded]

end Chronicle

end RecordKeys
