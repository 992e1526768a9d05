/-
What a request adds to a registry. A request that is answered with an instance adds the levels of
the chain that were missing, the root first. A request that fails because two keys have one name
adds those above the level at which the name is repeated, and one that fails for the form of a type
adds nothing. Nothing else changes, in this casing or in the other.

That a type found in the registry adds nothing rests on what every registry has that threads and
requests leave behind: the base of a stored type is stored as well. A thread stores a type only
after it has been answered with the key map of the base.
-/
import RecordKeys.Proofs.KeyMap.Faults
import RecordKeys.Proofs.Registry.Convergence
import RecordKeys.Proofs.Registry.Reached
import Mathlib.Data.List.Forall2

namespace RecordKeys

variable {serves : Layout → Prop} {casing : Casing} {t : Layout}

/-! ## Bases are stored first -/

namespace Registry

theorem contains_iff {r : Registry} : r.contains casing t ↔ ∃ s, r.find? casing t.id = some s :=
  Option.isSome_iff_exists

theorem Extends.contains {r r' : Registry} (h : r.Extends r') (ht : r.contains casing t) :
    r'.contains casing t := by
  obtain ⟨s, hs⟩ := contains_iff.1 ht
  exact contains_iff.2 ⟨s, h _ _ _ hs⟩

/-- The base of every stored type is stored. -/
def Founded (serves : Layout → Prop) (r : Registry) : Prop :=
  ∀ casing t b, serves t → t.base? = some b → r.contains casing t → r.contains casing b

theorem Founded.chain (hone : Layout.OneEach serves) {r : Registry} (hr : r.Founded serves)
    (ht : serves t) (h : r.contains casing t) : ∀ u ∈ t.chain, r.contains casing u := by
  induction t with
  | root l => simpa using h
  | embedding l field base ih =>
    intro u hu
    rcases List.mem_cons.1 hu with rfl | hu
    · exact h
    · exact ih (hone.base ht rfl) (hr casing _ base ht rfl h) u hu

end Registry

namespace Thread

/-- The base of the type that a thread is about to store is stored. -/
def Founded (r : Registry) (t : Thread) : Prop :=
  ∀ q own rest b, t.pending = ⟨q, .storing own⟩ :: rest → q.layout.base? = some b →
    r.contains q.casing b

theorem Founded.mono {r r' : Registry} (h : r.Extends r') {t : Thread} (ht : t.Founded r) :
    t.Founded r' :=
  fun q own rest b hp hb => h.contains (ht q own rest b hp hb)

/-- The request that goes on after an answer has been answered for its base. -/
theorem answer_founded {t : Thread} {q : Request} {a : Except Fault Shared} {rest : List Pending}
    {r : Registry} (hw : Waiting serves q rest) (ha : ∀ s, a = .ok s → r.contains q.casing q.layout) :
    (t.answer q a rest r).1.Founded (t.answer q a rest r).2 := by
  induction rest generalizing t q a with
  | nil => intro q' own rest b hp; cases hp
  | cons p rest ih =>
    obtain ⟨-, -, hcasing, -, hbase, hw⟩ := hw
    rcases t.answer_cons q a p rest r with ⟨fault, -, he⟩ | ⟨s, m, rfl, -, he⟩ <;> rw [he]
    · exact ih hw nofun
    · intro q' own rest' b hp hb
      cases hp
      rw [hbase] at hb
      cases hb
      obtain ⟨u, hu⟩ := Registry.contains_iff.1 (ha s rfl)
      exact Registry.contains_iff.2 ⟨u, by rw [Registry.find?_mint, hcasing]; exact hu⟩

/-- Storing a type whose base is stored leaves the base of every stored type stored. -/
theorem settle_founded (hone : Layout.OneEach serves) {r : Registry} (hr : r.Founded serves)
    {q : Request} (hq : serves q.layout) (own : Shared)
    (hbase : ∀ b, q.layout.base? = some b → r.contains q.casing b) :
    (r.settle q.casing q.layout.id own).2.Founded serves := by
  intro casing t b ht hb h
  refine (r.extends_settle q.casing q.layout.id own).contains ?_
  obtain ⟨s, hs⟩ := Registry.contains_iff.1 h
  rcases Registry.find?_settle_cases hs with hs | ⟨rfl, hid, -⟩
  · exact hr casing t b ht hb (Registry.contains_iff.2 ⟨s, hs⟩)
  · rw [hone.eq_of_id ht hq hid] at hb
    exact hbase b hb

/-- The base of every type that a registry stores, and of the one that a thread is about to store,
is stored. -/
theorem step_founded (hone : Layout.OneEach serves) {holds : Request → Except Fault KeyMap → Prop}
    {t : Thread} {r : Registry} (ht : t.Upholds serves holds) (hr : r.Founded serves)
    (hf : t.Founded r) : (t.step r).2.Founded serves ∧ (t.step r).1.Founded (t.step r).2 := by
  have hmove := t.step_move r
  obtain ⟨-, hpending, -, -⟩ := ht
  generalize t.step r = after at hmove ⊢
  cases hmove with
  | idle => exact ⟨hr, hf⟩
  | begin => exact ⟨hr, fun q own rest b hp => by cases hp⟩
  | descend => exact ⟨hr, fun q own rest b hp => by cases hp⟩
  | @build q rest m _ _ hbase =>
    refine ⟨fun casing u b hu hb h => ?_, fun q' own rest' b hp hb => ?_⟩
    · simp only [Registry.contains, Registry.find?_mint] at h ⊢
      exact hr casing u b hu hb h
    · cases hp; rw [hbase] at hb; cases hb
  | @answer q stage rest a r' hp ha =>
    rw [hp] at hpending
    obtain ⟨hq, hw, -⟩ := hpending
    have hr' : r'.Founded serves := by
      cases ha with
      | hit => exact hr
      | refused => exact hr
      | failed => exact hr
      | @stored own => exact settle_founded hone hr hq own fun b hb => hf q own rest b hp hb
    refine ⟨fun casing u b hu hb h => ?_, answer_founded hw fun s hs => ?_⟩
    · simp only [Registry.contains, find?_answer] at h ⊢
      exact hr' casing u b hu hb h
    · exact Registry.contains_iff.2 ⟨s, ha.settled.2 s hs⟩

end Thread

namespace Machine

/-- The base of every type that is stored, or about to be, is stored. -/
structure Founded (serves : Layout → Prop) (m : Machine) : Prop where
  upholds : m.Upholds serves fun q a => a = KeyMap.build q.casing q.layout
  registry : m.registry.Founded serves
  threads : ∀ t ∈ m.threads, t.Founded m.registry

theorem step_founded (hone : Layout.OneEach serves) (m : Machine) (i : Nat)
    (hm : m.Founded serves) : (m.step i).Founded serves := by
  have hupholds := step_upholds hone.build_hereditary m i hm.upholds
  unfold step at hupholds ⊢
  cases hi : m.threads[i]? with
  | none => exact hm
  | some u =>
    rw [hi] at hupholds
    have hu := List.mem_of_getElem? hi
    obtain ⟨hr, hf⟩ :=
      Thread.step_founded hone (hm.upholds.threads u hu) hm.registry (hm.threads u hu)
    refine ⟨hupholds, hr, fun t ht => ?_⟩
    rcases List.mem_or_eq_of_mem_set ht with ht | rfl
    · exact (hm.threads t ht).mono (u.extends_step m.registry)
    · exact hf

theorem start_founded {requests : List (List Request)}
    (hq : ∀ todo ∈ requests, ∀ q ∈ todo, serves q.layout) :
    (start .empty requests).Founded serves where
  upholds := start_upholds empty_upholds hq
  registry casing t b _ _ h := by simp [Registry.contains, start] at h
  threads t ht := by
    obtain ⟨todo, -, rfl⟩ := List.mem_map.1 ht
    intro q own rest b hp
    cases hp

end Machine

namespace Registry

/-- A request leaves the base of every stored type stored. -/
theorem Founded.resolve (hone : Layout.OneEach serves) {r : Registry}
    (hr : r.Upholds serves fun q a => a = KeyMap.build q.casing q.layout) (hf : r.Founded serves)
    (ht : serves t) (casing : Casing) : (r.resolve casing t).registry.Founded serves := by
  let begun : Thread := ⟨[], [⟨⟨t, casing⟩, .looking⟩], [], []⟩
  have hbegun : begun.Upholds serves fun q a => a = KeyMap.build q.casing q.layout :=
    ⟨nofun, ⟨ht, trivial, trivial⟩, nofun, nofun⟩
  obtain ⟨t', -, halone⟩ := r.alone_resolve casing t (t := begun) rfl
  -- the last step gives the answer, and before it the thread has only taken steps of its own
  have hsteps (p : Thread × Registry) (hp : Thread.Alone (begun, r) p) :
      p.2.Founded serves ∧ p.1.Founded p.2 := by
    induction hp with
    | refl => exact ⟨hf, fun q own rest b hp => by cases hp⟩
    | tail hp hnext ih =>
      obtain ⟨-, hupholds⟩ := Thread.Alone.upholds hone.build_hereditary hp hr hbegun
      rw [Thread.Next] at hnext
      rw [hnext]
      exact Thread.step_founded hone hupholds ih.1 ih.2
  exact (hsteps _ halone).1

/-- In a registry that threads and requests leave behind, the base of every stored type is
stored. -/
theorem Reached.founded (hone : Layout.OneEach serves) {r : Registry} (hr : r.Reached serves) :
    r.Founded serves := by
  induction hr with
  | run schedule served =>
    exact (Machine.run_preserves (Machine.step_founded hone) (Machine.start_founded served)
      schedule).registry
  | resolve casing reached served ih =>
    exact ih.resolve hone (reached.upholds hone.build_hereditary) served casing

/-! ## Requests by way of the base -/

section Resolve

variable {r : Registry} {b : Layout} {s : Shared} {fault : Fault}

theorem resolve_of_hit (h : r.find? casing t.id = some s) :
    r.resolve casing t = ⟨.ok s, r, [.hit t.name casing]⟩ := by
  cases t with
  | root l => rw [resolve, show r.find? casing l.id = some s from h]; rfl
  | embedding l field base => rw [resolve, show r.find? casing l.id = some s from h]; rfl

theorem resolve_of_refused (h : r.find? casing t.id = none) (hr : t.refusal? casing = some fault) :
    r.resolve casing t = ⟨.error fault, r, []⟩ := by
  cases t with
  | root l => rw [resolve, show r.find? casing l.id = none from h, hr]
  | embedding l field base => rw [resolve, show r.find? casing l.id = none from h, hr]

theorem resolve_of_alone (h : r.find? casing t.id = none) (hr : t.refusal? casing = none)
    (hb : t.base? = none) : r.resolve casing t = r.supply casing t none := by
  cases t with
  | root l => rw [resolve, show r.find? casing l.id = none from h, hr]
  | embedding l field base => cases hb

theorem resolve_of_failed (h : r.find? casing t.id = none) (hr : t.refusal? casing = none)
    (hb : t.base? = some b) (ha : (r.resolve casing b).answer = .error fault) :
    r.resolve casing t = r.resolve casing b := by
  cases t with
  | root l => cases hb
  | embedding l field base =>
    cases hb
    rw [resolve, show r.find? casing l.id = none from h, hr]
    simp only [ha]
    rw [← ha]

theorem resolve_of_answered (h : r.find? casing t.id = none) (hr : t.refusal? casing = none)
    (hb : t.base? = some b) (ha : (r.resolve casing b).answer = .ok s) :
    let own := (r.resolve casing b).registry.supply casing t (some s.map)
    r.resolve casing t = { own with events := (r.resolve casing b).events ++ own.events } := by
  cases t with
  | root l => cases hb
  | embedding l field base =>
    cases hb
    rw [resolve, show r.find? casing l.id = none from h, hr]
    simp only [ha]

end Resolve

/-! ## What is added -/

@[simp] theorem shelf_mint (r : Registry) (m : KeyMap) (casing : Casing) :
    (r.mint m).2.shelf casing = r.shelf casing := by
  cases casing <;> rfl

theorem shelf_add_self (r : Registry) (casing : Casing) (id : TypeId) (s : Shared) :
    (r.add casing id s).shelf casing = (r.shelf casing).put id s := by
  cases casing <;> rfl

theorem shelf_add_of_ne {casing other : Casing} (h : other ≠ casing) (r : Registry) (id : TypeId)
    (s : Shared) : (r.add casing id s).shelf other = r.shelf other := by
  cases casing <;> cases other <;> first | rfl | exact absurd rfl h

/-- Those of some levels that are not stored. -/
def missing (r : Registry) (casing : Casing) (levels : List Layout) : List Layout :=
  levels.filter fun u => !r.contains casing u

theorem missing_of_contains {r : Registry} {levels : List Layout}
    (h : ∀ u ∈ levels, r.contains casing u) : r.missing casing levels = [] :=
  List.filter_eq_nil_iff.2 fun u hu => by simp [h u hu]

theorem missing_cons {r : Registry} (h : r.find? casing t.id = none) (levels : List Layout) :
    r.missing casing (t :: levels) = t :: r.missing casing levels :=
  List.filter_cons_of_pos (by simp [contains, h])

/-- A registry is another one with those of some levels that were missing stored in one casing, each
under its identity and with its own key map, those that come last in the list first. -/
structure Gains (r r' : Registry) (casing : Casing) (levels : List Layout) : Prop where
  other : ∀ c, c ≠ casing → r'.shelf c = r.shelf c
  added : ∃ rows : Rows TypeId Shared, r'.shelf casing = r.shelf casing ++ rows ∧
    List.Forall₂ (fun u row => row.1 = u.id ∧ KeyMap.build casing u = .ok row.2.map)
      (r.missing casing levels).reverse rows

theorem Gains.of_contains {r : Registry} {levels : List Layout}
    (h : ∀ u ∈ levels, r.contains casing u) : r.Gains r casing levels where
  other _ _ := rfl
  added := ⟨[], (List.append_nil _).symm, by rw [missing_of_contains h]; exact .nil⟩

theorem Gains.keys {r r' : Registry} {levels : List Layout} (h : r.Gains r' casing levels) :
    (r'.shelf casing).keys =
      (r.shelf casing).keys ++ ((r.missing casing levels).map (·.id)).reverse := by
  obtain ⟨rows, hshelf, hrows⟩ := h.added
  have hids : List.Forall₂ (· = ·) ((r.missing casing levels).reverse.map (·.id)) (rows.map (·.1)) :=
    List.forall₂_map_left_iff.2 (List.forall₂_map_right_iff.2 (hrows.imp fun _ _ h => h.1.symm))
  rw [List.forall₂_eq_eq_eq] at hids
  rw [hshelf, Rows.keys_append, ← List.map_reverse, hids]
  rfl

/-- What is not stored for any of the levels is not stored afterwards. -/
theorem Gains.find?_of_ne {r r' : Registry} {levels : List Layout} (h : r.Gains r' casing levels)
    {id : TypeId} (hne : ∀ u ∈ levels, u.id ≠ id) (hid : r.find? casing id = none) :
    r'.find? casing id = none := by
  unfold find? at hid ⊢
  rw [Rows.get?_eq_none_iff] at hid ⊢
  rw [h.keys, List.mem_append, List.mem_reverse, List.mem_map]
  rintro (hmem | ⟨u, hu, rfl⟩)
  · exact hid hmem
  · exact hne u (List.mem_of_mem_filter hu) rfl

theorem Gains.extends {r r' : Registry} {levels : List Layout} (h : r.Gains r' casing levels) :
    r.Extends r' := by
  intro c id s hs
  by_cases hc : c = casing
  · subst hc
    obtain ⟨rows, hshelf, -⟩ := h.added
    obtain ⟨row, hrow, rfl⟩ := Option.map_eq_some_iff.1 hs
    rw [find?, hshelf, Rows.get?, List.find?_append, hrow]
    rfl
  · rw [find?, h.other c hc]; exact hs

/-- A level that was missing is stored once those above it are. -/
theorem Gains.cons {r r' r'' : Registry} {levels : List Layout} {s : Shared}
    (h : r.Gains r' casing levels) (ht : r.find? casing t.id = none)
    (hs : KeyMap.build casing t = .ok s.map)
    (hshelf : r''.shelf casing = r'.shelf casing ++ [(t.id, s)])
    (hother : ∀ c, c ≠ casing → r''.shelf c = r'.shelf c) : r.Gains r'' casing (t :: levels) where
  other c hc := (hother c hc).trans (h.other c hc)
  added := by
    obtain ⟨rows, hrows, hadded⟩ := h.added
    refine ⟨rows ++ [(t.id, s)], by rw [hshelf, hrows, List.append_assoc], ?_⟩
    rw [missing_cons ht, List.reverse_cons]
    exact List.rel_append hadded (.cons ⟨rfl, hs⟩ .nil)

end Registry

/-! ## The level at which a name is repeated -/

namespace Layout

/-- If no key of the base repeats another, the first that does is declared by the type itself. -/
theorem FirstClash.rank_eq_zero {first second : Listed} (h : t.FirstClash casing first second)
    (hbase : ∀ b, t.base? = some b → (b.listing.map (·.key casing)).Nodup) : second.rank = 0 := by
  obtain ⟨before, after, hsplit, -, hmem, hkey⟩ := h
  have hown : second ∈ t.ownListing 0 := by
    cases t with
    | root l => rw [← listing_root, hsplit]; simp
    | embedding l field base =>
      rw [listing_embedding] at hsplit
      have hraised : ((base.listing.map Listed.raise).map (·.key casing)).Nodup := by
        rw [List.map_map]; exact hbase base rfl
      -- the part before the repetition is not shorter than what the base lists
      have hle : (base.listing.map Listed.raise).length ≤ before.length :=
        Nat.le_of_not_lt fun hlt => not_nodup_of_repeat hsplit.symm hlt hmem hkey hraised
      rcases List.append_eq_append_iff.1 hsplit with ⟨mid, -, htail⟩ | ⟨mid, hmid, htail⟩
      · rw [htail]; simp
      · have hnil : mid = [] := by
          rw [hmid, List.length_append] at hle
          exact List.length_eq_zero_iff.1 (by omega)
        rw [hnil, List.nil_append] at htail
        rw [← htail]; exact List.mem_cons_self
  exact (mem_ownListing.1 hown).1

theorem refusal?_cases {fault : Fault} (h : t.refusal? casing = some fault) :
    (∃ type, fault = .foldedEnum type) ∨ ∃ type field base, fault = .enumBase type field base := by
  unfold refusal? at h
  split at h
  · exact .inl ⟨_, (Option.some.inj h).symm⟩
  · split at h
    · cases h
    · split at h
      · exact .inr ⟨_, _, _, (Option.some.inj h).symm⟩
      · cases h

end Layout

/-- A type that is not refused, whose base has a key map, can only fail for a name of its own that is
repeated. -/
theorem KeyMap.build_error_of_base (hr : t.refusal? casing = none)
    (hbase : ∀ b, t.base? = some b → ∃ m, build casing b = .ok m) {fault : Fault}
    (h : build casing t = .error fault) :
    ∃ first second, t.FirstClash casing first second ∧ second.rank = 0 ∧
      fault = .sameName second.owner.name (second.key casing)
        ⟨first.owner.name, first.member.name⟩ ⟨second.owner.name, second.member.name⟩ casing := by
  obtain ⟨hfold, hform⟩ := Layout.refusal?_eq_none_iff.1 hr
  have hbases : ∀ u ∈ t.chain.tail, u.isEnum = false := by
    cases t with
    | root l => exact nofun
    | embedding l field base =>
      intro u hu
      rw [Layout.chain_embedding, List.tail_cons, Layout.chain_eq_cons] at hu
      rcases List.mem_cons.1 hu with rfl | hu
      · exact hform _ rfl
      · exact ((build_isOk_iff base).1 (hbase base rfl)).2.1 u hu
  have hkeys : ¬ (t.listing.map (·.key casing)).Nodup := fun hn => by
    obtain ⟨m, hm⟩ := (build_isOk_iff t).2 ⟨hfold, hbases, hn⟩
    rw [hm] at h; cases h
  obtain ⟨first, second, hclash, hfault⟩ := build_of_clash hfold hbases hkeys
  rw [hfault] at h
  cases h
  exact ⟨first, second, hclash,
    hclash.rank_eq_zero fun b hb => ((build_isOk_iff b).1 (hbase b hb)).2.2, rfl⟩

/-! ## What a request leaves behind -/

namespace Registry

/-- The registry that a request leaves behind, by its outcome. -/
inductive Leaves (r : Registry) (casing : Casing) (t : Layout) :
    Except Fault KeyMap → Registry → Prop
  /-- All levels are stored. -/
  | answered {m : KeyMap} {r' : Registry} (gains : r.Gains r' casing t.chain) :
    Leaves r casing t (.ok m) r'
  /-- The levels above the one that repeats a name are stored. It and those below it have no key
  map. -/
  | clash {first second : Listed} {r' : Registry} (clash : t.FirstClash casing first second)
    (gains : r.Gains r' casing (t.chain.drop (second.rank + 1)))
    (failed : ∀ u ∈ t.chain.take (second.rank + 1), ∀ m, KeyMap.build casing u ≠ .ok m) :
    Leaves r casing t (.error (.sameName second.owner.name (second.key casing)
      ⟨first.owner.name, first.member.name⟩ ⟨second.owner.name, second.member.name⟩ casing)) r'
  | foldedEnum {type : String} : Leaves r casing t (.error (.foldedEnum type)) r
  | enumBase {type field base : String} :
    Leaves r casing t (.error (.enumBase type field base)) r

theorem Leaves.of_refused {r : Registry} {fault : Fault} (h : t.refusal? casing = some fault) :
    r.Leaves casing t (.error fault) r := by
  rcases Layout.refusal?_cases h with ⟨type, rfl⟩ | ⟨type, field, base, rfl⟩
  · exact .foldedEnum
  · exact .enumBase

/-- A request that fails with the one for the base leaves behind what that one leaves. -/
theorem Leaves.embed {r r' : Registry} {b : Layout} {fault : Fault} (hb : t.base? = some b)
    (h : r.Leaves casing b (.error fault) r') (hfault : KeyMap.build casing t = .error fault) :
    r.Leaves casing t (.error fault) r' := by
  cases t with
  | root l => cases hb
  | embedding l field base =>
    cases hb
    cases h with
    | @clash first second _ hclash hgains hfailed =>
      refine @Leaves.clash r casing _ first.raise second.raise r' hclash.embed hgains ?_
      intro u hu m hm
      rcases List.mem_cons.1 hu with rfl | hu
      · rw [hfault] at hm; cases hm
      · exact hfailed u hu m hm
    | foldedEnum => exact .foldedEnum
    | enumBase => exact .enumBase

/-- A request that supplies its type stores it unless it fails for a name of its own, once those
above it are stored. -/
theorem Leaves.supply {r r' : Registry} {base : Option KeyMap}
    (hgains : r.Gains r' casing t.chain.tail) (hnone : r.find? casing t.id = none)
    (hne : ∀ u ∈ t.chain.tail, u.id ≠ t.id) (hr : t.refusal? casing = none)
    (hbase : ∀ b, t.base? = some b → ∃ m, KeyMap.build casing b = .ok m)
    (hc : KeyMap.complete t casing base = KeyMap.build casing t) :
    r.Leaves casing t (KeyMap.build casing t) (r'.supply casing t base).registry := by
  unfold Registry.supply
  cases hb : KeyMap.build casing t with
  | error fault =>
    obtain ⟨first, second, hclash, hrank, rfl⟩ := KeyMap.build_error_of_base hr hbase hb
    rw [hc, hb]
    refine .clash hclash ?_ ?_
    · rw [hrank, List.drop_one]; exact hgains
    · rw [hrank, Layout.chain_eq_cons]
      intro u hu m hm
      rw [List.mem_singleton.1 hu, hb] at hm; cases hm
  | ok m =>
    have hmissing : (r'.mint m).2.find? casing t.id = none := by
      rw [find?_mint]; exact hgains.find?_of_ne hne hnone
    have hsettle : (r'.mint m).2.settle casing t.id (r'.mint m).1 =
        ((r'.mint m).1, (r'.mint m).2.add casing t.id (r'.mint m).1) := by
      rw [settle, hmissing]
    rw [hc, hb]
    refine .answered ?_
    rw [Layout.chain_eq_cons]
    simp only [hsettle]
    refine hgains.cons (s := (r'.mint m).1) hnone hb ?_ fun c hc => ?_
    · rw [shelf_add_self, shelf_mint]
      unfold find? at hmissing
      rw [shelf_mint] at hmissing
      exact Rows.put_of_not_mem (Rows.get?_eq_none_iff.1 hmissing) _
    · rw [shelf_add_of_ne hc, shelf_mint]

/-- A request leaves behind what its outcome says, if the one for the base does. -/
theorem resolve_leaves_of_base (hone : Layout.OneEach serves) {r : Registry}
    (hr : r.Upholds serves fun q a => a = KeyMap.build q.casing q.layout) (hf : r.Founded serves)
    (ht : serves t) (hbase : ∀ b, t.base? = some b →
      r.Leaves casing b (KeyMap.build casing b) (r.resolve casing b).registry) :
    r.Leaves casing t (KeyMap.build casing t) (r.resolve casing t).registry := by
  cases hs : r.find? casing t.id with
  | some s =>
    have hm : KeyMap.build casing t = .ok s.map :=
      (hr.find hone.build_hereditary (q := ⟨t, casing⟩) ht hs).symm
    rw [resolve_of_hit hs, hm]
    exact .answered (.of_contains (hf.chain hone ht (contains_iff.2 ⟨s, hs⟩)))
  | none =>
    cases href : t.refusal? casing with
    | some fault =>
      rw [resolve_of_refused hs href, KeyMap.build_of_refused href]
      exact .of_refused href
    | none =>
      cases hb : t.base? with
      | none =>
        rw [resolve_of_alone hs href hb]
        have htail : t.chain.tail = [] := by rw [Layout.chain_of_alone hb]; rfl
        refine .supply (.of_contains ?_) hs ?_ href ?_ (KeyMap.build_of_alone href hb).symm
        · rw [htail]; exact nofun
        · rw [htail]; exact nofun
        · rw [hb]; exact nofun
      | some b =>
        have habove : (r.resolve casing b).answer.map (·.map) = KeyMap.build casing b :=
          (hr.resolve hone.build_hereditary (hone.base ht hb) casing).1
        have hleaves := hbase b hb
        cases ha : (r.resolve casing b).answer with
        | error fault =>
          rw [ha] at habove
          have hfault := KeyMap.build_of_failed href hb habove.symm
          rw [resolve_of_failed hs href hb ha, hfault]
          rw [← habove] at hleaves
          exact hleaves.embed hb hfault
        | ok s =>
          rw [ha] at habove
          rw [← habove] at hleaves
          rw [resolve_of_answered hs href hb ha]
          have htail : t.chain.tail = b.chain := by rw [Layout.chain_of_base hb]; rfl
          cases hleaves with
          | answered hgains =>
            refine .supply (htail ▸ hgains) hs (fun u hu => hone.id_ne ht hu) href ?_
              (KeyMap.build_of_built href hb habove.symm).symm
            intro b' hb'
            rw [hb] at hb'
            cases hb'
            exact ⟨_, habove.symm⟩

/-- A request leaves behind what its outcome says. -/
theorem resolve_leaves (hone : Layout.OneEach serves) {r : Registry}
    (hr : r.Upholds serves fun q a => a = KeyMap.build q.casing q.layout) (hf : r.Founded serves)
    (ht : serves t) (casing : Casing) :
    r.Leaves casing t (KeyMap.build casing t) (r.resolve casing t).registry := by
  induction t with
  | root l => exact resolve_leaves_of_base hone hr hf ht nofun
  | embedding l field base ih =>
    refine resolve_leaves_of_base hone hr hf ht fun b hb => ?_
    cases hb
    exact ih (hone.base ht rfl)

theorem Leaves.gains {r r' : Registry} {a : Except Fault KeyMap} (h : r.Leaves casing t a r') :
    ∃ levels, r.Gains r' casing levels := by
  cases h with
  | answered hgains => exact ⟨_, hgains⟩
  | clash _ hgains _ => exact ⟨_, hgains⟩
  | foldedEnum => exact ⟨[], .of_contains nofun⟩
  | enumBase => exact ⟨[], .of_contains nofun⟩

/-- A fault of form leaves the registry as it was. -/
theorem Leaves.eq_of_form {r r' : Registry} {fault : Fault} (h : r.Leaves casing t (.error fault) r')
    (hform : (∃ type, fault = .foldedEnum type) ∨
      ∃ type field base, fault = .enumBase type field base) : r' = r := by
  rcases hform with ⟨type, rfl⟩ | ⟨type, field, base, rfl⟩ <;> cases h <;> rfl

/-- A type that is stored has a key map. -/
theorem Reached.build_of_contains (hone : Layout.OneEach serves) {r : Registry}
    (hr : r.Reached serves) (ht : serves t) (h : r.contains casing t) :
    ∃ m, KeyMap.build casing t = .ok m := by
  obtain ⟨s, hs⟩ := contains_iff.1 h
  exact ⟨s.map, ((hr.upholds hone.build_hereditary).find hone.build_hereditary
    (q := ⟨t, casing⟩) ht hs).symm⟩

/-- What a request adds, if every identity belongs to one layout. Nothing that is stored is replaced
or removed, and the other casing is left alone. A request that is answered adds those levels of the
chain that were missing. If a name is repeated, the request adds those of the levels above the one
that repeats it, which is the one that the fault names; that level and those below it are never
stored. If the form of a type is the fault, nothing is added. In every registry that threads and
requests leave behind, a stored type is stored with its whole chain and has a key map. -/
theorem resolve_adds (hone : Layout.OneEach serves) {r : Registry} (hr : r.Reached serves)
    {t : Layout} (ht : serves t) (casing : Casing) :
    let reply := r.resolve casing t
    r.Extends reply.registry ∧
    (∀ other, other ≠ casing → reply.registry.shelf other = r.shelf other) ∧
    (∀ s, reply.answer = .ok s → r.Gains reply.registry casing t.chain) ∧
    (∀ type name a b c, reply.answer = .error (.sameName type name a b c) →
      ∃ first second : Listed, t.FirstClash casing first second ∧
        t.chain[second.rank]? = some second.owner ∧ type = second.owner.name ∧
        r.Gains reply.registry casing (t.chain.drop (second.rank + 1)) ∧
        ∀ u ∈ t.chain.take (second.rank + 1), ∀ r' : Registry, r'.Reached serves →
          r'.contains casing u = false) ∧
    (∀ type, reply.answer = .error (.foldedEnum type) → reply.registry = r) ∧
    (∀ type field base, reply.answer = .error (.enumBase type field base) → reply.registry = r) ∧
    ∀ c u, serves u → r.contains c u →
      (∀ w ∈ u.chain, r.contains c w) ∧ ∃ m, KeyMap.build c u = .ok m := by
  intro reply
  have hanswer : reply.answer.map (·.map) = KeyMap.build casing t := hr.answer_eq_build hone ht casing
  have hleaves := resolve_leaves hone (hr.upholds hone.build_hereditary) (hr.founded hone) ht casing
  obtain ⟨levels, hgains⟩ := hleaves.gains
  rw [← hanswer] at hleaves
  refine ⟨hgains.extends, hgains.other, fun s hs => ?_, fun type name a b c ha => ?_,
    fun type ha => ?_, fun type field base ha => ?_, fun c u hu hc => ?_⟩
  · rw [hs] at hleaves
    cases hleaves with
    | answered hgains => exact hgains
  · rw [ha] at hleaves
    cases hleaves with
    | @clash first second _ hclash hgains hfailed =>
      have hmem : second ∈ t.listing := by
        obtain ⟨before, after, hsplit, -⟩ := hclash
        rw [hsplit]; simp
      refine ⟨first, second, hclash, (Layout.mem_listing.1 hmem).1, rfl, hgains, fun u hu r' hr' => ?_⟩
      rw [Bool.eq_false_iff]
      intro hc
      obtain ⟨m, hm⟩ := hr'.build_of_contains hone
        (hone.chain ht (List.mem_of_mem_take hu)) hc
      exact hfailed u hu m hm
  · rw [ha] at hleaves
    exact hleaves.eq_of_form (.inl ⟨type, rfl⟩)
  · rw [ha] at hleaves
    exact hleaves.eq_of_form (.inr ⟨type, field, base, rfl⟩)
  · exact ⟨(hr.founded hone).chain hone hu hc, hr.build_of_contains hone hu hc⟩

/-- A request that fails for the name that the base repeats leaves the root of the chain behind. -/
theorem resolve_adds_reminder :
    let serves := (· ∈ KeyMap.sampleReminder.chain)
    let reply := Registry.empty.resolve .folded KeyMap.sampleReminder
    Layout.OneEach serves ∧ Registry.empty.Reached serves ∧ serves KeyMap.sampleReminder ∧
      reply.answer = .error (.sameName "Invoice" (some "id") ⟨"Entity", "id"⟩ ⟨"Invoice", "Id"⟩ .folded) ∧
      Registry.empty.Gains reply.registry .folded [KeyMap.sampleEntity] ∧
      reply.registry.shelf .exact = [] := by
  intro serves reply
  have hone : Layout.OneEach serves := .of_chain (by decide)
  have hserved : serves KeyMap.sampleReminder := KeyMap.sampleReminder.self_mem_chain
  have hanswer : reply.answer = .error (.sameName "Invoice" (some "id") ⟨"Entity", "id"⟩
      ⟨"Invoice", "Id"⟩ .folded) := by decide +kernel
  obtain ⟨-, hother, -, hclash, -⟩ := resolve_adds hone .empty hserved .folded
  obtain ⟨first, second, -, hlevel, hname, hgains, -⟩ := hclash _ _ _ _ _ hanswer
  -- of the three levels only the one in the middle has the name
  have hrank : second.rank = 1 := by
    match hk : second.rank with
    | 0 =>
      rw [hk] at hlevel
      rw [← Option.some.inj (show some KeyMap.sampleReminder = some second.owner from hlevel)] at hname
      revert hname; decide
    | 1 => rfl
    | 2 =>
      rw [hk] at hlevel
      rw [← Option.some.inj (show some KeyMap.sampleEntity = some second.owner from hlevel)] at hname
      revert hname; decide
    | k + 3 => rw [hk] at hlevel; cases hlevel
  rw [hrank] at hgains
  exact ⟨hone, .empty, hserved, hanswer, hgains, hother .exact (by decide)⟩

end Registry

end RecordKeys
