/-
The key map of a type as seen from the types that embed it. All keys of a base are keys of the type,
each the same member at the end of a longer path. So a key of a base that is read in an instance of
the type is read in the base that the instance holds; and what is offered to it there is taken or
handed back as the base would take it or hand it back, and the instance afterwards is the old one
with that base in place of the old base.

One step of a build gives this for the type and its base, whoever answers for the base; the paths of
several steps are put together along the chain.
-/
import RecordKeys.Proofs.KeyMap.Flattening
import RecordKeys.Proofs.Value.Bases

namespace RecordKeys

/-! ## One key -/

/-- What is left of an offer to a part of an instance, with the part back in its place. -/
def Replacement.within (r : Replacement) (v : Value) (path : List Link) : Replacement :=
  { r with after := v.graft path r.after }

namespace Entry

/-- The same key, seen from a type at the other end of a path to its owner. -/
def behind (path : List Link) (e : Entry) : Entry := { e with path := path ++ e.path }

theorem behind_behind (path rest : List Link) (e : Entry) :
    (e.behind rest).behind path = e.behind (path ++ rest) := by
  simp [behind]

theorem get_behind (path : List Link) (e : Entry) (v : Value) :
    (e.behind path).get v = (v.follow path).bind e.get := by
  unfold get behind
  cases e.member.access with
  | slot i => simp only [Value.follow_append, Option.bind_assoc]
  | sealed => simp
  | variant i => simp

theorem revise_behind {α : Type} (f : Datum → Option (α × Datum)) (path : List Link) (e : Entry)
    (v : Value) :
    (e.behind path).revise f v =
      (v.follow path).bind fun part =>
        (e.revise f part).map fun (a, new) => (a, v.graft path new) := by
  unfold revise behind
  cases e.member.access with
  | slot i => exact Value.reviseAlong_append ..
  | sealed => simp
  | variant i => simp

theorem assign_behind (path : List Link) (e : Entry) (v : Value) (d : Datum) :
    (e.behind path).assign v d =
      (v.follow path).bind fun part =>
        (e.assign part d).map fun (done, new) => (done, v.graft path new) :=
  revise_behind ..

theorem replace_behind (path : List Link) (e : Entry) (v : Value) (d : Datum) :
    (e.behind path).replace v d =
      match v.follow path with
      | none => ⟨false, d, v⟩
      | some part => (e.replace part d).within v path := by
  simp only [replace, revise_behind]
  cases hpart : v.follow path with
  | none => rfl
  | some part =>
    simp only [Option.bind_some]
    cases e.revise _ part with
    | none => simp only [Option.map_none, Replacement.within, Value.graft_follow hpart]
    | some p => rfl

end Entry

/-! ## Key maps -/

namespace KeyMap

/-- A key map shows all the keys of another one, that of the type at the end of a path. -/
structure Mirrors (m base : KeyMap) (path : List Link) : Prop where
  names : ∀ n ∈ base.names, n ∈ m.names
  /-- A name that the base finds is found with the same member, further away. -/
  lookup : ∀ n e, base.lookup n = some e → m.lookup n = some (e.behind path)
  /-- To read a key is to read it in the base that the instance holds. -/
  get : ∀ n e, base.lookup n = some e → ∀ v : Value,
    (m.lookup n).bind (·.get v) = (v.follow path).bind e.get
  /-- To offer a value to a key is to offer it to the base, if the instance holds one; the instance
  has that base in its place afterwards. -/
  replace : ∀ n e e', base.lookup n = some e → m.lookup n = some e' → ∀ (v : Value) (d : Datum),
    e'.replace v d =
      match v.follow path with
      | none => ⟨false, d, v⟩
      | some part => (e.replace part d).within v path
  /-- Nothing else has changed: the base is what the offer has made of it, and the levels before it
  have the contents that they had. -/
  after : ∀ n e e', base.lookup n = some e → m.lookup n = some e' → ∀ (v : Value) (d : Datum) part,
    v.follow path = some part →
      (e'.replace v d).after.follow path = some (e.replace part d).after ∧
      ∀ k i, k < path.length → (e'.replace v d).after.cell? k i = v.cell? k i
  /-- The same goes for a value that is stored in place. -/
  assign : ∀ n e e', base.lookup n = some e → m.lookup n = some e' → ∀ (v : Value) (d : Datum),
    e'.assign v d = (v.follow path).bind fun part =>
      (e.assign part d).map fun (done, new) => (done, v.graft path new)

/-- That the names are there and lead to the same members is enough. -/
theorem Mirrors.of_lookup {m base : KeyMap} {path : List Link}
    (names : ∀ n ∈ base.names, n ∈ m.names)
    (lookup : ∀ n e, base.lookup n = some e → m.lookup n = some (e.behind path)) :
    m.Mirrors base path where
  names := names
  lookup := lookup
  get n e he v := by rw [lookup n e he, Option.bind_some, Entry.get_behind]
  replace n e e' he he' v d := by
    cases (lookup n e he).symm.trans he'
    exact Entry.replace_behind path e v d
  after n e e' he he' v d part hpart := by
    cases (lookup n e he).symm.trans he'
    rw [Entry.replace_behind, hpart]
    exact ⟨Value.follow_graft hpart _, fun k i hk => Value.cell?_graft hpart _ hk i⟩
  assign n e e' he he' v d := by
    cases (lookup n e he).symm.trans he'
    exact Entry.assign_behind path e v d

theorem Mirrors.refl (m : KeyMap) : m.Mirrors m [] := .of_lookup (fun _ h => h) fun _ _ h => h

theorem Mirrors.trans {m base root : KeyMap} {path rest : List Link} (h : m.Mirrors base path)
    (h' : base.Mirrors root rest) : m.Mirrors root (path ++ rest) :=
  .of_lookup (fun n hn => h.names n (h'.names n hn)) fun n e he => by
    rw [← Entry.behind_behind]; exact h.lookup n _ (h'.lookup n e he)

variable {casing : Casing}

/-- Whatever the key map that a type is completed from, its keys are keys of the type. -/
theorem complete_mirrors {t : Layout} {link : Link} (hlink : t.link? = some link)
    {base m : KeyMap} (hbase : base.toIndex.WF) (hcasing : base.casing = casing)
    (h : complete t casing (some base) = .ok m) : m.Mirrors base [link] := by
  obtain ⟨-, hm, he⟩ := complete_eq_ok_iff.1 h
  have hinherited : inherited t (some base) = seed link base := by simp only [inherited, hlink]
  rw [hinherited] at he
  obtain ⟨hfiled, hwf⟩ := enrol_spec (seed_wf hbase link) he
  rw [filed_seed hbase.nodup] at hfiled
  refine .of_lookup (fun n hn => ?_) fun n e hlookup => ?_
  · rw [hwf.mem_names, hfiled, Rows.keys_append, keys_map_through]
    exact List.mem_append_left _ ((hbase.mem_names n).1 hn)
  · unfold lookup find? at hlookup ⊢
    rw [hcasing, Rows.get?_eq_some_iff hbase.nodup] at hlookup
    rw [hm, Rows.get?_eq_some_iff hwf.nodup, hfiled]
    exact List.mem_append_left _ (List.mem_map_of_mem (f := through link) hlookup)

theorem build_mirrors_chain {t : Layout} {m : KeyMap} (h : build casing t = .ok m) {k : Nat}
    {u : Layout} (hu : t.chain[k]? = some u) :
    ∃ base, build casing u = .ok base ∧ m.Mirrors base (t.links.take k) := by
  induction t generalizing m k with
  | root l =>
    cases k with
    | zero => cases hu; exact ⟨m, h, .refl m⟩
    | succ k => simp at hu
  | embedding l field base ih =>
    cases k with
    | zero => cases hu; exact ⟨m, h, .refl m⟩
    | succ k =>
      obtain ⟨-, b, hb, hcomplete⟩ := complete_of_build_embedding h
      obtain ⟨-, hcasing, -, hwf⟩ := build_spec hb
      obtain ⟨root, hroot, hmirrors⟩ := ih hb hu
      exact ⟨root, hroot, (complete_mirrors rfl hwf hcasing hcomplete).trans hmirrors⟩

/-- A type shows its bases. A build that succeeds shows the keys of the base that answered for it,
behind the step to it, provided that the answer was a key map in the same casing; and if each base
is built from its own declaration, every base of the chain has a key map and is shown at the end of
the steps that lead to it. -/
theorem build_mirrors (casing : Casing) (t : Layout) :
    (∀ answer m base b link, buildVia answer t casing = .ok m → t.base? = some base →
      t.link? = some link → answer base casing = .ok b → b.toIndex.WF → b.casing = casing →
      m.Mirrors b [link]) ∧
    ∀ m, build casing t = .ok m → ∀ k u, t.chain[k]? = some u →
      ∃ b, build casing u = .ok b ∧ m.Mirrors b (t.links.take k) := by
  refine ⟨fun answer m base b link h hbase hlink hb hwf hcasing => ?_,
    fun m h k u hu => build_mirrors_chain h hu⟩
  cases t with
  | root l => cases hbase
  | embedding l field above =>
    cases hbase
    unfold buildVia at h
    cases hr : (Layout.embedding l field base).refusal? casing with
    | some fault => simp only [hr] at h; cases h
    | none =>
      simp only [hr, hb] at h
      exact complete_mirrors hlink hwf hcasing h

/-! ## A base two steps away -/

/-- The root of a chain. -/
def samplePlace : Layout :=
  .root ⟨"Place", 1, .record, [⟨"city", none, {}, "alloc::string::String", .slot 0, []⟩], []⟩

/-- A type that embeds another, which embeds the root. -/
def sampleHouse : Layout :=
  .embedding ⟨"House", 3, .record, [⟨"rooms", none, {}, "u32", .slot 0, []⟩], []⟩ "building"
    (.embedding ⟨"Building", 2, .record, [⟨"height", none, {}, "u32", .slot 0, []⟩], []⟩ "place"
      samplePlace)

/-- An instance of the type, with its bases. -/
def sampleHome : Value :=
  .embedding 3 (.slots [some (.u32 4)])
    (.embedding 2 (.slots [some (.u32 9)]) (.root 1 (.slots [some (.string "Bath")])))

theorem build_mirrors_house :
    ∃ m b e, build .exact sampleHouse = .ok m ∧ build .exact samplePlace = .ok b ∧
      b.lookup (some "city") = some e ∧
      m.lookup (some "city") = some (e.behind [⟨3, "building"⟩, ⟨2, "place"⟩]) ∧
      (m.lookup (some "city")).bind (·.get sampleHome) = some (.string "Bath") ∧
      (m.lookup (some "city")).bind (·.get (.root 3 (.slots [some (.u32 4)]))) = none := by
  have hbuild : ∃ m, build .exact sampleHouse = .ok m := ⟨_, rfl⟩
  obtain ⟨m, hm⟩ := hbuild
  obtain ⟨b, hb, hmirrors⟩ := (build_mirrors .exact sampleHouse).2 m hm 2 samplePlace rfl
  have hcity : ∃ e, b.lookup (some "city") = some e ∧
      ∀ v, e.get v = v.slot? 1 0 := by
    cases hb
    exact ⟨_, rfl, fun _ => rfl⟩
  obtain ⟨e, he, hget⟩ := hcity
  refine ⟨m, b, e, hm, hb, he, hmirrors.lookup _ _ he, ?_, ?_⟩
  · rw [hmirrors.get _ _ he]
    exact hget _
  · rw [hmirrors.get _ _ he]
    rfl

end KeyMap

end RecordKeys
