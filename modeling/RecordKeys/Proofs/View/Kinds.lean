/-
What no request changes. Whichever way a record is written, through views with names compared in
either way or wrapped so that it keeps what it does not know, a content only ever takes the place of
another of its kind. So a member that has a content always has one of the same kind, a member without
a content never comes by one, and no base comes or goes. Hence the same keys can be read at all
times, and whether a value is taken under a key depends on the key and on the kind of the value alone.
-/
import RecordKeys.Proofs.View.Offering
import RecordKeys.Proofs.View.Opening
import RecordKeys.Proofs.View.Sides

namespace RecordKeys

/-! ## Values with contents of the same kinds -/

/-- Two values with contents of the same kinds in the same slots, and with the same bases. -/
structure Value.SameKinds (v v' : Value) : Prop where
  slots : ∀ n i, (v'.cell? n i).map (·.kind) = (v.cell? n i).map (·.kind)
  bases : ∀ n, (v'.up? n).map (·.typeId?) = (v.up? n).map (·.typeId?)

namespace Value.SameKinds

variable {v v' v'' : Value}

theorem refl (v : Value) : v.SameKinds v := ⟨fun _ _ => rfl, fun _ => rfl⟩

theorem trans (h : v.SameKinds v') (h' : v'.SameKinds v'') : v.SameKinds v'' where
  slots n i := (h'.slots n i).trans (h.slots n i)
  bases n := (h'.bases n).trans (h.bases n)

/-- A content that takes the place of another of its kind. -/
theorem write {n i : Nat} {old d : Datum} (hold : v.cell? n i = some old) (hk : d.kind = old.kind) :
    v.SameKinds (v.write d n i) where
  slots k j := by
    by_cases h : (n, i) = (k, j)
    · cases h
      rw [cell?_write_self hold, hold, Option.map_some, Option.map_some, hk]
    · rw [cell?_write_of_ne h]
  bases k := typeId?_up?_write n i d v k

theorem typeId? (h : v.SameKinds v') : v'.typeId? = v.typeId? := Option.some.inj (h.bases 0)

/-- A value with a base stands to one with a base of its own, which stands to the first base as the
values do. -/
theorem base {id : TypeId} {content : Content} {base : Value}
    (h : (embedding id content base).SameKinds v') :
    ∃ content' base', v' = embedding id content' base' ∧ base.SameKinds base' := by
  have hup := h.bases 1
  have hid := h.typeId?
  cases v' with
  | plain d => cases hid
  | root id' content' => cases hup
  | embedding id' content' base' =>
    cases hid
    exact ⟨content', base', rfl, fun n i => h.slots (n + 1) i, fun n => h.bases (n + 1)⟩

/-- A value without a base stands to values without a base only. -/
theorem reaches_cons {l : Link} {path : List Link} {owner : TypeId} (h : v.SameKinds v')
    (hv : v.up? 1 = none) : v'.reaches owner (l :: path) = v.reaches owner (l :: path) := by
  have hup := h.bases 1
  rw [hv] at hup
  have hnone : ∀ w : Value, w.up? 1 = none → w.reaches owner (l :: path) = false := by
    intro w hw
    cases w with
    | plain d => rfl
    | root id content => rfl
    | embedding id content base => cases hw
  rw [hnone v hv, hnone v' (Option.map_eq_none_iff.1 hup)]

/-- The same paths lead somewhere. -/
theorem reaches (h : v.SameKinds v') (owner : TypeId) (path : List Link) :
    v'.reaches owner path = v.reaches owner path := by
  induction path generalizing v v' with
  | nil => simp only [Value.reaches, h.typeId?]
  | cons l path ih =>
    cases v with
    | plain d => exact h.reaches_cons rfl
    | root id content => exact h.reaches_cons rfl
    | embedding id content base =>
      obtain ⟨content', base', rfl, hbase⟩ := h.base
      simp only [Value.reaches, ih hbase]

end Value.SameKinds

/-! ## One member -/

namespace Entry

variable {v v' : Value} {d d' : Datum}

/-- A member has contents of one kind in both, or none in both. -/
theorem kind_get (h : v.SameKinds v') (e : Entry) :
    (e.get v').map (·.kind) = (e.get v).map (·.kind) := by
  rw [get_eq, get_eq, reached, reached, h.reaches]
  split
  · cases e.place? with
    | none => rfl
    | some p => exact h.slots p.1 p.2
  · rfl

theorem exists_get_of_get (h : v.SameKinds v') {e : Entry} {old : Datum} (hold : e.get v = some old) :
    ∃ old', e.get v' = some old' ∧ old'.kind = old.kind := by
  have hkind := e.kind_get h
  rw [hold, Option.map_some] at hkind
  exact Option.map_eq_some_iff.1 hkind

/-- A revision that keeps kinds keeps all kinds. -/
theorem sameKinds_of_revise {α : Type} {e : Entry} {f : Datum → Option (α × Datum)} {a : α}
    (hf : ∀ old a new, f old = some (a, new) → new.kind = old.kind)
    (h : e.revise f v = some (a, v')) : v.SameKinds v' := by
  obtain ⟨n, i, old, new, hp, hget, hnew, rfl⟩ := revise_eq_some_iff.1 h
  exact .write (cell?_of_get hp hget) (hf old a new hnew)

theorem sameKinds_exchange (e : Entry) (v : Value) (d : Datum) :
    v.SameKinds (e.exchange v d).after := by
  simp only [exchange]
  split
  · rename_i replaced returned after hr
    refine sameKinds_of_revise (fun old a new hnew => ?_) hr
    cases hnew
    exact Datum.exchange_kind old d
  · exact .refl v

theorem sameKinds_assign {e : Entry} {done : Bool} (h : e.assign v d = some (done, v')) :
    v.SameKinds v' := by
  refine sameKinds_of_revise (fun old a new hnew => ?_) h
  split at hnew
  · rename_i hk; cases hnew; exact hk
  · cases hnew; rfl

/-- Whether a value is taken, and the kind of what is handed out or back, is settled by the kinds. -/
theorem kind_replace (h : v.SameKinds v') (hd : d'.kind = d.kind) (e : Entry) :
    (e.replace v' d').replaced = (e.replace v d).replaced ∧
      (e.replace v' d').returned.kind = (e.replace v d).returned.kind := by
  rcases e.replace_cases v d with ⟨old, after, hr, -, -, -, hget, hk, -⟩ | ⟨hr, hno⟩ <;>
  rcases e.replace_cases v' d' with ⟨old', after', hr', -, -, -, hget', hk', -⟩ | ⟨hr', hno'⟩ <;>
  rw [hr, hr']
  · exact ⟨rfl, by rw [← hk', hd, hk]⟩
  · -- there was a content of the kind of the value, so there is one still
    obtain ⟨now, hnow, hkind⟩ := exists_get_of_get h hget
    exact absurd (by rw [hkind, ← hk, hd]) (hno' now hnow)
  · have hkind := e.kind_get h
    rw [hget', Option.map_some, eq_comm, Option.map_eq_some_iff] at hkind
    obtain ⟨old, hold, hkind⟩ := hkind
    exact absurd (by rw [hkind, ← hk', hd]) (hno old hold)
  · exact ⟨rfl, hd⟩

end Entry

/-! ## Views -/

namespace View

variable {m : KeyMap} {v v' : Value} {d d' : Datum}

theorem insert_eq_set (w : View) (key : String) (d : Datum) : w.insert key d = w.set key d := by
  rw [← result_tryInsert, tryInsert_eq_trySet, result_trySet]

theorem sameKinds_trySet (w : View) (key : String) (d : Datum) :
    w.value.SameKinds (w.trySet key d).after.value := by
  unfold trySet
  cases w.map.field? key with
  | none => exact .refl _
  | some e => exact e.sameKinds_exchange w.value d

theorem sameKinds_assign {w after : View} {key : String} {done : Bool}
    (h : w.assign key d = some (done, after)) : w.value.SameKinds after.value := by
  obtain ⟨e, -, h⟩ := Option.bind_eq_some_iff.1 h
  obtain ⟨⟨done', v⟩, hassign, h⟩ := Option.map_eq_some_iff.1 h
  cases h
  exact Entry.sameKinds_assign hassign

theorem kind_get (h : v.SameKinds v') (m : KeyMap) (key : String) :
    (get ⟨m, v'⟩ key).map (·.kind) = (get ⟨m, v⟩ key).map (·.kind) := by
  unfold get
  cases m.field? key with
  | none => rfl
  | some e => exact e.kind_get h

theorem kind_pairs (h : v.SameKinds v') (m : KeyMap) :
    (pairs ⟨m, v'⟩).map (fun p => (p.1, p.2.kind)) =
      (pairs ⟨m, v⟩).map (fun p => (p.1, p.2.kind)) := by
  unfold pairs
  rw [List.map_filterMap, List.map_filterMap]
  refine List.filterMap_congr fun e _ => ?_
  have hkind := e.kind_get h
  cases e.name with
  | none => rfl
  | some name =>
    cases hv : e.get v with
    | none =>
      rw [hv, Option.map_none, Option.map_eq_none_iff] at hkind
      rw [hkind]
    | some old =>
      obtain ⟨now, hnow, hk⟩ := Entry.exists_get_of_get h hv
      rw [hnow]
      exact congrArg (fun k => some (name, k)) hk

theorem kind_set (h : v.SameKinds v') (hd : d'.kind = d.kind) (m : KeyMap) (key : String) :
    (set ⟨m, v'⟩ key d').map (·.1.kind) = (set ⟨m, v⟩ key d).map (·.1.kind) := by
  unfold set
  cases m.field? key with
  | none => rfl
  | some e =>
    obtain ⟨hreplaced, hkind⟩ := e.kind_replace h hd
    simp only [hreplaced]
    split
    · exact congrArg Except.ok hkind
    · rfl

/-- Two outcomes that have something in common are both met, or refused for the same reason. -/
theorem outcome_iff_of_map_eq {ε α β γ : Type} {a : Except ε α} {b : Except ε β} {f : α → γ}
    {g : β → γ} (h : a.map f = b.map g) :
    ((∃ x, a = .ok x) ↔ ∃ y, b = .ok y) ∧ ∀ e, a = .error e ↔ b = .error e := by
  cases a with
  | error e =>
    cases b with
    | error e' =>
      cases h
      exact ⟨⟨nofun, nofun⟩, fun _ => by rw [Except.error.injEq, Except.error.injEq]⟩
    | ok y => cases h
  | ok x =>
    cases b with
    | error e' => cases h
    | ok y => exact ⟨⟨fun _ => ⟨y, rfl⟩, fun _ => ⟨x, rfl⟩⟩, fun _ => ⟨nofun, nofun⟩⟩

theorem assign_fst_of_sameKinds (h : v.SameKinds v') (hd : d'.kind = d.kind) (m : KeyMap)
    (key : String) : (assign ⟨m, v'⟩ key d').map (·.1) = (assign ⟨m, v⟩ key d).map (·.1) := by
  rw [assign_fst, assign_fst, kind_get h, hd]

end View

/-! ## Records that keep what they do not know -/

namespace OpenRecord

variable {v v' : Value} {d d' : Datum}

theorem sameKinds_trySet (o : OpenRecord) (key : String) (d : Datum) :
    o.value.SameKinds (o.trySet key d).2.value := by
  unfold trySet
  cases o.map.field? key with
  | none => exact .refl _
  | some e => exact e.sameKinds_exchange o.value d

/-- A request with what is left of the record is the request as it is answered, and the change that
it makes. -/
theorem trySet_eq (o : OpenRecord) (key : String) (d : Datum) :
    (o.trySet key d).1 = (o.set key d).map (·.1) ∧ (o.trySet key d).2 = o.change (.set key d) := by
  unfold trySet change
  cases hkey : o.map.field? key with
  | none =>
    simp only [set_of_undeclared hkey, and_true]
    exact congrArg Except.ok (get_of_undeclared hkey ..).symm
  | some e =>
    simp only [e.exchange_eq_replace]
    rcases e.replace_cases o.value d with ⟨old, after, hr, -⟩ | ⟨hr, -⟩
    · rw [set_of_replaced hkey hr, hr]; exact ⟨rfl, rfl⟩
    · rw [set_of_refused hkey hr, hr]; exact ⟨rfl, rfl⟩

/-- Whether a value is taken does not depend on what is kept beside the fields. -/
theorem set_isOk_iff (h : v.SameKinds v') (hd : d'.kind = d.kind) (l : Layout) (m : KeyMap)
    (x x' : Extras) (key : String) :
    (∃ p, set ⟨l, v', m, x'⟩ key d' = .ok p) ↔ ∃ p, set ⟨l, v, m, x⟩ key d = .ok p := by
  unfold set
  cases m.field? key with
  | none => simp
  | some e =>
    simp only [(e.kind_replace h hd).1]
    split <;> simp

end OpenRecord

/-! ## Runs -/

/-- A record that is in use: on its own, or wrapped so as to keep what it does not know. -/
inductive Holder
  | bare (i : Instance)
  | wrapped (o : OpenRecord)

namespace Holder

/-- The record itself. -/
def toInstance : Holder → Instance
  | bare i => i
  | wrapped o => o.toInstance

/-- The same with another value of the record. -/
def withValue (v : Value) : Holder → Holder
  | bare i => bare { i with value := v }
  | wrapped o => wrapped (o.withValue v)

@[simp] theorem toInstance_withValue (h : Holder) (v : Value) :
    (h.withValue v).toInstance = ⟨h.toInstance.layout, v⟩ := by
  cases h <;> rfl

/-- What can be done with a record. A view is opened for each request, with any key map that it can be
opened with, whether the record is wrapped or not. What is asked for may be refused. -/
inductive Step : Holder → Holder → Prop
  | set {h : Holder} {m : KeyMap} {w : View} (opened : View.ofInstance h.toInstance m = .ok w)
    (key : String) (d : Datum) : Step h (h.withValue (w.trySet key d).after.value)
  | insert {h : Holder} {m : KeyMap} {w : View} (opened : View.ofInstance h.toInstance m = .ok w)
    (key : String) (d : Datum) : Step h (h.withValue (w.tryInsert key d).after.value)
  | assign {h : Holder} {m : KeyMap} {w after : View} {key : String} {d : Datum} {done : Bool}
    (opened : View.ofInstance h.toInstance m = .ok w)
    (reached : w.assign key d = some (done, after)) : Step h (h.withValue after.value)
  | wrap {i : Instance} {r : Registry} {casing : Casing} {o : OpenRecord}
    (record : (OpenRecord.wrap r casing i).record = .ok o) : Step (bare i) (wrapped o)
  | put (o : OpenRecord) (key : String) (d : Datum) :
    Step (wrapped o) (wrapped (o.trySet key d).2)
  | remove (o : OpenRecord) (key : String) : Step (wrapped o) (wrapped (o.remove key).2)
  /-- A value that is written as a whole is one of the same declared type. -/
  | write {o : OpenRecord} {v : Value} (typed : o.value.SameKinds v) :
    Step (wrapped o) (wrapped (o.withValue v))
  | unwrap (o : OpenRecord) : Step (wrapped o) (bare o.toInstance)

/-- A value is what a view that was opened has of a record. -/
theorem value_of_opened {i : Instance} {m : KeyMap} {w : View} (h : View.ofInstance i m = .ok w) :
    w = ⟨m, i.value⟩ := by
  unfold View.ofInstance at h
  split at h
  · cases h
  · split at h
    · cases h
    · cases h; rfl

/-- One request keeps the type of the record and all kinds. -/
theorem Step.keeps {h h' : Holder} (hstep : Step h h') :
    h'.toInstance.layout = h.toInstance.layout ∧
      h.toInstance.value.SameKinds h'.toInstance.value := by
  cases hstep with
  | @set _ m _ opened key d =>
    rw [value_of_opened opened, toInstance_withValue]
    exact ⟨rfl, View.sameKinds_trySet ⟨m, _⟩ key d⟩
  | @insert _ m _ opened key d =>
    rw [value_of_opened opened, toInstance_withValue, View.tryInsert_eq_trySet]
    exact ⟨rfl, View.sameKinds_trySet ⟨m, _⟩ key d⟩
  | assign opened reached =>
    have hkinds := View.sameKinds_assign reached
    rw [value_of_opened opened] at hkinds
    rw [toInstance_withValue]
    exact ⟨rfl, hkinds⟩
  | wrap record =>
    obtain ⟨s, -, -, rfl⟩ := OpenRecord.wrap_eq_ok_iff.1 record
    exact ⟨rfl, .refl _⟩
  | put o key d =>
    refine ⟨?_, o.sameKinds_trySet key d⟩
    rw [(o.trySet_eq key d).2, OpenRecord.change_eq]
    rfl
  | remove o key => exact ⟨rfl, .refl _⟩
  | write typed => exact ⟨rfl, typed⟩
  | unwrap o => exact ⟨rfl, .refl _⟩

/-- Two moments of a record that differ in nothing but in contents of one kind. -/
structure Steady (i i' : Instance) : Prop where
  layout : i'.layout = i.layout
  /-- Slots have contents of the same kinds, or none, and bases are there, or not, at every level. -/
  kinds : i.value.SameKinds i'.value
  /-- So it is with members, whether they are keys or not and whatever level declares them. -/
  members : ∀ e : Entry, (e.get i'.value).map (·.kind) = (e.get i.value).map (·.kind)
  /-- The same keys can be read, and what is read under them is of the same kind. -/
  readable : ∀ m key, (View.get ⟨m, i'.value⟩ key).isSome = (View.get ⟨m, i.value⟩ key).isSome
  pairs : ∀ m, (View.pairs ⟨m, i'.value⟩).map (fun p => (p.1, p.2.kind)) =
    (View.pairs ⟨m, i.value⟩).map fun p => (p.1, p.2.kind)
  /-- A value is taken under a key at one moment if one of its kind is at the other, and it is refused
  for the same reason. -/
  taken : ∀ m key d d', d'.kind = d.kind →
    ((∃ p, View.set ⟨m, i'.value⟩ key d' = .ok p) ↔ ∃ p, View.set ⟨m, i.value⟩ key d = .ok p) ∧
    ∀ e, View.set ⟨m, i'.value⟩ key d' = .error e ↔ View.set ⟨m, i.value⟩ key d = .error e
  inserted : ∀ m key d, View.insert ⟨m, i'.value⟩ key d = View.set ⟨m, i'.value⟩ key d ∧
    View.insert ⟨m, i.value⟩ key d = View.set ⟨m, i.value⟩ key d
  assigned : ∀ m key d d', d'.kind = d.kind →
    (View.assign ⟨m, i'.value⟩ key d').map (·.1) = (View.assign ⟨m, i.value⟩ key d).map (·.1)
  /-- So it is if the record is wrapped, whatever is kept beside its fields at the two moments. -/
  fields : ∀ m x x' key, (m.field? key).isSome →
    (OpenRecord.get ⟨i'.layout, i'.value, m, x'⟩ key).map (·.kind) =
      (OpenRecord.get ⟨i.layout, i.value, m, x⟩ key).map (·.kind)
  kept : ∀ m x x' key d d', d'.kind = d.kind →
    ((∃ p, OpenRecord.set ⟨i'.layout, i'.value, m, x'⟩ key d' = .ok p) ↔
      ∃ p, OpenRecord.set ⟨i.layout, i.value, m, x⟩ key d = .ok p)

/-- All that holds between two moments follows from the kinds. -/
theorem Steady.of_sameKinds {i i' : Instance} (hlayout : i'.layout = i.layout)
    (h : i.value.SameKinds i'.value) : Steady i i' where
  layout := hlayout
  kinds := h
  members e := e.kind_get h
  readable m key := by
    rw [← Option.isSome_map (f := Datum.kind), View.kind_get h, Option.isSome_map]
  pairs := View.kind_pairs h
  taken m key d d' hd := View.outcome_iff_of_map_eq (View.kind_set h hd m key)
  inserted m key d := ⟨View.insert_eq_set _ _ _, View.insert_eq_set _ _ _⟩
  assigned m key d d' hd := View.assign_fst_of_sameKinds h hd m key
  fields m x x' key hkey := by
    obtain ⟨e, he⟩ := Option.isSome_iff_exists.1 hkey
    simp only [OpenRecord.get, he]
    exact e.kind_get h
  kept m x x' key d d' hd := hlayout ▸ OpenRecord.set_isOk_iff h hd i.layout m x x' key

/-- In a run of requests, whether they are met or refused, through views in either casing and any mix
of them, and with the record wrapped in between or not, the contents of a record keep their kinds. No
member comes by a content or loses it, and no base comes or goes; so the same keys can be read at all
moments of the run, and a value that is taken under a key at one moment is taken at every other. -/
theorem run_keeps_kinds {h h' : Holder} (hrun : Relation.ReflTransGen Step h h') :
    Steady h.toInstance h'.toInstance := by
  suffices hkeeps : h'.toInstance.layout = h.toInstance.layout ∧
      h.toInstance.value.SameKinds h'.toInstance.value from .of_sameKinds hkeeps.1 hkeeps.2
  induction hrun with
  | refl => exact ⟨rfl, .refl _⟩
  | tail _ hstep ih =>
    obtain ⟨hlayout, hkinds⟩ := hstep.keeps
    exact ⟨hlayout.trans ih.1, ih.2.trans hkinds⟩

/-! ## A record that is asked for through several views -/

open View (sampleEmployee sampleValue) in
/-- A record with a base is given another name, refuses a text for a number, is wrapped, keeps a key
that it does not declare, and refuses a number of another kind. -/
theorem run_keeps_kinds_employee :
    ∃ (folded exact : KeyMap) (h' : Holder), KeyMap.build .folded sampleEmployee = .ok folded ∧
      KeyMap.build .exact sampleEmployee = .ok exact ∧
      Relation.ReflTransGen Step (.bare ⟨sampleEmployee, sampleValue⟩) h' ∧
      (∃ p, View.set ⟨folded, h'.toInstance.value⟩ "NAME" (.string "Bob") = .ok p) ∧
      View.set ⟨exact, h'.toInstance.value⟩ "badge" (.u8 1) = .error (.wrongKind "badge" "u32") := by
  obtain ⟨folded, hfolded, hname⟩ : ∃ m, KeyMap.build .folded sampleEmployee = .ok m ∧
      ∃ p, View.set ⟨m, sampleValue⟩ "NAME" (.string "Ada") = .ok p := ⟨_, rfl, _, rfl⟩
  obtain ⟨exact, hexact, hbadge⟩ : ∃ m, KeyMap.build .exact sampleEmployee = .ok m ∧
      View.set ⟨m, sampleValue⟩ "badge" (.u8 1) = .error (.wrongKind "badge" "u32") := ⟨_, rfl, rfl⟩
  have hopens : ∀ {casing m} (v : Value), KeyMap.build casing sampleEmployee = .ok m →
      View.ofInstance ⟨sampleEmployee, v⟩ m = .ok ⟨m, v⟩ := by
    intro casing m v hm
    have hlayout := (KeyMap.build_spec hm).1
    rw [View.ofInstance_of_id_eq (by rw [hlayout]), hlayout]
    rfl
  let renamed := (View.trySet ⟨folded, sampleValue⟩ "NAME" (.string "Ada")).after.value
  let refused := (View.tryInsert ⟨exact, renamed⟩ "badge" (.string "x")).after.value
  obtain ⟨o, ho⟩ : ∃ o, (OpenRecord.wrap .empty .folded ⟨sampleEmployee, refused⟩).record = .ok o :=
    ⟨_, rfl⟩
  have hset : Step (.bare ⟨sampleEmployee, sampleValue⟩) (.bare ⟨sampleEmployee, renamed⟩) :=
    .set (h := .bare _) (hopens _ hfolded) "NAME" (.string "Ada")
  have hinsert : Step (.bare ⟨sampleEmployee, renamed⟩) (.bare ⟨sampleEmployee, refused⟩) :=
    .insert (h := .bare _) (hopens _ hexact) "badge" (.string "x")
  have hrun : Relation.ReflTransGen Step (.bare ⟨sampleEmployee, sampleValue⟩)
      (.bare ((o.trySet "Zone" (.bool true)).2.trySet "DESK" (.u8 1)).2.toInstance) :=
    .head hset <| .head hinsert <| .head (.wrap ho) <| .head (.put o "Zone" (.bool true)) <|
      .head (.put _ "DESK" (.u8 1)) <| .single (.unwrap _)
  have hsteady := run_keeps_kinds hrun
  exact ⟨folded, exact, _, hfolded, hexact, hrun,
    (hsteady.taken folded "NAME" (.string "Ada") (.string "Bob") rfl).1.2 hname,
    ((hsteady.taken exact "badge" (.u8 1) (.u8 1) rfl).2 _).2 hbadge⟩

end Holder

end RecordKeys
