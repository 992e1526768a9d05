/-
A record that keeps what it does not know, as one ordered map. Declared names and others share one
space of keys, and each request finds out for itself on which side a spelling is. The two sides never
meet: whatever the history of requests, the fields are what the puts under declared names have made
of them, what is kept beside them is what the history leaves, and no normal form is on both sides.
-/
import RecordKeys.Proofs.KeyMap.Uniform
import RecordKeys.Proofs.View.History
import RecordKeys.Proofs.View.Writing

namespace RecordKeys

/-! ## Key maps -/

namespace KeyMap

/-- Whether a name is a key depends on its normal form. -/
theorem field?_congr {m : KeyMap} {key other : String}
    (h : m.casing.normal other = m.casing.normal key) : m.field? other = m.field? key := by
  unfold field? lookup
  rw [Casing.key_some, Casing.key_some, h]

end KeyMap

/-! ## Requests -/

/-- What becomes of a value that is offered to a member: either the member has a content of the
same kind, which is handed out, or the value is handed back and the instance is as it was. -/
theorem Entry.replace_cases (e : Entry) (v : Value) (d : Datum) :
    (∃ old after, e.replace v d = ⟨true, old, after⟩ ∧ e.Puts v old d after) ∨
    (e.replace v d = ⟨false, d, v⟩ ∧ ∀ old, e.get v = some old → old.kind ≠ d.kind) := by
  cases hr : e.replace v d with
  | mk replaced returned after =>
    cases replaced with
    | true => exact .inl ⟨returned, after, rfl, replace_eq_iff.1 hr⟩
    | false =>
      refine .inr ⟨?_, fun old hget hkind => ?_⟩
      · simp only [replace] at hr
        split at hr
        · cases hr
        · exact hr.symm
      · obtain ⟨n, i, hp⟩ := place?_of_get hget
        rw [replace_eq_iff.2 ⟨n, i, hp, hget, hkind.symm, rfl⟩] at hr
        cases hr

namespace OpenRecord

variable {o : OpenRecord} {key : String} {e : Entry}

/-- Under a declared key there is the content of the member, whatever is kept beside the fields. -/
theorem get_of_declared (h : o.map.field? key = some e) (v : Value) (x : Extras) :
    get { o with value := v, extras := x } key = e.get v := by
  simp only [get, h]

/-- Under any other key there is what is kept under its normal form, whatever the fields are. -/
theorem get_of_undeclared (h : o.map.field? key = none) (v : Value) (x : Extras) :
    get { o with value := v, extras := x } key = x.get? (o.map.casing.normal key) := by
  simp only [get, h]

theorem set_of_undeclared (h : o.map.field? key = none) (d : Datum) :
    o.set key d =
      .ok (o.get key, { o with extras := o.extras.put (o.map.casing.normal key) d }) := by
  simp only [set, get, h]

theorem set_of_replaced (h : o.map.field? key = some e) {d old : Datum} {after : Value}
    (hr : e.replace o.value d = ⟨true, old, after⟩) :
    o.set key d = .ok (some old, { o with value := after }) := by
  simp only [set, h, hr, if_true]

theorem set_of_refused (h : o.map.field? key = some e) {d : Datum}
    (hr : e.replace o.value d = ⟨false, d, o.value⟩) :
    o.set key d = .error (.wrongKind key e.member.typeName) := by
  simp only [set, h, hr, Bool.false_eq_true, if_false]

/-! ## Runs -/

/-- What is left of a record after a change. A request that is refused leaves it as it is. -/
def change (o : OpenRecord) : Change → OpenRecord
  | .set key d =>
    match o.set key d with
    | .ok (_, after) => after
    | .error _ => o
  | .remove key => (o.remove key).2
  | .write v => o.withValue v

/-- A record after changes, made one after the other. -/
def run (o : OpenRecord) (changes : List Change) : OpenRecord := changes.foldl change o

/-- A change is one of the value and one of what is kept beside the fields; neither looks at the
other. -/
theorem change_eq (o : OpenRecord) (c : Change) :
    o.change c =
      { o with value := c.onValue o.map o.value, extras := c.onExtras o.map o.extras } := by
  cases c with
  | remove key => rfl
  | write v => rfl
  | set key d =>
    cases hkey : o.map.field? key with
    | none => simp [change, set_of_undeclared hkey, Change.onValue, Change.onExtras, hkey]
    | some e =>
      rcases e.replace_cases o.value d with ⟨old, after, hr, -⟩ | ⟨hr, -⟩
      · simp [change, set_of_replaced hkey hr, Change.onValue, Change.onExtras, hkey, hr]
      · simp [change, set_of_refused hkey hr, Change.onValue, Change.onExtras, hkey, hr]

theorem run_eq (o : OpenRecord) (changes : List Change) :
    o.run changes =
      { o with
        value := changes.foldl (fun v c => c.onValue o.map v) o.value
        extras := changes.foldl (fun x c => c.onExtras o.map x) o.extras } := by
  unfold run
  induction changes generalizing o with
  | nil => rfl
  | cons c changes ih => rw [List.foldl_cons, change_eq, ih]; rfl

/-! ## One map -/

/-- A record after changes, told as an ordered map: where the contents of its keys come from, and
in which order it lists them. The record that the changes began with kept nothing beside its
fields. -/
structure Tells (start : OpenRecord) (changes : List Change) (o : OpenRecord) : Prop where
  layout : o.layout = start.layout
  map : o.map = start.map
  /-- The value is what requests for declared keys and values written as a whole have made of
  it. -/
  value : o.value = changes.foldl (fun v c => c.onValue start.map v) start.value
  declared : ∀ key e, start.map.field? key = some e → o.get key = e.get o.value
  undeclared : ∀ key, start.map.field? key = none →
    o.get key = lastPut? start.map (start.map.casing.normal key) changes
  keys : o.keys = start.map.keys ++ o.extras.keys
  /-- The declared names come in their order. -/
  names : ∀ name, name ∈ start.map.keys ↔ (start.map.find? (some name)).isSome
  increasing : Name.Increasing (start.map.keys.map some)
  /-- The other keys come in the order of their arrival. -/
  others : ∀ normal, normal ∈ o.extras.keys ↔ (arrival? start.map normal changes).isSome
  inOrder : o.extras.keys.Pairwise (ArrivesBefore start.map changes)
  /-- No key is listed twice. -/
  nodup : o.keys.Nodup

/-- What the requests to a record answer, and what they leave behind. -/
structure Lawful (o : OpenRecord) : Prop where
  /-- A declared key hands out its content for another of the same kind, or refuses; either way what
  is kept beside the fields stays as it is. -/
  set_declared : ∀ key e d, o.map.field? key = some e →
    (∃ old v, o.set key d = .ok (some old, { o with value := v }) ∧ old.kind = d.kind) ∨
    (o.set key d = .error (.wrongKind key e.member.typeName) ∧ o.change (.set key d) = o ∧
      (e.replace o.value d).after = o.value ∧ ∀ old, o.get key = some old → old.kind ≠ d.kind)
  set_undeclared : ∀ key d, o.map.field? key = none →
    ∃ x, o.set key d = .ok (o.get key, { o with extras := x })
  /-- Whatever the side, the previous content is handed out and the new one is there. -/
  set_ok : ∀ key d previous o', o.set key d = .ok (previous, o') →
    previous = o.get key ∧ o'.get key = some d
  /-- Spellings of one normal form are one key. -/
  spelling : ∀ key other, o.map.casing.normal other = o.map.casing.normal key →
    o.get other = o.get key
  remove_declared : ∀ key e, o.map.field? key = some e → o.remove key = (none, o)
  remove_undeclared : ∀ key, o.map.field? key = none →
    ∃ x, o.remove key = (o.get key, { o with extras := x }) ∧ (o.remove key).2.get key = none
  /-- Keys of another normal form keep their contents, provided that members have slots of their
  own. -/
  others : ∀ key other, o.map.casing.normal other ≠ o.map.casing.normal key →
    (o.remove key).2.get other = o.get other ∧
    ∀ d, o.map.field? key = none ∨ o.map.Obtained →
      (o.change (.set key d)).get other = o.get other

/-! ### What single requests do -/

/-- Whatever the side, a request that is met hands out the previous content and leaves the new
one. -/
theorem get_of_set {d : Datum} {previous : Option Datum} {o' : OpenRecord}
    (h : o.set key d = .ok (previous, o')) : previous = o.get key ∧ o'.get key = some d := by
  cases hkey : o.map.field? key with
  | none =>
    rw [set_of_undeclared hkey] at h
    cases h
    exact ⟨rfl, (get_of_undeclared hkey ..).trans (Rows.get?_put_self ..)⟩
  | some e =>
    rcases e.replace_cases o.value d with ⟨old, after, hr, n, i, hp, hget, -, rfl⟩ | ⟨hr, -⟩
    · rw [set_of_replaced hkey hr] at h
      cases h
      exact ⟨((get_of_declared hkey ..).trans hget).symm,
        (get_of_declared hkey ..).trans (Entry.get_write_self hp hget d)⟩
    · rw [set_of_refused hkey hr] at h
      cases h

theorem get_remove_of_ne {other : String}
    (hne : o.map.casing.normal other ≠ o.map.casing.normal key) :
    (o.remove key).2.get other = o.get other := by
  cases hother : o.map.field? other with
  | none =>
    have hget : o.get other = _ := get_of_undeclared hother ..
    rw [hget]
    exact (get_of_undeclared hother ..).trans (Rows.get?_drop_of_ne hne _)
  | some e =>
    have hget : o.get other = _ := get_of_declared hother ..
    exact (get_of_declared hother ..).trans hget.symm

theorem get_set_of_ne {other : String}
    (hne : o.map.casing.normal other ≠ o.map.casing.normal key)
    (hplaces : o.map.field? key = none ∨ o.map.Obtained) (d : Datum) :
    (o.change (.set key d)).get other = o.get other := by
  cases hother : o.map.field? other with
  | none =>
    have hget : o.get other = _ := get_of_undeclared hother ..
    rw [hget, change_eq, get_of_undeclared hother, Change.onExtras]
    split
    · exact Rows.get?_put_of_ne hne d _
    · rfl
  | some e' =>
    have hget : o.get other = _ := get_of_declared hother ..
    rw [hget, change_eq, get_of_declared hother, Change.onValue]
    cases hkey : o.map.field? key with
    | none => rfl
    | some e =>
      -- both keys are declared, and their members have places of their own
      have hm := hplaces.resolve_left (by rw [hkey]; exact Option.some_ne_none e)
      simp only [Option.map_some, Option.getD_some]
      rcases e.replace_cases o.value d with ⟨old, after, hr, n, i, hp, -, -, rfl⟩ | ⟨hr, -⟩
      · rw [hr]
        exact Entry.get_write_of_ne
          (View.place_ne_of_normal_ne (w := o.toView) hm hkey hother hne hp) _ _
      · rw [hr]

/-! ### Declared keys are not kept beside the fields -/

/-- Nothing is kept under a normal form that a member has. -/
theorem lastPut?_of_declared {m : KeyMap} {normal : String} (h : (m.find? (some normal)).isSome)
    (changes : List Change) : lastPut? m normal changes = none := by
  induction changes using List.reverseRecOn with
  | nil => rfl
  | append_singleton changes c ih =>
    rw [lastPut?_concat, ih, Option.or_none]
    split
    · rfl
    · cases c with
      | remove key => rfl
      | write v => rfl
      | set key d =>
        refine if_neg fun hc => ?_
        obtain ⟨hnone, hnormal⟩ := Bool.and_eq_true_iff.1 hc
        rw [KeyMap.field?, KeyMap.lookup, Casing.key_some, beq_iff_eq.1 hnormal] at hnone
        rw [Option.isNone_iff_eq_none.1 hnone] at h
        cases h

section Requests

variable {changes : List Change} (hx : LeftBy o.map changes o.extras)

include hx

theorem not_mem_extras_of_declared {normal : String} (h : (o.map.find? (some normal)).isSome) :
    normal ∉ o.extras.keys := by
  rw [← Rows.get?_eq_none_iff, hx.get, lastPut?_of_declared h]

theorem nodup_keys (hm : o.map.toIndex.WF) : o.keys.Nodup := by
  refine List.nodup_append.2 ⟨(KeyMap.increasing_keys hm).nodup.of_map _, hx.nodup, ?_⟩
  rintro name hname _ hother rfl
  exact not_mem_extras_of_declared hx ((KeyMap.mem_keys_iff hm).1 hname) hother

theorem lawful : Lawful o where
  set_declared key e d h := by
    rcases e.replace_cases o.value d with ⟨old, after, hr, hputs⟩ | ⟨hr, hkind⟩
    · obtain ⟨-, -, -, -, hkind, -⟩ := hputs
      exact .inl ⟨old, after, set_of_replaced h hr, hkind.symm⟩
    · have hrefused := set_of_refused h hr
      exact .inr ⟨hrefused, by simp only [change, hrefused], by rw [hr], fun old hget =>
        hkind old ((get_of_declared h ..).symm.trans hget)⟩
  set_undeclared key d h := ⟨_, set_of_undeclared h d⟩
  set_ok key d previous o' h := get_of_set h
  spelling key other h := by unfold get; rw [KeyMap.field?_congr h, h]
  remove_declared key e h := by
    have hnot : o.map.casing.normal key ∉ o.extras.keys :=
      not_mem_extras_of_declared hx (Option.isSome_iff_exists.2 ⟨e, h⟩)
    simp only [remove, Rows.get?_eq_none_iff.2 hnot, Rows.drop_of_not_mem hnot]
  remove_undeclared key h :=
    ⟨_, Prod.ext (get_of_undeclared h ..).symm rfl,
      (get_of_undeclared h ..).trans (Rows.get?_drop_self _ hx.nodup)⟩
  others key other hne := ⟨get_remove_of_ne hne, fun d hplaces => get_set_of_ne hne hplaces d⟩

end Requests

/-- Changes to a record that keeps nothing beside its fields yet. -/
theorem run_tells (hm : o.map.toIndex.WF) (hnone : o.extras = []) (changes : List Change) :
    Tells o changes (o.run changes) ∧ Lawful (o.run changes) := by
  have hrun := run_eq o changes
  have hx : LeftBy o.map changes (changes.foldl (fun x c => c.onExtras o.map x) o.extras) := by
    rw [hnone]
    exact .foldl o.map changes
  generalize o.run changes = o' at hrun
  have hmap : o'.map = o.map := by rw [hrun]
  have hx' : LeftBy o'.map changes o'.extras := by rw [hrun]; exact hx
  refine ⟨?_, lawful hx'⟩
  exact {
    layout := by rw [hrun]
    map := hmap
    value := by rw [hrun]
    declared := fun key e h => get_of_declared (o := o') (hmap ▸ h) ..
    undeclared := fun key h => by
      have hget : o'.get key = _ := get_of_undeclared (o := o') (hmap ▸ h) ..
      rw [hget, hx'.get, hmap]
    keys := by rw [keys, hmap]
    names := fun name => KeyMap.mem_keys_iff hm
    increasing := KeyMap.increasing_keys hm
    others := fun normal => by rw [hx'.mem_keys_iff, hmap]
    inOrder := by rw [← hmap]; exact hx'.inOrder
    nodup := nodup_keys hx' (hmap ▸ hm) }

/-- A record that keeps what it does not know refines an ordered map from normal forms to contents,
after every run of changes, with names compared in either way, and whatever the registry that gave
its key map has been asked before. If every identity belongs to one layout, then each record whose
type has a key map can be wrapped. -/
theorem run_refines {serves : Layout → Prop} {r : Registry} (hr : r.Reached serves)
    (casing : Casing) (i : Instance) (hi : serves i.layout) :
    (∀ o, (wrap r casing i).record = .ok o →
      (o.layout = i.layout ∧ o.value = i.value ∧ o.map.casing = casing ∧ o.extras = []) ∧
      ((∀ t, serves t → t.SlotsApart) → o.map.Obtained) ∧
      ∀ changes, Tells o changes (o.run changes) ∧ Lawful (o.run changes)) ∧
    (Layout.OneEach serves → i.layout.isEnum = false → ∀ m, KeyMap.build casing i.layout = .ok m →
      (wrap r casing i).record = .ok ⟨i.layout, i.value, m, []⟩) := by
  constructor
  · intro o ho
    have hwf := (hr.mono fun _ _ => trivial).answer KeyMap.wf_hereditary trivial casing
      (t := i.layout)
    simp only [wrap] at ho
    cases ha : (r.resolve casing i.layout).answer with
    | error fault => rw [ha] at ho; cases ho
    | ok s =>
      simp only [ha] at ho
      split at ho
      · cases ho
      · cases ho
        obtain ⟨hm, hcasing⟩ := hwf s.map (by rw [ha]; rfl)
        exact ⟨⟨rfl, rfl, hcasing, rfl⟩,
          fun h => .answered (hr.mono h) (h _ hi) ha,
          fun changes => run_tells hm rfl changes⟩
  · intro hone hrecord m hm
    obtain ⟨s, hs, rfl⟩ := hr.answer_of_build hone hi hm
    have hlayout : s.map.layout = i.layout := (KeyMap.build_spec hm).1
    simp only [wrap, hs, hlayout, hrecord, Bool.false_eq_true, if_false]

/-! ## A record with keys of both kinds -/

/-- A type with two keys. -/
def sampleNote : Layout :=
  .root ⟨"Note", 1, .record,
    [⟨"title", none, {}, "alloc::string::String", .slot 0, []⟩,
      ⟨"rank", none, {}, "u32", .slot 1, []⟩], []⟩

/-- An instance of the type. -/
def sampleInstance : Instance := ⟨sampleNote, .root 1 (.slots [some (.string "a"), some (.u32 7)])⟩

/-- Changes in several spellings: one key is put twice, one is removed and put again, and one value
is refused. -/
def sampleChanges : List Change :=
  [.set "Zone" (.u32 1), .set "TITLE" (.string "b"), .set "alpha" (.u32 2), .set "beta" (.u32 5),
    .set "zone" (.u32 3), .remove "ALPHA", .set "Alpha" (.u32 4), .set "rank" (.string "x"),
    .remove "Rank"]

theorem run_refines_note :
    ∃ o, (wrap (Registry.empty.resolve .exact sampleNote).registry .folded sampleInstance).record =
        .ok o ∧
      (o.run sampleChanges).keys = ["rank", "title", "zone", "beta", "alpha"] ∧
      (o.run sampleChanges).get "ZONE" = some (.u32 3) ∧
      (o.run sampleChanges).get "Title" = some (.string "b") ∧
      Tells o sampleChanges (o.run sampleChanges) ∧ Lawful (o.run sampleChanges) := by
  have hone : Layout.OneEach (· ∈ sampleNote.chain) := .of_chain (by decide)
  have hnote : sampleNote ∈ sampleNote.chain := sampleNote.self_mem_chain
  obtain ⟨htold, hwrapped⟩ :=
    run_refines (.resolve .exact .empty hnote) .folded sampleInstance hnote
  have ho := hwrapped hone rfl _ rfl
  obtain ⟨htells, hlawful⟩ := (htold _ ho).2.2 sampleChanges
  refine ⟨_, ho, by decide +kernel, ?_, ?_, htells, hlawful⟩
  · rw [htells.undeclared "ZONE" rfl]; rfl
  · rw [htells.declared "Title" _ rfl]; rfl

end OpenRecord

end RecordKeys
