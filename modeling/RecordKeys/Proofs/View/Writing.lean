/-
Writing through a view. Whichever way a value is put under a key, by an exchange or in place, one
cell is written, the place of the key. So the key has the new content and every other key the
content that it had; so has every other member at every level, whether it is a key or not; no base
comes or goes; and the old content, put back, gives the very instance that was there before.
-/
import RecordKeys.Proofs.KeyMap.Flattening
import RecordKeys.Proofs.KeyMap.Places
import RecordKeys.View.Basic

namespace RecordKeys

/-! ## One key -/

namespace Entry

/-- A datum is put into the place of a key, where another of its kind was. -/
def Puts (e : Entry) (v : Value) (old new : Datum) (v' : Value) : Prop :=
  ∃ n i, e.place? = some (n, i) ∧ e.get v = some old ∧ new.kind = old.kind ∧ v' = v.write new n i

theorem replace_eq_iff {e : Entry} {v v' : Value} {old new : Datum} :
    e.replace v new = ⟨true, old, v'⟩ ↔ e.Puts v old new v' := by
  simp only [replace]
  constructor
  · intro h
    split at h
    · rename_i a after hr
      cases h
      obtain ⟨n, i, d, slot, hp, hget, hf, rfl⟩ := revise_eq_some_iff.1 hr
      by_cases hk : new.kind = d.kind
      · simp only [Datum.exchange, if_pos hk] at hf
        cases hf
        exact ⟨n, i, hp, hget, hk, rfl⟩
      · simp [Datum.exchange, hk] at hf
    · cases h
  · rintro ⟨n, i, hp, hget, hk, rfl⟩
    rw [revise_eq_some_iff.2 ⟨n, i, old, new, hp, hget, ?_, rfl⟩]
    simp only [Datum.exchange, if_pos hk, if_true]

theorem assign_eq_true_iff {e : Entry} {v v' : Value} {new : Datum} :
    e.assign v new = some (true, v') ↔ ∃ old, e.Puts v old new v' := by
  unfold assign
  rw [revise_eq_some_iff]
  constructor
  · rintro ⟨n, i, old, slot, hp, hget, hf, rfl⟩
    split at hf
    · rename_i hk; cases hf; exact ⟨old, n, i, hp, hget, hk, rfl⟩
    · cases hf
  · rintro ⟨old, n, i, hp, hget, hk, rfl⟩
    exact ⟨n, i, old, new, hp, hget, if_pos hk, rfl⟩

/-- A value can be stored in place wherever there is a content, and it is stored if it is of the
same kind. -/
theorem assign_fst (e : Entry) (v : Value) (d : Datum) :
    (e.assign v d).map (·.1) = ((e.get v).map (·.kind)).map fun k => decide (d.kind = k) := by
  unfold assign
  cases hget : e.get v with
  | none => rw [revise_of_get_eq_none hget]; rfl
  | some old =>
    obtain ⟨n, i, hp⟩ := place?_of_get hget
    rw [revise_of_get hp hget]
    by_cases hk : d.kind = old.kind <;> simp [hk]

/-- The datum that was there, put back, gives the old instance. -/
theorem Puts.back {e : Entry} {v v' : Value} {old new : Datum} (h : e.Puts v old new v') :
    e.Puts v' new old v := by
  obtain ⟨n, i, hp, hget, hk, rfl⟩ := h
  refine ⟨n, i, hp, get_write_self hp hget new, hk.symm, ?_⟩
  exact (Value.write_write_cancel (cell?_of_get hp hget) new).symm

end Entry

/-! ## Views -/

namespace View

/-- What holds when a value has been put under a key in place of another. -/
structure Wrote (w : View) (key : String) (old new : Datum) (w' : View) : Prop where
  map : w'.map = w.map
  before : w.get key = some old
  after : w'.get key = some new
  /-- Keys of another normal form keep their contents. -/
  others : ∀ other, w.map.casing.normal other ≠ w.map.casing.normal key → w'.get other = w.get other
  /-- Members of other levels keep their contents, and so do the other members of the level that
  declares the one behind the key. -/
  members : ∀ e, w.map.field? key = some e → ∀ x : Entry, x.member ∈ x.declaring.members →
    (x.path.length = e.path.length → x.declaring = e.declaring ∧ x.member ≠ e.member) →
    x.get w'.value = x.get w.value
  /-- With a key map that was built for the type, these are all the members of its chain but one. -/
  levels : KeyMap.build w.map.casing w.map.layout = .ok w.map → ∀ e, w.map.field? key = some e →
    ∀ x : Listed, w.map.layout.chain[x.rank]? = some x.owner → x.member ∈ x.owner.members →
    (x.rank, x.member) ≠ (e.path.length, e.member) →
    (x.entry w.map.layout).get w'.value = (x.entry w.map.layout).get w.value
  /-- Slots keep their contents, whether a member has them or not. -/
  cells : ∀ e, w.map.field? key = some e → ∀ n i, e.place? ≠ some (n, i) →
    w'.value.cell? n i = w.value.cell? n i
  /-- Bases keep their places and their types. -/
  bases : ∀ n, (w'.value.up? n).map (·.typeId?) = (w.value.up? n).map (·.typeId?)

/-- A value is put under a key in place of another. -/
def Puts (w : View) (key : String) (old new : Datum) (w' : View) : Prop :=
  ∃ e, w.map.field? key = some e ∧ e.Puts w.value old new w'.value ∧ w'.map = w.map

variable {w w' : View} {key : String} {old new : Datum}

theorem set_eq_ok_iff : w.set key new = .ok (old, w') ↔ w.Puts key old new w' := by
  unfold set Puts
  cases w.map.field? key with
  | none => simp
  | some e =>
    obtain ⟨m, v'⟩ := w'
    simp only [Option.some.injEq, exists_eq_left', ← Entry.replace_eq_iff]
    cases hr : e.replace w.value new with
    | mk replaced returned after =>
      cases replaced with
      | false => simp
      | true =>
        constructor
        · rintro h; cases h; exact ⟨rfl, rfl⟩
        · rintro ⟨h, rfl⟩; cases h; rfl

/-- The old content is of the kind of the new one, so a caller that expects this gets it. -/
theorem insert_eq_ok_iff : w.insert key new = .ok (old, w') ↔ w.Puts key old new w' := by
  rw [← set_eq_ok_iff]
  unfold insert
  constructor
  · intro h
    split at h
    · cases h
    · rename_i hs
      split at h
      · cases h; exact hs
      · cases h
  · intro hs
    obtain ⟨e, -, ⟨-, -, -, -, hk, -⟩, -⟩ := set_eq_ok_iff.1 hs
    simp only [hs, if_pos hk.symm]

theorem assign_eq_true_iff :
    w.assign key new = some (true, w') ↔ ∃ old, w.Puts key old new w' := by
  unfold assign Puts
  cases w.map.field? key with
  | none => simp
  | some e =>
    obtain ⟨m, v'⟩ := w'
    simp only [Option.bind_some, Option.some.injEq, exists_eq_left', exists_and_right,
      ← Entry.assign_eq_true_iff]
    cases he : e.assign w.value new with
    | none => simp
    | some p =>
      obtain ⟨done, after⟩ := p
      constructor
      · intro h; cases h; exact ⟨rfl, rfl⟩
      · rintro ⟨h, rfl⟩; cases h; rfl

theorem Puts.back (h : w.Puts key old new w') : w'.Puts key new old w := by
  obtain ⟨e, he, hputs, hmap⟩ := h
  exact ⟨e, hmap ▸ he, hputs.back, hmap.symm⟩

/-! ## What a write changes -/

/-- Keys of different normal forms are in different places. -/
theorem place_ne_of_normal_ne (hm : w.map.Obtained) {other : String} {e e' : Entry}
    (he : w.map.field? key = some e) (he' : w.map.field? other = some e')
    (hne : w.map.casing.normal other ≠ w.map.casing.normal key) {place : Nat × Nat}
    (hp : e.place? = some place) : e'.place? ≠ some place := by
  intro hp'
  have hrow := hm.apart.apart _ (Rows.mem_of_get? he') _ (Rows.mem_of_get? he) place hp' hp
  exact hne (Option.some.inj (congrArg Prod.fst hrow))

/-- The member behind a key shares its place with no member of another level, nor with another
member of the layout that declares it. -/
theorem place_ne_of_member_ne (hm : w.map.Obtained) {e x : Entry} (he : w.map.field? key = some e)
    (hx : x.member ∈ x.declaring.members)
    (hne : x.path.length = e.path.length → x.declaring = e.declaring ∧ x.member ≠ e.member)
    {place : Nat × Nat} (hp : e.place? = some place) : x.place? ≠ some place := by
  intro hp'
  obtain ⟨n, i⟩ := place
  obtain ⟨hn, hi⟩ := Entry.place?_eq_some_iff.1 hp
  obtain ⟨hn', hi'⟩ := Entry.place?_eq_some_iff.1 hp'
  obtain ⟨hdeclaring, hmember⟩ := hne (hn'.trans hn.symm)
  obtain ⟨hdeclared, hapart⟩ := hm.apart.declared _ (Rows.mem_of_get? he)
  exact hmember (hapart.eq_of_slot (hdeclaring ▸ hx) hdeclared hi' hi)

theorem Puts.wrote (hm : w.map.Obtained) (h : w.Puts key old new w') : Wrote w key old new w' := by
  obtain ⟨e, he, ⟨n, i, hp, hget, -, hv⟩, hmap⟩ := h
  have hmembers : ∀ x : Entry, x.member ∈ x.declaring.members →
      (x.path.length = e.path.length → x.declaring = e.declaring ∧ x.member ≠ e.member) →
      x.get w'.value = x.get w.value := by
    intro x hx hne
    rw [hv, Entry.get_write_of_ne (place_ne_of_member_ne hm he hx hne hp)]
  refine ⟨hmap, ?_, ?_, ?_, ?_, ?_, ?_, ?_⟩
  · rw [get, he]; exact hget
  · rw [get, hmap, he, hv]; exact Entry.get_write_self hp hget new
  · intro other hother
    rw [get, get, hmap, hv]
    cases he' : w.map.field? other with
    | none => rfl
    | some e' =>
      exact Entry.get_write_of_ne (place_ne_of_normal_ne hm he he' hother hp) ..
  · intro e₁ he₁ x hx hne
    cases he.symm.trans he₁
    exact hmembers x hx hne
  · intro hbuild e₁ he₁ x hlevel hx hne
    cases he.symm.trans he₁
    refine hmembers (x.entry w.map.layout) hx fun hlen => ?_
    -- the levels that the two paths lead to are levels of one chain
    rw [Listed.length_path_entry hlevel] at hlen
    have hdeclaring := KeyMap.chain_of_mem_filed hbuild (Rows.mem_of_get? he)
    rw [← hlen, hlevel] at hdeclaring
    exact ⟨Option.some.inj hdeclaring, fun hmember => hne (by rw [hlen, ← hmember]; rfl)⟩
  · intro e₁ he₁ k j hne
    cases he.symm.trans he₁
    rw [hv, Value.cell?_write_of_ne fun h => hne (h ▸ hp)]
  · intro k
    rw [hv, Value.typeId?_up?_write]

/-- A member can be reached to store a value in place exactly when its key has a content, and the
value is stored if it is of the kind of this content. -/
theorem assign_fst (w : View) (key : String) (new : Datum) :
    (w.assign key new).map (·.1) =
      ((w.get key).map (·.kind)).map fun k => decide (new.kind = k) := by
  unfold assign get
  cases w.map.field? key with
  | none => rfl
  | some e => simpa [Function.comp_def] using e.assign_fst w.value new

/-- A view is a lawful store of contents under keys. Through a key map that was built, or that a
shared registry gave, for a type whose members have slots of their own: a value that is put under
a key takes the place of the content that is handed out and of nothing else, and the old content,
put back, gives the very view that was there before. The same goes for a value that is stored in
place, which can be done wherever there is a content of its kind (`assign_fst`). -/
theorem write_lawful (hm : w.map.Obtained) (key : String) (new : Datum) :
    (∀ old w', w.set key new = .ok (old, w') ∨ w.insert key new = .ok (old, w') →
      Wrote w key old new w' ∧
        w'.set key old = .ok (new, w) ∧ w'.insert key old = .ok (new, w)) ∧
    ∀ w', w.assign key new = some (true, w') →
      ∃ old, Wrote w key old new w' ∧
        w'.set key old = .ok (new, w) ∧ w'.assign key old = some (true, w) := by
  constructor
  · intro old w' h
    have hputs : w.Puts key old new w' := h.elim set_eq_ok_iff.1 insert_eq_ok_iff.1
    exact ⟨hputs.wrote hm, set_eq_ok_iff.2 hputs.back, insert_eq_ok_iff.2 hputs.back⟩
  · intro w' h
    obtain ⟨old, hputs⟩ := assign_eq_true_iff.1 h
    exact ⟨old, hputs.wrote hm, set_eq_ok_iff.2 hputs.back, assign_eq_true_iff.2 ⟨_, hputs.back⟩⟩

/-! ## A key of a base -/

/-- A type with two keys, the base of which has a key, a slot that is no key, and a sealed member. -/
def sampleEmployee : Layout :=
  .embedding ⟨"Employee", 2, .record,
      [⟨"badge", none, {}, "u32", .slot 0, []⟩, ⟨"desk", none, {}, "u32", .slot 1, []⟩], []⟩
    "person"
    (.root ⟨"Person", 1, .record,
      [⟨"name", none, {}, "alloc::string::String", .slot 0, []⟩,
        ⟨"listed", none, { excluded := true }, "bool", .slot 1, []⟩,
        ⟨"token", none, { excluded := true }, "Token", .sealed, []⟩], []⟩)

/-- An instance of the type. -/
def sampleValue : Value :=
  .embedding 2 (.slots [some (.u32 7), some (.u32 3)])
    (.root 1 (.slots [some (.string "Eve"), some (.bool true)]))

theorem write_lawful_base :
    ∃ m, KeyMap.build .folded sampleEmployee = .ok m ∧ KeyMap.Obtained m ∧
      (∃ w', set ⟨m, sampleValue⟩ "NAME" (.string "Ada") = .ok (.string "Eve", w') ∧
        Wrote ⟨m, sampleValue⟩ "NAME" (.string "Eve") (.string "Ada") w' ∧
        w'.set "NAME" (.string "Eve") = .ok (.string "Ada", ⟨m, sampleValue⟩)) ∧
      ∃ w', assign ⟨m, sampleValue⟩ "Desk" (.u32 4) = some (true, w') ∧
        Wrote ⟨m, sampleValue⟩ "Desk" (.u32 3) (.u32 4) w' ∧
        w'.set "Desk" (.u32 3) = .ok (.u32 4, ⟨m, sampleValue⟩) ∧
        w'.assign "Desk" (.u32 3) = some (true, ⟨m, sampleValue⟩) := by
  have hwrites : ∃ m, KeyMap.build .folded sampleEmployee = .ok m ∧
      (∃ w', set ⟨m, sampleValue⟩ "NAME" (.string "Ada") = .ok (.string "Eve", w')) ∧
      get ⟨m, sampleValue⟩ "Desk" = some (.u32 3) ∧
      ∃ w', assign ⟨m, sampleValue⟩ "Desk" (.u32 4) = some (true, w') :=
    ⟨_, rfl, ⟨_, rfl⟩, rfl, _, rfl⟩
  obtain ⟨m, hbuild, ⟨w', hset⟩, hget, w'', hassign⟩ := hwrites
  have hm : KeyMap.Obtained m := .built (by decide) hbuild
  obtain ⟨hwrote, hback, -⟩ := (write_lawful hm "NAME" (.string "Ada")).1 _ _ (.inl hset)
  obtain ⟨old, hstored, hreset, hrestored⟩ := (write_lawful hm "Desk" (.u32 4)).2 _ hassign
  obtain rfl : old = .u32 3 := Option.some.inj (hstored.before.symm.trans hget)
  exact ⟨m, hbuild, hm, ⟨w', hset, hwrote, hback⟩, w'', hassign, hstored, hreset, hrestored⟩

end View

end RecordKeys
