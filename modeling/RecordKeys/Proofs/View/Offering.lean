/-
What comes of putting a value under a key, and what is left when it fails. There are three cases,
told apart by the view and the value alone: there is no such key; the key has a content of the kind
of the value; or the member behind the key refuses the value, for one of the reasons listed below.
Only in the second is anything written. A caller that expects the old content to be of the kind of
the value has it so, and is never told otherwise after the write.
-/
import RecordKeys.Proofs.KeyMap.Uniform
import RecordKeys.Proofs.Value.Bases
import RecordKeys.Proofs.View.Writing
import RecordKeys.View.Attempt

namespace RecordKeys

/-! ## One key -/

namespace Entry

variable {e : Entry} {v : Value} {d : Datum}

/-- Why a member refuses a value. -/
inductive Refuses (e : Entry) (v : Value) (d : Datum) : Prop
  /-- The member is sealed. -/
  | isSealed (access : e.member.access = .sealed)
  /-- The member is a variant. -/
  | isVariant {index : Nat} (access : e.member.access = .variant index)
  /-- A step of the path, after some that were taken, comes to an instance that it is not meant for,
  or that is without a base. -/
  | astray {before rest : List Link} {l : Link} {part : Value} (path : e.path = before ++ l :: rest)
    (reached : v.follow before = some part) (stop : part.base? l.owner = none)
  /-- The instance at the end of the path is not one that the slot is meant for, or the slot has
  nothing in it. -/
  | vacant {index : Nat} {part : Value} (access : e.member.access = .slot index)
    (reached : v.follow e.path = some part) (vacant : part.slot? e.declaring.id index = none)
  /-- The content of the slot is of another kind. -/
  | unlike {old : Datum} (content : e.get v = some old) (kind : d.kind ≠ old.kind)

/-- A member refuses the values that are not of the kind of its content, and if it has no content,
all of them. -/
theorem refuses_iff : e.Refuses v d ↔ ∀ old, e.get v = some old → d.kind ≠ old.kind := by
  have hget : ∀ i, e.member.access = .slot i →
      e.get v = (v.follow e.path).bind (·.slot? e.declaring.id i) := by
    intro i hi
    simp only [get, hi]
  constructor
  · intro h old hold
    cases h with
    | isSealed access => simp [get, access] at hold
    | isVariant access => simp [get, access] at hold
    | unlike content kind => cases content.symm.trans hold; exact kind
    | @vacant i part access reached vacant =>
      rw [hget i access, reached, Option.bind_some, vacant] at hold
      cases hold
    | @astray before rest l part path reached stop =>
      have hnone : v.follow e.path = none := by
        rw [path, Value.follow_append, reached, Option.bind_some, Value.follow_cons, stop]
        rfl
      cases ha : e.member.access with
      | sealed => simp [get, ha] at hold
      | variant i => simp [get, ha] at hold
      | slot i => rw [hget i ha, hnone] at hold; cases hold
  · intro h
    cases ha : e.member.access with
    | sealed => exact .isSealed ha
    | variant i => exact .isVariant ha
    | slot i =>
      cases hold : e.get v with
      | some old => exact .unlike hold (h old hold)
      | none =>
        rw [hget i ha] at hold
        cases hf : v.follow e.path with
        | none =>
          obtain ⟨before, l, rest, part, hpath, hreached, hstop⟩ := Value.exists_base?_eq_none hf
          exact .astray hpath hreached hstop
        | some part => rw [hf, Option.bind_some] at hold; exact .vacant ha hf hold

/-- What is left of an exchange. A slot whose content is of another kind is written, but with the
content that it has. -/
theorem exchange_cases (e : Entry) (v : Value) (d : Datum) :
    (∃ old after, e.exchange v d = ⟨true, old, after⟩ ∧ e.Puts v old d after) ∨
    (e.exchange v d = ⟨false, d, v⟩ ∧ e.Refuses v d) := by
  cases hget : e.get v with
  | none =>
    refine .inr ⟨?_, refuses_iff.2 fun old hold => ?_⟩
    · simp only [exchange, revise_of_get_eq_none hget]
    · rw [hget] at hold; cases hold
  | some old =>
    obtain ⟨n, i, hp⟩ := place?_of_get hget
    by_cases hk : d.kind = old.kind
    · refine .inl ⟨old, v.write d n i, ?_, n, i, hp, hget, hk, rfl⟩
      simp only [exchange, revise_of_get hp hget, Datum.exchange, if_pos hk, Option.map_some]
    · refine .inr ⟨?_, .unlike hget hk⟩
      simp only [exchange, revise_of_get hp hget, Datum.exchange, if_neg hk, Option.map_some,
        Value.write_self (cell?_of_get hp hget)]

theorem Puts.not_refuses {old : Datum} {after : Value} (h : e.Puts v old d after) :
    ¬ e.Refuses v d := by
  intro hrefuses
  obtain ⟨-, -, -, hold, hk, -⟩ := h
  exact refuses_iff.1 hrefuses old hold hk

/-- To offer a value and to put nothing back comes to the same as to offer it to a copy. -/
theorem exchange_eq_replace (e : Entry) (v : Value) (d : Datum) : e.exchange v d = e.replace v d := by
  rcases e.exchange_cases v d with ⟨old, after, hx, hputs⟩ | ⟨hx, hrefuses⟩
  · rw [hx, replace_eq_iff.2 hputs]
  · rw [hx]
    cases hr : e.revise (fun old : Datum => let x := old.exchange d
      if x.replaced then some (x.returned, x.slot) else none) v with
    | none => simp only [replace, hr]
    | some p =>
      obtain ⟨old, after⟩ := p
      have hputs : e.Puts v old d after := replace_eq_iff.1 (by simp only [replace, hr])
      exact absurd hrefuses hputs.not_refuses

end Entry

/-! ## Views -/

theorem KeyMap.field?_eq_none_iff {m : KeyMap} {key : String} :
    m.field? key = none ↔ m.casing.key (some key) ∉ m.filed.keys :=
  Rows.get?_eq_none_iff

theorem KeyMap.key_mem_of_field? {m : KeyMap} {key : String} {e : Entry} (h : m.field? key = some e) :
    m.casing.key (some key) ∈ m.filed.keys := by
  by_contra hno
  rw [field?_eq_none_iff.2 hno] at h
  cases h

namespace View

variable {w : View} {key : String} {d : Datum}

theorem get_of_field? {e : Entry} (h : w.map.field? key = some e) : w.get key = e.get w.value := by
  rw [get, h, Option.bind_some]

/-- A request to put a value under a key comes to one of three things. -/
theorem trySet_cases (w : View) (key : String) (d : Datum) :
    (w.map.field? key = none ∧
      w.trySet key d = ⟨.error (.unknownKey w.map.layout.name key), w⟩) ∨
    (∃ e old after, w.map.field? key = some e ∧ e.Puts w.value old d after ∧
      w.trySet key d = ⟨.ok old, { w with value := after }⟩) ∨
    (∃ e, w.map.field? key = some e ∧ e.Refuses w.value d ∧
      w.trySet key d = ⟨.error (.wrongKind key e.member.typeName), w⟩) := by
  cases he : w.map.field? key with
  | none => exact .inl ⟨rfl, by simp only [trySet, he]⟩
  | some e =>
    rcases e.exchange_cases w.value d with ⟨old, after, hx, hputs⟩ | ⟨hx, hrefuses⟩
    · refine .inr (.inl ⟨e, old, after, rfl, hputs, ?_⟩)
      simp only [trySet, he, hx, if_true]
    · refine .inr (.inr ⟨e, rfl, hrefuses, ?_⟩)
      simp only [trySet, he, hx, Bool.false_eq_true, if_false]

theorem result_trySet (w : View) (key : String) (d : Datum) :
    (w.trySet key d).result = w.set key d := by
  unfold trySet set
  cases w.map.field? key with
  | none => rfl
  | some e =>
    simp only [Entry.exchange_eq_replace, Attempt.result]
    split <;> rfl

/-- What has been handed out is of the kind of what was put. -/
theorem kind_of_trySet (w : View) (key : String) (d : Datum) :
    ∀ old, (w.trySet key d).answer = .ok old → old.kind = d.kind := by
  intro old h
  rcases trySet_cases w key d with
    ⟨-, ha⟩ | ⟨e, old', after, -, ⟨-, -, -, -, hk, -⟩, ha⟩ | ⟨e, -, -, ha⟩
  · rw [ha] at h; cases h
  · rw [ha] at h; cases h; exact hk.symm
  · rw [ha] at h; cases h

/-- A caller that expects the old content to be of the kind of the value is not told otherwise. -/
theorem tryInsert_eq_trySet (w : View) (key : String) (d : Datum) :
    w.tryInsert key d = w.trySet key d := by
  have hkind := kind_of_trySet w key d
  unfold tryInsert
  cases ha : w.trySet key d with
  | mk answer after =>
    cases answer with
    | error fault => rfl
    | ok old => simp only [if_pos (hkind old (by rw [ha]))]

theorem result_tryInsert (w : View) (key : String) (d : Datum) :
    (w.tryInsert key d).result = w.insert key d := by
  have hkind := kind_of_trySet w key d
  unfold insert
  rw [tryInsert_eq_trySet, ← result_trySet]
  cases ha : w.trySet key d with
  | mk answer after =>
    cases answer with
    | error fault => rfl
    | ok old =>
      simp only [Attempt.result, Except.map, if_pos (hkind old (by rw [ha]))]

/-- What comes of a request to put a value under a key, and what is left of the view. -/
structure Settles (w : View) (key : String) (d : Datum) (a : Attempt) : Prop where
  /-- There is no such key: nothing is filed under the normal form. The key is reported as it was
  passed. -/
  unknown : ∀ type k, a.answer = .error (.unknownKey type k) ↔
    (type = w.map.layout.name ∧ k = key) ∧ w.map.casing.key (some key) ∉ w.map.filed.keys
  /-- The value is taken: the key has a content of its kind. -/
  taken : ∀ old, a.answer = .ok old ↔ w.get key = some old ∧ d.kind = old.kind
  /-- The value is refused by the member. -/
  refused : ∀ k expected, a.answer = .error (.wrongKind k expected) ↔
    k = key ∧ ∃ e, w.map.field? key = some e ∧ e.Refuses w.value d ∧ expected = e.member.typeName
  /-- There is nothing else that can come of it. -/
  only : ∀ fault, a.answer = .error fault →
    (∃ type k, fault = .unknownKey type k) ∨ ∃ k expected, fault = .wrongKind k expected
  /-- A request that failed leaves the whole view as it was. -/
  kept : ∀ fault, a.answer = .error fault → a.after = w
  /-- A value that was taken is in the place of the old one. -/
  stored : ∀ old, a.answer = .ok old → w.Puts key old d a.after

theorem trySet_settles (w : View) (key : String) (d : Datum) :
    Settles w key d (w.trySet key d) := by
  rcases trySet_cases w key d with
    ⟨hnone, ha⟩ | ⟨e, old, after, he, hputs, ha⟩ | ⟨e, he, hrefuses, ha⟩
  · have hno := KeyMap.field?_eq_none_iff.1 hnone
    rw [ha]
    constructor
    · intro type k
      constructor
      · intro h; cases h; exact ⟨⟨rfl, rfl⟩, hno⟩
      · rintro ⟨⟨rfl, rfl⟩, -⟩; rfl
    · intro old; simp [get, hnone]
    · intro k expected; simp [hnone]
    · intro fault h; cases h; exact .inl ⟨_, _, rfl⟩
    · intro fault h; rfl
    · intro old h; cases h
  · obtain ⟨n, i, -, hold, hk, -⟩ := id hputs
    rw [← get_of_field? he] at hold
    rw [ha]
    constructor
    · intro type k
      constructor
      · intro h; cases h
      · rintro ⟨-, hno⟩; exact absurd (KeyMap.key_mem_of_field? he) hno
    · intro old'
      rw [hold]
      constructor
      · intro h; cases h; exact ⟨rfl, hk⟩
      · rintro ⟨h, -⟩; cases h; rfl
    · intro k expected
      constructor
      · intro h; cases h
      · rintro ⟨-, e', he', hrefuses, -⟩
        cases he.symm.trans he'
        exact absurd hrefuses hputs.not_refuses
    · intro fault h; cases h
    · intro fault h; cases h
    · intro old' h; cases h; exact ⟨e, he, hputs, rfl⟩
  · rw [ha]
    constructor
    · intro type k
      constructor
      · intro h; cases h
      · rintro ⟨-, hno⟩; exact absurd (KeyMap.key_mem_of_field? he) hno
    · intro old
      rw [get_of_field? he]
      constructor
      · intro h; cases h
      · rintro ⟨hold, hk⟩; exact absurd hk (Entry.refuses_iff.1 hrefuses old hold)
    · intro k expected
      constructor
      · intro h; cases h; exact ⟨rfl, e, he, hrefuses, rfl⟩
      · rintro ⟨rfl, e', he', -, rfl⟩; cases he.symm.trans he'; rfl
    · intro fault h; cases h; exact .inr ⟨_, _, rfl⟩
    · intro fault h; rfl
    · intro old h; cases h

/-- A request to put a value under a key comes to exactly one of three things, and only writes if the
value is taken. Whether a caller knows the kind of the old content beforehand makes no difference:
the check that is left after the write never fails. That the key is unknown means, in a key map
whose bases were asked for in its own casing, that no key has a name with its normal form; and in
one that was built, that no listed member of the type has. -/
theorem set_settles (w : View) (key : String) (d : Datum) :
    Settles w key d (w.trySet key d) ∧
    w.tryInsert key d = w.trySet key d ∧
    (∀ old, (w.trySet key d).answer = .ok old → old.kind = d.kind) ∧
    (w.trySet key d).result = w.set key d ∧ (w.tryInsert key d).result = w.insert key d ∧
    (∀ t casing, KeyMap.Resolved t casing w.map →
      ((∃ type k, (w.trySet key d).answer = .error (.unknownKey type k)) ↔
        ∀ e ∈ w.map.fields, casing.key e.name ≠ casing.key (some key))) ∧
    ∀ t casing, KeyMap.build casing t = .ok w.map →
      ((∃ type k, (w.trySet key d).answer = .error (.unknownKey type k)) ↔
        ∀ x ∈ t.listing, x.key casing ≠ casing.key (some key)) := by
  have hsettles := trySet_settles w key d
  have hunknown : (∃ type k, (w.trySet key d).answer = .error (.unknownKey type k)) ↔
      w.map.field? key = none := by
    rw [KeyMap.field?_eq_none_iff]
    constructor
    · rintro ⟨type, k, h⟩; exact ((hsettles.unknown type k).1 h).2
    · intro hno; exact ⟨_, key, (hsettles.unknown _ key).2 ⟨⟨rfl, rfl⟩, hno⟩⟩
  refine ⟨hsettles, tryInsert_eq_trySet w key d, kind_of_trySet w key d, result_trySet w key d,
    result_tryInsert w key d, fun t casing hm => ?_, fun t casing hm => ?_⟩
  · exact hunknown.trans hm.uniform.lookup_eq_none_iff
  · rw [hunknown]
    constructor
    · intro hnone x hx hkey
      cases hnone.symm.trans (KeyMap.lookup_of_build hm hx hkey)
    · exact KeyMap.lookup_eq_none_of_build hm

/-! ## An instance without its base -/

/-- An instance that is short of its base, and of the content of one of its slots. -/
def sampleOrphan : Value := .root 2 (.slots [some (.u32 7), none])

theorem set_settles_orphan :
    ∃ m, KeyMap.build .folded sampleEmployee = .ok m ∧
      trySet ⟨m, sampleOrphan⟩ "Nick" (.u32 1) =
        ⟨.error (.unknownKey "Employee" "Nick"), ⟨m, sampleOrphan⟩⟩ ∧
      tryInsert ⟨m, sampleOrphan⟩ "NAME" (.string "Ada") =
        ⟨.error (.wrongKind "NAME" "alloc::string::String"), ⟨m, sampleOrphan⟩⟩ ∧
      tryInsert ⟨m, sampleOrphan⟩ "Badge" (.u8 1) =
        ⟨.error (.wrongKind "Badge" "u32"), ⟨m, sampleOrphan⟩⟩ := by
  obtain ⟨m, hm⟩ : ∃ m, KeyMap.build .folded sampleEmployee = .ok m := ⟨_, rfl⟩
  have hattempt : ∀ (a : Attempt) answer after, a.answer = answer → a.after = after →
      a = ⟨answer, after⟩ := by
    rintro a _ _ rfl rfl; rfl
  refine ⟨m, hm, ?_, ?_, ?_⟩
  · obtain ⟨hsettles, -, -, -, -, -, hbuilt⟩ := set_settles ⟨m, sampleOrphan⟩ "Nick" (.u32 1)
    obtain ⟨type, k, ha⟩ := (hbuilt _ _ hm).2 (by decide +kernel)
    obtain ⟨⟨rfl, rfl⟩, -⟩ := (hsettles.unknown type k).1 ha
    have hlayout : m.layout = sampleEmployee := (KeyMap.build_spec hm).1
    rw [hlayout] at ha
    exact hattempt _ _ _ ha (hsettles.kept _ ha)
  · -- the first step to the base is not taken
    let name : Listed := ⟨1, sampleEmployee.chain[1], sampleEmployee.chain[1].members[0]⟩
    have he : m.field? "NAME" = some (name.entry sampleEmployee) :=
      KeyMap.lookup_of_build hm (x := name) List.mem_cons_self (by decide +kernel)
    obtain ⟨hsettles, heq, -⟩ := set_settles ⟨m, sampleOrphan⟩ "NAME" (.string "Ada")
    have hrefuses : (name.entry sampleEmployee).Refuses sampleOrphan (.string "Ada") :=
      @Entry.Refuses.astray _ _ _ [] [] ⟨2, "person"⟩ sampleOrphan rfl rfl rfl
    have ha := (hsettles.refused "NAME" "alloc::string::String").2 ⟨rfl, _, he, hrefuses, rfl⟩
    rw [heq]
    exact hattempt _ _ _ ha (hsettles.kept _ ha)
  · let badge : Listed := ⟨0, sampleEmployee, sampleEmployee.members[0]⟩
    have he : m.field? "Badge" = some (badge.entry sampleEmployee) :=
      KeyMap.lookup_of_build hm (x := badge) (.tail _ List.mem_cons_self) (by decide +kernel)
    obtain ⟨hsettles, heq, -⟩ := set_settles ⟨m, sampleOrphan⟩ "Badge" (.u8 1)
    have hrefuses : (badge.entry sampleEmployee).Refuses sampleOrphan (.u8 1) :=
      @Entry.Refuses.unlike _ _ _ (.u32 7) rfl (by decide)
    have ha := (hsettles.refused "Badge" "u32").2 ⟨rfl, _, he, hrefuses, rfl⟩
    rw [heq]
    exact hattempt _ _ _ ha (hsettles.kept _ ha)

end View

end RecordKeys
