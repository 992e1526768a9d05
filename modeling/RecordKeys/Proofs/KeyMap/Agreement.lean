/-
The two halves of a key map, whoever answers for the base. A build takes the answer as it is, and
the answer may be the key map of another type, or one in the other casing. If the halves of the
answer agree, then so do those of what is built from it: every name that is listed is filed, once,
so the keys in the order of the names leave nothing out. Only that names are filed under normal
forms needs more of the answer, namely that it is in the casing that was asked for.
-/
import RecordKeys.Proofs.KeyMap.Flattening
import RecordKeys.Proofs.KeyMap.Places
import RecordKeys.Proofs.KeyMap.Uniform

namespace RecordKeys.KeyMap

variable {answer : Layout → Casing → Except Fault KeyMap} {t : Layout} {casing : Casing}
  {base : Option KeyMap} {m : KeyMap}

/-! ## What a type is completed from -/

/-- The key map that is given for the base of a type. -/
def Given (answer : Layout → Casing → Except Fault KeyMap) (t : Layout) (casing : Casing)
    (b : KeyMap) : Prop :=
  ∃ u, t.base? = some u ∧ answer u casing = .ok b

/-- A build that succeeds completes the type from what it is given for the base. -/
theorem complete_of_buildVia (h : buildVia answer t casing = .ok m) :
    ∃ base, complete t casing base = .ok m ∧ ∀ b, base = some b ↔ Given answer t casing b := by
  unfold buildVia at h
  split at h
  · cases h
  · cases t with
    | root l => exact ⟨none, h, fun b => ⟨nofun, fun ⟨_, hu, _⟩ => nomatch hu⟩⟩
    | embedding l field u =>
      cases ha : answer u casing with
      | error fault => simp only [ha] at h; cases h
      | ok b =>
        simp only [ha] at h
        refine ⟨some b, h, fun b' => ⟨?_, ?_⟩⟩
        · intro hb; cases hb; exact ⟨u, rfl, ha⟩
        · rintro ⟨_, hu, hb⟩
          cases hu
          exact congrArg some (Except.ok.inj (ha.symm.trans hb))

theorem Given.link {b : KeyMap} (h : Given answer t casing b) : ∃ link, t.link? = some link := by
  obtain ⟨u, hu, -⟩ := h
  cases t with
  | root l => cases hu
  | embedding l field u => exact ⟨_, rfl⟩

/-! ## What a type has of its base and what it adds -/

theorem mem_keys_inherited (hlink : ∀ b, base = some b → ∃ link, t.link? = some link)
    (hwf : ∀ b, base = some b → b.toIndex.WF) {n : Name} :
    n ∈ (inherited t base).filed.keys ↔ ∃ b, base = some b ∧ n ∈ b.names := by
  cases base with
  | none =>
    have hempty : inherited t none = .empty := by unfold inherited; cases t.link? <;> rfl
    rw [hempty]
    exact ⟨nofun, nofun⟩
  | some b =>
    obtain ⟨link, hl⟩ := hlink b rfl
    have hseed : inherited t (some b) = seed link b := by simp only [inherited, hl]
    rw [hseed, filed_seed (hwf b rfl).nodup, keys_map_through, ← (hwf b rfl).mem_names]
    simp

theorem mem_keys_ownRows {n : Name} {members : List Member} :
    n ∈ (ownRows t casing members).keys ↔
      ∃ x ∈ members, x.isKey ∧ casing.key x.wireName = n := by
  unfold Rows.keys
  simp only [List.mem_map, mem_ownRows]
  constructor
  · rintro ⟨p, ⟨x, hx, hkey, rfl⟩, rfl⟩
    exact ⟨x, hx, hkey, rfl⟩
  · rintro ⟨x, hx, hkey, rfl⟩
    exact ⟨_, ⟨x, hx, hkey, rfl⟩, rfl⟩

/-- The names of a type are those of its base and the normal forms of its own members. -/
theorem mem_names_of_complete (hlink : ∀ b, base = some b → ∃ link, t.link? = some link)
    (hwf : ∀ b, base = some b → b.toIndex.WF) (h : complete t casing base = .ok m) {n : Name} :
    n ∈ m.names ↔ (∃ b, base = some b ∧ n ∈ b.names) ∨
      ∃ x ∈ t.members, x.isKey ∧ casing.key x.wireName = n := by
  obtain ⟨hfiled, hm⟩ := enrol_spec (inherited_wf hwf) (complete_eq_ok_iff.1 h).2.2
  rw [hm.mem_names, hfiled, Rows.keys_append, List.mem_append, mem_keys_inherited hlink hwf,
    mem_keys_ownRows]

/-! ## The two halves -/

/-- What is found is what is listed. -/
theorem isSome_lookup_iff (h : m.toIndex.WF) {n : Name} :
    (m.lookup n).isSome ↔ m.casing.key n ∈ m.names := by
  rw [h.mem_names]
  exact Rows.isSome_get?_iff

/-- The keys are as many as the names. -/
theorem length_fields (h : m.toIndex.WF) : m.fields.length = m.size := by
  have hlength := congrArg List.length (map_some_fields h)
  rwa [List.length_map, List.length_map] at hlength

/-- A build keeps the two halves of a key map in step, whatever it is given for the base, so long as
the halves of that agree: it may be the key map of another type or in the other casing. The keys then
are listed one for each name, in the order of the names; the names are those of the base, all of them,
and the normal forms of the type's own members; and a name is found exactly if its normal form is
listed. If what is given is in the casing that was asked for throughout, then so is what is built. -/
theorem buildVia_agrees (h : buildVia answer t casing = .ok m)
    (hwf : ∀ b, Given answer t casing b → b.toIndex.WF) :
    (m.toIndex.WF ∧ m.layout = t ∧ m.casing = casing) ∧
    (m.fields.map some = m.names.map m.find? ∧ m.fields.length = m.size) ∧
    (∀ n, n ∈ m.names ↔ (∃ b, Given answer t casing b ∧ n ∈ b.names) ∨
      ∃ x ∈ t.members, x.isKey ∧ casing.key x.wireName = n) ∧
    (∀ n, (m.lookup n).isSome ↔ casing.key n ∈ m.names) ∧
    ((∀ b, Given answer t casing b → b.Uniform casing) → m.Uniform casing) := by
  obtain ⟨base, hcomplete, hbase⟩ := complete_of_buildVia h
  have hbwf : ∀ b, base = some b → b.toIndex.WF := fun b hb => hwf b ((hbase b).1 hb)
  have hm := complete_wf hbwf hcomplete
  obtain ⟨hlayout, hcasing, -⟩ := complete_eq_ok_iff.1 hcomplete
  refine ⟨⟨hm, hlayout, hcasing⟩, ⟨map_some_fields hm, length_fields hm⟩, fun n => ?_, fun n => ?_,
    fun huniform => ?_⟩
  · rw [mem_names_of_complete (fun b hb => ((hbase b).1 hb).link) hbwf hcomplete]
    simp only [hbase]
  · rw [isSome_lookup_iff hm, hcasing]
  · exact complete_uniform (fun b hb => huniform b ((hbase b).1 hb)) hcomplete

/-! ## An answer that does not fit -/

/-- An enumeration with the null name and a name with a capital. -/
def sampleTint : Layout :=
  .root ⟨"Tint", 9, .enumeration,
    [⟨"Pale", none, {}, "Tint", .variant 0, []⟩,
      ⟨"Plain", none, { null := true }, "Tint", .variant 1, []⟩], []⟩

/-- A type that is told that its base has the keys of the enumeration, as they are written. -/
def samplePaint : Layout :=
  .embedding ⟨"Paint", 2, .record, [⟨"gloss", some "Gloss", {}, "u32", .slot 0, []⟩], []⟩ "stock"
    (.root ⟨"Stock", 1, .record, [⟨"weight", some "Weight", {}, "u32", .slot 0, []⟩], []⟩)

theorem buildVia_agrees_paint :
    ∃ m m', buildVia (fun _ _ => build .exact sampleTint) samplePaint .folded = .ok m ∧
      m.names = [none, some "Pale", some "gloss"] ∧ m.fields.length = m.size ∧
      (m.lookup (some "GLOSS")).isSome ∧ ¬ (m.lookup (some "Pale")).isSome ∧
      buildVia (fun u casing => build casing u) samplePaint .folded = .ok m' ∧
      m'.Uniform .folded ∧ (m'.lookup (some "WEIGHT")).isSome := by
  have hbuilt : ∀ answer names, (buildVia answer samplePaint .folded).map (·.names) = .ok names →
      ∃ m, buildVia answer samplePaint .folded = .ok m ∧ m.names = names := by
    intro answer names h
    cases hb : buildVia answer samplePaint .folded with
    | error fault => rw [hb] at h; cases h
    | ok m => rw [hb] at h; exact ⟨m, rfl, Except.ok.inj h⟩
  -- the null name and the capital come from an enumeration whose names are compared as written
  obtain ⟨m, hm, hnames⟩ := hbuilt (fun _ _ => build .exact sampleTint)
    [none, some "Pale", some "gloss"] (by decide +kernel)
  obtain ⟨-, ⟨-, hlength⟩, -, hlookup, -⟩ := buildVia_agrees hm
    fun b ⟨_, _, hb⟩ => (build_spec hb).2.2.2
  obtain ⟨m', hm', hnames'⟩ := hbuilt (fun u casing => build casing u)
    [some "gloss", some "weight"] (by decide +kernel)
  obtain ⟨-, -, -, hlookup', huniform⟩ := buildVia_agrees hm'
    fun b ⟨_, _, hb⟩ => (build_spec hb).2.2.2
  refine ⟨m, m', hm, hnames, hlength, ?_, ?_, hm',
    huniform fun b ⟨_, _, hb⟩ => (Resolved.built hb).uniform, ?_⟩
  · rw [hlookup, hnames]; decide +kernel
  · rw [hlookup, hnames]; decide +kernel
  · rw [hlookup', hnames']; decide +kernel

end RecordKeys.KeyMap
