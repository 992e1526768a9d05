/-
How the spelling of a name bears on its key. A name and its normal form are the same name to a key
map, so what a key map lists can be looked up as it is listed. Without regard to case, names that
are lowered to the same text are one name, except that a name which is overlooked, having letters in
title case and no capitals, is one name with itself only.
-/
import RecordKeys.Proofs.KeyMap.Flattening
import RecordKeys.Proofs.KeyMap.Uniform

namespace RecordKeys.KeyMap

/-! ## Names as they are listed -/

/-- Normal forms are stable. The normal form of a normal form is itself; and in a key map whose bases
were asked for in its own casing, a name is looked up to the key at its position, and a name of any
spelling to the same key as its normal form. The names that are not null stand behind the null name,
if it is there. -/
theorem normal_stable (casing : Casing) :
    (∀ name, casing.normal (casing.normal name) = casing.normal name) ∧
    ∀ t m, Resolved t casing m →
      (∀ k ∈ m.keys, (m.field? k).isSome) ∧
      (∀ (i : Nat) (k : String), m.keys[i]? = some k →
        m.names[m.names.count none + i]? = some (some k) ∧
          m.fields[m.names.count none + i]? = m.field? k) ∧
      (∀ (i : Nat) (n : Name), m.names[i]? = some n →
        ∃ e, m.lookup n = some e ∧ m.fields[i]? = some e) ∧
      (∀ name, m.field? (casing.normal name) = m.field? name) ∧
      ∀ n, m.lookup (casing.key n) = m.lookup n := by
  refine ⟨casing.normal_normal, fun t m hm => ?_⟩
  have huniform := hm.uniform
  have hnames : ∀ (i : Nat) (k : String), m.keys[i]? = some k →
      m.names[m.names.count none + i]? = some (some k) := by
    intro i k hk
    rw [names_getElem? huniform.wf, hk]; rfl
  have hlookup : ∀ n, m.lookup (casing.key n) = m.lookup n := by
    intro n
    rw [lookup, lookup, huniform.casing_eq, Casing.key_key]
  refine ⟨fun k hk => ?_, fun i k hk => ⟨hnames i k hk, ?_⟩,
    fun i n hn => huniform.fields_getElem? hn, fun name => hlookup (some name), hlookup⟩
  · obtain ⟨i, hi⟩ := List.getElem?_of_mem hk
    obtain ⟨e, he, -⟩ := huniform.fields_getElem? (hnames i k hi)
    exact Option.isSome_iff_exists.2 ⟨e, he⟩
  · obtain ⟨e, he, hfield⟩ := huniform.fields_getElem? (hnames i k hk)
    rw [hfield, field?, he]

/-- A type whose names are lowered to a longer text, to another letter at the end of a word, and in
part only, as one of their capitals has no small letter. -/
def sampleLetters : Layout :=
  .root ⟨"Letters", 1, .record,
    [⟨"bold", some "𝐀B", {}, "u8", .slot 0, []⟩, ⟨"sigma", some "ΣΑΣ", {}, "u8", .slot 1, []⟩,
      ⟨"dotted", some "İ", {}, "u8", .slot 2, []⟩], []⟩

theorem normal_stable_letters :
    ∃ m, build .folded sampleLetters = .ok m ∧ m.keys = ["i\u0307", "σας", "𝐀b"] ∧
      m.fields[2]? = m.field? "𝐀b" ∧ (m.field? "𝐀b").isSome ∧ m.field? "𝐀b" = m.field? "𝐀B" := by
  obtain ⟨m, hm⟩ : ∃ m, build .folded sampleLetters = .ok m :=
    (build_isOk_iff _).2 (by decide +kernel)
  have hnames : m.names = [some "i\u0307", some "σας", some "𝐀b"] :=
    eq_of_map_build (f := (·.names)) hm (by decide +kernel)
  have hkeys : m.keys = ["i\u0307", "σας", "𝐀b"] := by rw [keys, hnames]; rfl
  have hnormal : Casing.folded.normal "𝐀B" = "𝐀b" := by decide +kernel
  obtain ⟨hsome, hfields, -, hspelling, -⟩ := (normal_stable .folded).2 _ m (.built hm)
  refine ⟨m, hm, hkeys, ?_, hsome "𝐀b" (by simp [hkeys]), ?_⟩
  · have hcount : m.names.count none = 0 := by rw [hnames]; rfl
    have hfield := (hfields 2 "𝐀b" (by rw [hkeys]; rfl)).2
    rwa [hcount] at hfield
  · rw [← hspelling "𝐀B", hnormal]

/-! ## Names that are lowered to the same text -/

/-- Without regard to case, a name is known by its small letters unless it is overlooked: the normal
form is the lowered name exactly for the names that are not overlooked, and those that are overlooked
are their own normal forms. Two names have one normal form exactly if they are alike. So a type fails
for its names exactly if two of its listed members have names that are alike, or have the null name;
and a name is looked up exactly to the key whose name is like it. -/
theorem folding_overlooks (name other : String) (t : Layout) :
    (Casing.folded.normal name = Text.lowercase name ↔ ¬ Text.Overlooked name) ∧
    (Text.Overlooked name → Casing.folded.normal name = name) ∧
    (Casing.folded.normal name = Casing.folded.normal other ↔ Text.Alike name other) ∧
    ((∃ m, build .folded t = .ok m) ↔
      t.isEnum = false ∧ (∀ u ∈ t.chain.tail, u.isEnum = false) ∧
        t.listing.Pairwise fun x y => ¬ Option.Rel Text.Alike x.member.wireName y.member.wireName) ∧
    ∀ m, Resolved t .folded m → ∀ n e,
      m.lookup n = some e ↔ e ∈ m.fields ∧ Option.Rel Text.Alike e.name n := by
  refine ⟨Casing.normal_eq_lowercase_iff, Casing.normal_of_overlooked, Casing.normal_eq_normal_iff,
    ?_, fun m hm n e => ?_⟩
  · have hnames : (t.listing.map (·.key .folded)).Nodup ↔
        t.listing.Pairwise fun x y => ¬ Option.Rel Text.Alike x.member.wireName y.member.wireName := by
      rw [List.Nodup, List.pairwise_map]
      exact List.Pairwise.iff fun x y => Casing.key_folded_eq_iff.not
    rw [build_isOk_iff, hnames]
    simp
  · rw [hm.uniform.lookup_eq_some_iff, Casing.key_folded_eq_iff]

/-- A type with a digraph of two capitals for a name. -/
def sampleDigraph : Layout :=
  .root ⟨"Digraph", 1, .record, [⟨"large", some "Ǆ", {}, "u8", .slot 0, []⟩], []⟩

theorem folding_overlooks_digraph :
    ∃ m e, build .folded sampleDigraph = .ok m ∧ e.name = some "Ǆ" ∧
      m.lookup (some "Ǆ") = some e ∧ m.lookup (some "ǆ") = some e ∧
      m.lookup (some "ǅ") ≠ some e := by
  obtain ⟨m, hm⟩ : ∃ m, build .folded sampleDigraph = .ok m :=
    (build_isOk_iff _).2 (by decide +kernel)
  let large : Listed := ⟨0, sampleDigraph, ⟨"large", some "Ǆ", {}, "u8", .slot 0, []⟩⟩
  have hfound : m.lookup (some "Ǆ") = some (large.entry sampleDigraph) :=
    lookup_of_build hm (x := large) List.mem_cons_self rfl
  have hspelling := (folding_overlooks "Ǆ" "ǆ" sampleDigraph).2.2.2.2 m (.built hm)
  have hfield := ((hspelling _ _).1 hfound).1
  refine ⟨m, large.entry sampleDigraph, hm, rfl, hfound, (hspelling _ _).2 ⟨hfield, .some (.inr ?_)⟩,
    fun h => ?_⟩
  · decide +kernel
  · -- a name in title case is like itself only
    have htitle : ¬ ("Ǆ" = "ǅ" ∨ Text.lowercase "Ǆ" = Text.lowercase "ǅ" ∧
      ¬ Text.Overlooked "Ǆ" ∧ ¬ Text.Overlooked "ǅ") := by decide +kernel
    obtain ⟨-, hlike⟩ := (hspelling _ _).1 h
    cases hlike with
    | some hlike => exact htitle hlike

/-- A type with two names that are lowered to the same text, one of them in title case. -/
def sampleDigraphs : Layout :=
  .root ⟨"Digraphs", 1, .record,
    [⟨"title", some "ǅ", {}, "u8", .slot 0, []⟩, ⟨"small", some "ǆ", {}, "u8", .slot 1, []⟩], []⟩

/-- A letter in title case that stands without capitals is not lowered. It is another key than its
small letter, although both are lowered to the same text. -/
theorem folding_keeps_titlecase :
    Text.lowercase "ǅ" = "ǆ" ∧ Text.lowercase "ǆ" = "ǆ" ∧ Casing.folded.normal "ǅ" = "ǅ" ∧
      ∃ m, build .folded sampleDigraphs = .ok m ∧ m.keys = ["ǅ", "ǆ"] ∧
        (m.declared? "ǅ").map (·.name) = some "title" ∧
        (m.declared? "ǆ").map (·.name) = some "small" := by
  refine ⟨by decide +kernel, by decide +kernel, by decide +kernel, ?_⟩
  obtain ⟨m, hm⟩ : ∃ m, build .folded sampleDigraphs = .ok m :=
    (build_isOk_iff _).2 (by decide +kernel)
  have hkeys : m.keys = ["ǅ", "ǆ"] := eq_of_map_build (f := (·.keys)) hm (by decide +kernel)
  have htitle : (m.declared? "ǅ").map (·.name) = some "title" :=
    eq_of_map_build (f := fun m => (m.declared? "ǅ").map (·.name)) hm (by decide +kernel)
  have hsmall : (m.declared? "ǆ").map (·.name) = some "small" :=
    eq_of_map_build (f := fun m => (m.declared? "ǆ").map (·.name)) hm (by decide +kernel)
  exact ⟨m, hm, hkeys, htitle, hsmall⟩

end RecordKeys.KeyMap
