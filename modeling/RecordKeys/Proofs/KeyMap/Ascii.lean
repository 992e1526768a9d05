/-
Types whose names are ASCII. Without regard to case, such names are the same exactly if they are equal
up to the case of their letters: no name of ASCII characters is overlooked, and lowering it lowers
each of its letters by itself. So a type fails exactly if two of its members have equal letters in
their names, a name in any spelling is looked up to the member with these letters, and the keys are
the names in small letters.
-/
import RecordKeys.Proofs.KeyMap.Faults
import RecordKeys.Proofs.KeyMap.Uniform

namespace RecordKeys

/-! ## Texts -/

namespace Text

/-- A text of ASCII characters. -/
def IsAscii (s : String) : Prop := ∀ c ∈ s.toList, c.toNat < 128

instance (s : String) : Decidable (IsAscii s) := List.decidableBAll _ s.toList

/-- Two texts that are equal up to the case of the letters A to Z. -/
def SameLetters (a b : String) : Prop := a.toLower = b.toLower

theorem toList_toLower (s : String) : s.toLower.toList = s.toList.map Char.toLower :=
  String.toList_map

theorem sameLetters_iff {a b : String} :
    SameLetters a b ↔ a.toList.map Char.toLower = b.toList.map Char.toLower := by
  rw [SameLetters, ← String.toList_inj, toList_toLower, toList_toLower]

instance (a b : String) : Decidable (SameLetters a b) := decidable_of_iff' _ sameLetters_iff

/-- What the tables say of the ASCII characters: those from A to Z are lowered to the letters from a
to z, and all others to themselves. -/
theorem lowerChar_ascii :
    ∀ n < 128, lowerChar (Char.ofNat n) = [(Char.ofNat n).toLower] ∧ Char.ofNat n ≠ 'Σ' ∧
      isTitle (Char.ofNat n) = false := by
  decide +kernel

theorem lowerFrom_ascii {s : List Char} (h : ∀ c ∈ s, c.toNat < 128) (before : List Char) :
    lowerFrom before s = s.map Char.toLower := by
  induction s generalizing before with
  | nil => rfl
  | cons c s ih =>
    obtain ⟨hc, hs⟩ := List.forall_mem_cons.1 h
    obtain ⟨hlower, hsigma, -⟩ := lowerChar_ascii c.toNat hc
    rw [Char.ofNat_toNat] at hlower hsigma
    rw [lowerFrom, if_neg hsigma, hlower, ih hs, List.map_cons, List.singleton_append]

theorem IsAscii.lowercase_eq {s : String} (h : IsAscii s) : lowercase s = s.toLower := by
  rw [← String.toList_inj, lowercase, String.toList_ofList, lowerFrom_ascii h, toList_toLower]

theorem IsAscii.not_overlooked {s : String} (h : IsAscii s) : ¬ Overlooked s := by
  rintro ⟨-, htitle⟩
  obtain ⟨c, hc, htitle⟩ := List.any_eq_true.1 htitle
  obtain ⟨-, -, hno⟩ := lowerChar_ascii c.toNat (h c hc)
  rw [Char.ofNat_toNat, htitle] at hno
  cases hno

end Text

/-! ## Names -/

namespace Casing

theorem normal_ascii {name : String} (h : Text.IsAscii name) : folded.normal name = name.toLower := by
  rw [normal_of_not_overlooked h.not_overlooked, h.lowercase_eq]

/-- Two names are one if they are both null or have equal letters. -/
theorem key_ascii_eq_iff {m n : Name} (hm : ∀ name, m = some name → Text.IsAscii name)
    (hn : ∀ name, n = some name → Text.IsAscii name) :
    folded.key m = folded.key n ↔ Option.Rel Text.SameLetters m n := by
  cases m with
  | none =>
    cases n with
    | none => exact ⟨fun _ => .none, fun _ => rfl⟩
    | some b => exact ⟨nofun, nofun⟩
  | some a =>
    cases n with
    | none => exact ⟨nofun, nofun⟩
    | some b =>
      rw [key_some, key_some, normal_ascii (hm a rfl), normal_ascii (hn b rfl), Option.some.injEq]
      exact ⟨fun h => .some h, fun | .some h => h⟩

end Casing

namespace KeyMap

variable {t : Layout} {casing : Casing}

/-! ## Two members of one name -/

theorem not_nodup_keys_iff :
    ¬ (t.listing.map (·.key casing)).Nodup ↔
      ∃ (i j : Nat) (x y : Listed), i < j ∧ t.listing[i]? = some x ∧ t.listing[j]? = some y ∧
        x.key casing = y.key casing := by
  rw [List.Nodup, List.pairwise_map, List.pairwise_iff_getElem]
  constructor
  · intro h
    push Not at h
    obtain ⟨i, j, hi, hj, hij, he⟩ := h
    exact ⟨i, j, _, _, hij, List.getElem?_eq_getElem hi, List.getElem?_eq_getElem hj, he⟩
  · rintro ⟨i, j, x, y, hij, hx, hy, he⟩ h
    obtain ⟨hi, rfl⟩ := List.getElem?_eq_some_iff.1 hx
    obtain ⟨hj, rfl⟩ := List.getElem?_eq_some_iff.1 hy
    exact h i j hi hj hij he

/-- A type without enumerations in its chain fails exactly if two of its listed members have one name,
and for no other reason. -/
theorem build_of_records (ht : ∀ u ∈ t.chain, u.isEnum = false) :
    ((∃ type name first second c, build casing t = .error (.sameName type name first second c)) ↔
      ¬ (t.listing.map (·.key casing)).Nodup) ∧
    ∀ fault, build casing t = .error fault →
      ∃ type name first second c, fault = .sameName type name first second c := by
  have hfold : ¬ (t.isEnum ∧ casing = .folded) := by simp [ht t t.self_mem_chain]
  have hbases : ∀ u ∈ t.chain.tail, u.isEnum = false := fun u hu => ht u (List.mem_of_mem_tail hu)
  have hfails : ∀ fault, build casing t = .error fault → ¬ (t.listing.map (·.key casing)).Nodup := by
    intro fault h hnodup
    obtain ⟨m, hm⟩ := (build_isOk_iff t).2 ⟨hfold, hbases, hnodup⟩
    rw [hm] at h; cases h
  have hclash : ¬ (t.listing.map (·.key casing)).Nodup →
      ∃ type name first second c, build casing t = .error (.sameName type name first second c) := by
    intro hkeys
    obtain ⟨first, second, -, hfault⟩ := build_of_clash hfold hbases hkeys
    exact ⟨_, _, _, _, _, hfault⟩
  refine ⟨⟨?_, hclash⟩, fun fault h => ?_⟩
  · rintro ⟨type, name, first, second, c, h⟩
    exact hfails _ h
  · obtain ⟨type, name, first, second, c, hfault⟩ := hclash (hfails fault h)
    rw [h] at hfault
    cases hfault
    exact ⟨type, name, first, second, c, rfl⟩

/-- The keys that are listed are the normal forms of the names of the listed members that are not
null. -/
theorem keys_perm {m : KeyMap} (h : build casing t = .ok m) :
    m.keys.Perm ((t.listing.filterMap (·.member.wireName)).map casing.normal) := by
  have hwf := (build_spec h).2.2.2
  have hnames : m.names.Perm (t.listing.map (·.key casing)) := by
    rw [← keys_of_build h, List.perm_ext_iff_of_nodup hwf.increasing.nodup hwf.nodup]
    exact hwf.mem_names
  have hkeys : (t.listing.map (·.key casing)).filterMap id =
      (t.listing.filterMap (·.member.wireName)).map casing.normal := by
    rw [List.filterMap_map, List.map_filterMap]
    rfl
  rw [← hkeys]
  exact hnames.filterMap id

/-! ## Types whose names are ASCII -/

/-- ASCII names are names without regard to case. A type of records whose listed members have ASCII
names fails without regard to case exactly if two of these, of one level or of two, have names with
equal letters, or are both null. Otherwise an ASCII name in any spelling is looked up to the one
member that has its letters, if there is one, and the keys are the names in small letters, each once
and in increasing order. -/
theorem build_folds_ascii (hrecords : ∀ u ∈ t.chain, u.isEnum = false)
    (hascii : ∀ x ∈ t.listing, ∀ name, x.member.wireName = some name → Text.IsAscii name) :
    ((∃ type name first second casing,
        build .folded t = .error (.sameName type name first second casing)) ↔
      ∃ (i j : Nat) (x y : Listed), i < j ∧ t.listing[i]? = some x ∧ t.listing[j]? = some y ∧
        Option.Rel Text.SameLetters x.member.wireName y.member.wireName) ∧
    (∀ fault, build .folded t = .error fault →
      ∃ type name first second casing, fault = .sameName type name first second casing) ∧
    ∀ m, build .folded t = .ok m →
      (∀ name, Text.IsAscii name →
        (∀ x ∈ t.listing, Option.Rel Text.SameLetters x.member.wireName (some name) →
          m.field? name = some (x.entry t) ∧
          ∀ y ∈ t.listing, Option.Rel Text.SameLetters y.member.wireName (some name) → y = x) ∧
        ((∀ x ∈ t.listing, ¬ Option.Rel Text.SameLetters x.member.wireName (some name)) →
          m.field? name = none)) ∧
      m.keys.Perm ((t.listing.filterMap (·.member.wireName)).map String.toLower) ∧
      Name.Increasing (m.keys.map some) := by
  have hsame : ∀ x ∈ t.listing, ∀ n : Name, (∀ name, n = some name → Text.IsAscii name) →
      (x.key .folded = Casing.folded.key n ↔ Option.Rel Text.SameLetters x.member.wireName n) :=
    fun x hx n hn => Casing.key_ascii_eq_iff (hascii x hx) hn
  obtain ⟨hfails, honly⟩ := @build_of_records t .folded hrecords
  refine ⟨?_, honly, fun m hm => ⟨fun name hname => ⟨fun x hx hletters => ?_, fun hnone => ?_⟩, ?_,
    increasing_keys (build_spec hm).2.2.2⟩⟩
  · rw [hfails, not_nodup_keys_iff]
    refine exists₄_congr fun i j x y => and_congr_right fun _ => and_congr_right fun hx =>
      and_congr_right fun hy => ?_
    exact hsame x (List.mem_of_getElem? hx) _ (hascii y (List.mem_of_getElem? hy))
  · have hname' : ∀ own, some name = some own → Text.IsAscii own := fun _ h =>
      Option.some.inj h ▸ hname
    have hkey := (hsame x hx _ hname').2 hletters
    refine ⟨lookup_of_build hm hx hkey, fun y hy hy' => ?_⟩
    have hnodup := ((build_isOk_iff t).1 ⟨m, hm⟩).2.2
    exact List.inj_on_of_nodup_map hnodup hy hx (((hsame y hy _ hname').2 hy').trans hkey.symm)
  · have hname' : ∀ own, some name = some own → Text.IsAscii own := fun _ h =>
      Option.some.inj h ▸ hname
    exact lookup_eq_none_of_build hm fun x hx hkey => hnone x hx ((hsame x hx _ hname').1 hkey)
  · have hlower : (t.listing.filterMap (·.member.wireName)).map Casing.folded.normal =
        (t.listing.filterMap (·.member.wireName)).map String.toLower := by
      refine List.map_congr_left fun name hname => ?_
      obtain ⟨x, hx, hown⟩ := List.mem_filterMap.1 hname
      exact Casing.normal_ascii (hascii x hx name hown)
    exact hlower ▸ keys_perm hm

/-! ## Headers of a message -/

/-- A type whose keys are spelled as headers of a message are, and one that embeds it. -/
def sampleHeaders : Layout :=
  .root ⟨"Headers", 1, .record,
    [⟨"content_type", some "Content-Type", {}, "alloc::string::String", .slot 0, []⟩,
      ⟨"etag", some "ETag", {}, "alloc::string::String", .slot 1, []⟩], []⟩

def sampleResponse : Layout :=
  .embedding ⟨"Response", 2, .record, [⟨"age", some "Age", {}, "u32", .slot 0, []⟩], []⟩ "headers"
    sampleHeaders

/-- One that spells the name of a header otherwise. -/
def sampleRetry : Layout :=
  .embedding ⟨"Retry", 3, .record, [⟨"tag", some "etaG", {}, "u32", .slot 0, []⟩], []⟩ "headers"
    sampleHeaders

theorem build_folds_ascii_headers :
    (∃ m e, build .folded sampleResponse = .ok m ∧ m.field? "CONTENT-type" = some e ∧
      e.name = some "Content-Type" ∧ m.field? "Content_Type" = none ∧
      m.keys.Perm (["Content-Type", "ETag", "Age"].map String.toLower)) ∧
    ∃ type name first second casing,
      build .folded sampleRetry = .error (.sameName type name first second casing) := by
  obtain ⟨m, hm⟩ := (@build_isOk_iff .folded sampleResponse).2 (by decide +kernel)
  obtain ⟨-, -, hbuilt⟩ := build_folds_ascii (t := sampleResponse) (by decide) (by decide)
  obtain ⟨hfield, hkeys, -⟩ := hbuilt m hm
  obtain ⟨hclash, -, -⟩ := build_folds_ascii (t := sampleRetry) (by decide) (by decide)
  refine ⟨⟨m, sampleResponse.listing[0].entry sampleResponse, hm, ?_, rfl, ?_, hkeys⟩,
    hclash.2 ⟨1, 2, _, _, by decide, rfl, rfl, .some (by decide)⟩⟩
  · exact ((hfield "CONTENT-type" (by decide)).1 sampleResponse.listing[0]
      (List.getElem_mem _) (.some (by decide))).1
  · refine (hfield "Content_Type" (by decide)).2 fun x hx h => ?_
    have hother : ∀ x ∈ sampleResponse.listing, ∀ name, x.member.wireName = some name →
        ¬ Text.SameLetters name "Content_Type" := by
      decide
    generalize hown : x.member.wireName = own at h
    cases h with | some h => exact hother x hx _ hown h

end KeyMap

end RecordKeys
