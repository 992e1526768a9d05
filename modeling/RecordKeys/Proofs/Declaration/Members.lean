/-
Members as they are written, and what is read from them. A field is written with attributes, a
visibility, its name, a colon and its type; a variant with attributes, its name, data that it
carries, and a value.

What comes before the type or the value has neither commas nor angle brackets outside of its groups.
So splitting a body depends on the types and values alone.
-/
import RecordKeys.Declaration.Expansion
import RecordKeys.Proofs.Declaration.Arguments

namespace RecordKeys

/-! ## Related lists -/

/-- A list is related to members of the other one. -/
theorem forall₂_mem_right {α β : Type} {R : α → β → Prop} {as : List α} {bs : List β}
    (h : List.Forall₂ R as bs) : List.Forall₂ (fun a b => b ∈ bs ∧ R a b) as bs := by
  induction h with
  | nil => exact .nil
  | cons hab _ ih =>
    exact .cons ⟨List.mem_cons_self, hab⟩ (ih.imp fun _ _ h => ⟨List.mem_cons_of_mem _ h.1, h.2⟩)

/-- Relations of lists can be joined, also if the second one knows of positions. -/
theorem forall₂_zipIdx_trans {α β γ : Type} {R : α → β → Prop} {S : β × Nat → γ → Prop}
    {T : α × Nat → γ → Prop} (h : ∀ a b i c, R a b → S (b, i) c → T (a, i) c) {as : List α}
    {bs : List β} {cs : List γ} {n : Nat} (hR : List.Forall₂ R as bs)
    (hS : List.Forall₂ S (bs.zipIdx n) cs) : List.Forall₂ T (as.zipIdx n) cs := by
  induction hR generalizing n cs with
  | nil =>
    cases hS
    exact .nil
  | cons hab _ ih =>
    rw [List.zipIdx_cons] at hS
    cases hS with
    | cons hbc hS =>
      rw [List.zipIdx_cons]
      exact .cons (h _ _ _ _ hab hbc) (ih hS)

/-! ## Members without complaints -/

namespace Row

/-- Members about which there is nothing to complain have a row each. -/
theorem readAll_cons_eq_ok {form : Form} {taken : Bool} {index : Nat} {member : List Tree}
    {rest : List (List Tree)} {rows : List Row}
    (h : readAll form taken index (member :: rest) = (rows, [])) :
    ∃ row more, rows = row :: more ∧ read form index member = .ok (row, []) ∧
      row.misuses form taken = [] ∧
      readAll form (taken || row.isSingle form) (index + 1) rest = (more, []) := by
  rw [readAll] at h
  split at h
  · exact absurd (Prod.mk.inj h).2 (List.cons_ne_nil _ _)
  · rename_i row own hread
    obtain ⟨rfl, hnil⟩ := Prod.mk.inj h
    simp only [List.append_eq_nil_iff] at hnil
    obtain ⟨⟨rfl, hmisuses⟩, hmore⟩ := hnil
    exact ⟨row, _, rfl, hread, hmisuses, Prod.ext rfl hmore⟩

theorem index_of_read {form : Form} {index : Nat} {member : List Tree} {row : Row}
    {complaints : List Complaint} (h : read form index member = .ok (row, complaints)) :
    row.index = index := by
  unfold read at h
  split at h
  · cases h
  · split at h
    · cases h
    · cases h
      rfl

/-- What is read from members about which there is nothing to complain. -/
theorem readAll_eq_ok {form : Form} {taken : Bool} {index : Nat} {members : List (List Tree)}
    {rows : List Row} (h : readAll form taken index members = (rows, [])) :
    List.Forall₂ (fun (p : List Tree × Nat) row => read form p.2 p.1 = .ok (row, []) ∧
      ∃ taken, row.misuses form taken = []) (members.zipIdx index) rows := by
  induction members generalizing taken index rows with
  | nil =>
    cases h
    exact .nil
  | cons member rest ih =>
    obtain ⟨row, more, rfl, hread, hmisuses, hmore⟩ := readAll_cons_eq_ok h
    rw [List.zipIdx_cons]
    exact .cons ⟨hread, taken, hmisuses⟩ (ih hmore)

/-- The rows have the positions of their members. -/
theorem map_index_readAll {form : Form} {taken : Bool} {index : Nat} {members : List (List Tree)}
    {rows : List Row} (h : readAll form taken index members = (rows, [])) :
    rows.map (·.index) = List.range' index rows.length := by
  induction members generalizing taken index rows with
  | nil =>
    cases h
    rfl
  | cons member rest ih =>
    obtain ⟨row, more, rfl, hread, -, hmore⟩ := readAll_cons_eq_ok h
    rw [List.map_cons, List.length_cons, List.range'_succ, index_of_read hread, ih hmore]

/-- Only one member is singled out. -/
theorem pairwise_readAll {form : Form} {taken : Bool} {index : Nat} {members : List (List Tree)}
    {rows : List Row} (h : readAll form taken index members = (rows, [])) :
    (taken → ∀ row ∈ rows, row.isSingle form = false) ∧
      rows.Pairwise fun a b => ¬ (a.isSingle form ∧ b.isSingle form) := by
  induction members generalizing taken index rows with
  | nil =>
    cases h
    exact ⟨fun _ _ hrow => absurd hrow List.not_mem_nil, .nil⟩
  | cons member rest ih =>
    obtain ⟨row, more, rfl, hread, hmisuses, hmore⟩ := readAll_cons_eq_ok h
    obtain ⟨htaken, hpairwise⟩ := ih hmore
    refine ⟨fun h => List.forall_mem_cons.mpr ⟨?_, htaken (by rw [h, Bool.true_or])⟩,
      .cons (fun b hb hboth => ?_) hpairwise⟩
    -- a second member that is singled out would be misused
    · cases form <;> cases hsingle : row.isSingle _ <;> simp_all [misuses, isSingle]
    · exact Bool.eq_false_iff.mp (htaken (by rw [hboth.1, Bool.or_true]) b hb) hboth.2

/-- If nothing is misused on a field, it is not marked as a variant may be, and it has no name of
its own if it is the base. -/
theorem of_misuses_record {taken : Bool} {row : Row} (h : row.misuses .record taken = []) :
    row.traits.null = false ∧
      (row.traits.parent → row.traits.rename = none ∧ row.traits.skip = false) := by
  simp only [misuses, List.append_eq_nil_iff] at h
  obtain ⟨⟨hnull, hnamed⟩, -⟩ := h
  refine ⟨by simpa using hnull, fun hparent => ?_⟩
  simpa [hparent] using hnamed

end Row

/-- What code comes from. -/
theorem Declaration.expand_eq_ok {trees code body after : List Tree} {d : Declaration}
    (hread : read? (Tree.sequenceUnsigned trees) = some d)
    (hbody : d.item.rest = .group .brace body :: after) (h : expand trees = .ok code) :
    ∃ t : Table, code = Expansion.ofTable t ∧ t.form = d.form ∧ t.ident = d.item.name ∧
      Row.readAll d.form false 0 (Body.members body) = (t.rows, []) := by
  simp only [expand, hread, table, Declaration.body, hbody, Traits.ofAttributes_eq] at h
  split at h
  · rename_i hnil
    rw [List.append_eq_nil_iff] at hnil
    exact ⟨_, (Except.ok.inj h).symm, rfl, rfl, Prod.ext rfl hnil.2⟩
  · cases h

/-! ## Attributes, visibility and name -/

/-- A plain name is a name without the `r#` that it may have. -/
theorem plainName_cases (name : String) :
    name = "r#" ++ plainName name ∨ plainName name = name ∧ ∀ more, name ≠ "r#" ++ more := by
  unfold plainName
  split
  · rename_i rest h
    exact .inl (String.toList_inj.mp (by simp [h]))
  · rename_i h
    refine .inr ⟨rfl, ?_⟩
    rintro more rfl
    exact h more.toList (by rw [String.toList_append]; rfl)

namespace Item

/-- Attributes, each by what stands between its brackets. -/
inductive Attributes : List (List Tree) → List Tree → Prop
  | nil : Attributes [] []
  | cons (joint : Bool) (content : List Tree) {contents : List (List Tree)} {trees : List Tree}
    (rest : Attributes contents trees) :
    Attributes (content :: contents) (.punct '#' joint :: .group .bracket content :: trees)

/-- A visibility, or none. -/
inductive Visibility : List Tree → Prop
  | nil : Visibility []
  | pub : Visibility [.ident "pub"]
  | within (scope : List Tree) : Visibility [.ident "pub", .group .paren scope]

theorem takeAttributes_append {contents : List (List Tree)} {trees : List Tree}
    (h : Attributes contents trees) (name : String) (rest : List Tree) :
    takeAttributes (trees ++ .ident name :: rest) = (contents, .ident name :: rest) := by
  induction h with
  | nil => rfl
  | cons joint content _ ih => simp only [List.cons_append, takeAttributes, ih]

/-- Without a visibility, a name that reads as one is taken for it. -/
theorem dropVisibility_append {visibility : List Tree} (h : Visibility visibility) (name : String)
    (rest : List Tree) : dropVisibility (visibility ++ .ident name :: rest) = .ident name :: rest ∨
      name = "pub" ∧ visibility = [] := by
  cases h with
  | nil =>
    by_cases hname : name = "pub"
    · exact .inr ⟨hname, rfl⟩
    · refine .inl ?_
      unfold dropVisibility
      split <;> simp_all
  | pub => exact .inl rfl
  | within scope => exact .inl rfl

/-- A member is read as it is written, unless a name reads as a visibility. -/
theorem read?_append {contents : List (List Tree)} {trees visibility : List Tree}
    (hattributes : Attributes contents trees) (hvisibility : Visibility visibility) (name : String)
    (rest : List Tree) :
    read? (trees ++ (visibility ++ .ident name :: rest)) = some ⟨contents, name, rest⟩ ∨
      name = "pub" ∧ visibility = [] := by
  have hdrop := dropVisibility_append hvisibility name rest
  refine hdrop.imp_left fun hdrop => ?_
  have htake : takeAttributes (trees ++ (visibility ++ .ident name :: rest)) =
      (contents, visibility ++ .ident name :: rest) := by
    cases hvisibility with
    | nil => exact takeAttributes_append hattributes name rest
    | pub => exact takeAttributes_append hattributes "pub" _
    | within scope => exact takeAttributes_append hattributes "pub" _
  simp only [read?, htake, hdrop]

/-- Nothing is read from a visibility without a name. -/
theorem read?_pub {contents : List (List Tree)} {trees : List Tree}
    (hattributes : Attributes contents trees) (rest : List Tree)
    (hrest : ∀ name more, dropVisibility (.ident "pub" :: rest) ≠ .ident name :: more) :
    read? (trees ++ .ident "pub" :: rest) = none := by
  simp only [read?, takeAttributes_append hattributes]

theorem Attributes.isPlain {contents : List (List Tree)} {trees : List Tree}
    (h : Attributes contents trees) : ∀ t ∈ trees, t.isPlain := by
  induction h with
  | nil => exact fun _ ht => absurd ht List.not_mem_nil
  | cons joint content _ ih =>
    exact List.forall_mem_cons.mpr ⟨rfl, List.forall_mem_cons.mpr ⟨rfl, ih⟩⟩

theorem Visibility.isPlain {visibility : List Tree} (h : Visibility visibility) :
    ∀ t ∈ visibility, t.isPlain := by
  cases h <;> simp [Tree.isPlain, Tree.isPunct]

end Item

/-! ## Scans -/

/-- What is plain at the beginning of a part does not matter to its commas and brackets. -/
theorem Scan.passes_plain_append {front : List Tree} (h : ∀ t ∈ front, t.isPlain)
    (rest : List Tree) :
    (start.Passes (front ++ rest) ↔ start.Passes rest) ∧
      start.through (front ++ rest) = start.through rest := by
  obtain ⟨hpasses, hthrough⟩ := through_of_isPlain h
  rw [passes_append, through_append, hthrough]
  exact ⟨and_iff_right hpasses, rfl⟩

/-! ## Fields -/

/-- A field as it is written. -/
structure Field where
  attributes : List (List Tree)
  name : String
  type : List Tree

namespace Field

/-- How a field is written. -/
inductive Written (f : Field) (part : List Tree) : Prop
  | intro {attributes visibility : List Tree} {joint : Bool}
    (hattributes : Item.Attributes f.attributes attributes)
    (hvisibility : Item.Visibility visibility)
    (hpart : part = attributes ++ (visibility ++ .ident f.name :: .punct ':' joint :: f.type))

/-- A field whose type is balanced has no comma between members, and leaves no bracket open. -/
theorem Written.passes {f : Field} {part : List Tree} (h : f.Written part)
    (hbalanced : balanced f.type) :
    (part ≠ [] ∧ Scan.start.Passes part) ∧ (Scan.start.through part).depth = 0 := by
  obtain @⟨attributes, visibility, joint, hattributes, hvisibility, rfl⟩ := h
  have hplain : ∀ t ∈ attributes ++ (visibility ++ [.ident f.name, .punct ':' joint]), t.isPlain :=
    List.forall_mem_append.mpr ⟨hattributes.isPlain,
      List.forall_mem_append.mpr ⟨hvisibility.isPlain, by simp [Tree.isPlain, Tree.isPunct]⟩⟩
  obtain ⟨hpasses, hthrough⟩ := Scan.passes_plain_append hplain f.type
  obtain ⟨htype, hdepth⟩ := Scan.passes_of_balancedFrom (s := .start) hbalanced
  simp only [List.append_assoc, List.cons_append, List.nil_append] at hpasses hthrough
  exact ⟨⟨by simp, hpasses.mpr htype⟩, hthrough ▸ hdepth⟩

/-- The row of a field at a position. -/
def row (f : Field) (index : Nat) : Row where
  index := index
  ident := f.name
  traits := .ofGiven (Argument.given f.attributes) (f.attributes.filterMap Traits.lineOf?)
  type := f.type

/-- What is read from a written field, if it is read at all. -/
theorem Written.read {f : Field} {part : List Tree} (h : f.Written part) {index : Nat} {row : Row}
    {complaints : List Complaint} (hread : Row.read .record index part = .ok (row, complaints)) :
    row = f.row index ∧ complaints = f.attributes.flatMap Complaint.ofAttribute := by
  obtain @⟨attributes, visibility, joint, hattributes, hvisibility, rfl⟩ := h
  have hitem :
      Item.read? (attributes ++ (visibility ++ .ident f.name :: .punct ':' joint :: f.type)) =
        some ⟨f.attributes, f.name, .punct ':' joint :: f.type⟩ := by
    -- a field that is named as a visibility, and has none, is not read at all
    refine (Item.read?_append hattributes hvisibility f.name _).resolve_right ?_
    rintro ⟨hname, rfl⟩
    have hnone := Item.read?_pub hattributes (.punct ':' joint :: f.type)
      (by simp [Item.dropVisibility])
    rw [Row.read, hname, List.nil_append, hnone] at hread
    cases hread
  rw [Row.read, hitem] at hread
  cases htype : f.type with
  | nil => simp [Row.typeOf, htype] at hread
  | cons t type =>
    simp only [Row.typeOf, htype, Traits.ofAttributes_eq] at hread
    cases hread
    exact ⟨by rw [Field.row, htype], rfl⟩

end Field

/-! ## Variants -/

/-- A variant as it is written, with the data that it carries and with its value. -/
structure Variant where
  attributes : List (List Tree)
  name : String
  data : List Tree
  value : List Tree

namespace Variant

/-- Data in a group, or none. -/
inductive Data : List Tree → Prop
  | nil : Data []
  | group (delimiter : Delimiter) (body : List Tree) : Data [.group delimiter body]

/-- A value behind an equals sign, or none. -/
inductive Value : List Tree → Prop
  | nil : Value []
  | assigned (joint : Bool) (expression : List Tree) : Value (.punct '=' joint :: expression)

theorem Data.isPlain {data : List Tree} (h : Data data) : ∀ t ∈ data, t.isPlain := by
  cases h <;> simp [Tree.isPlain, Tree.isPunct]

/-- How a variant is written. No comma in its value is one between members. -/
inductive Written (v : Variant) (part : List Tree) : Prop
  | intro {attributes : List Tree} (hattributes : Item.Attributes v.attributes attributes)
    (hdata : Data v.data) (hvalue : Value v.value) (hpasses : Scan.start.Passes v.value)
    (hpart : part = attributes ++ .ident v.name :: (v.data ++ v.value))

/-- Whether no angle bracket is open at the end of a variant. -/
def isClosed (v : Variant) : Bool := (Scan.start.through v.value).depth == 0

/-- A written variant has no comma between members, and leaves the brackets open that its value
leaves open. -/
theorem Written.passes {v : Variant} {part : List Tree} (h : v.Written part) :
    (part ≠ [] ∧ Scan.start.Passes part) ∧
      Scan.start.through part = Scan.start.through v.value := by
  obtain @⟨attributes, hattributes, hdata, hvalue, hpasses, rfl⟩ := h
  have hplain : ∀ t ∈ attributes ++ .ident v.name :: v.data, t.isPlain :=
    List.forall_mem_append.mpr ⟨hattributes.isPlain, List.forall_mem_cons.mpr ⟨rfl, hdata.isPlain⟩⟩
  obtain ⟨hpart, hthrough⟩ := Scan.passes_plain_append hplain v.value
  simp only [List.append_assoc, List.cons_append] at hpart hthrough
  exact ⟨⟨by simp, hpart.mpr hpasses⟩, hthrough⟩

/-- The row of a variant at a position. -/
def row (v : Variant) (index : Nat) : Row where
  index := index
  ident := v.name
  traits := .ofGiven (Argument.given v.attributes) (v.attributes.filterMap Traits.lineOf?)
  type := []

/-- What is read from a variant, if it is read at all. Its value is not looked at. -/
theorem row_of_read {v : Variant} {attributes value : List Tree}
    (hattributes : Item.Attributes v.attributes attributes) (hdata : Data v.data)
    (hvalue : Value value) {index : Nat} {row : Row} {complaints : List Complaint}
    (hread : Row.read .enumeration index (attributes ++ .ident v.name :: (v.data ++ value)) =
      .ok (row, complaints)) :
    v.data = [] ∧ row = v.row index ∧ complaints = v.attributes.flatMap Complaint.ofAttribute := by
  have hitem : Item.read? (attributes ++ .ident v.name :: (v.data ++ value)) =
      some ⟨v.attributes, v.name, v.data ++ value⟩ := by
    -- a variant that is named as a visibility is not read at all
    refine (Item.read?_append hattributes .nil v.name _).resolve_right ?_
    rintro ⟨hname, -⟩
    rw [Row.read, hname, Item.read?_pub hattributes] at hread
    · cases hread
    · intro name more
      obtain ⟨contents, name, data, value⟩ := v
      cases hdata with
      | nil => cases hvalue <;> simp [Item.dropVisibility]
      | group delimiter body => cases delimiter <;> cases hvalue <;> simp [Item.dropVisibility]
  rw [Row.read, hitem] at hread
  obtain ⟨contents, name, data, value'⟩ := v
  cases hdata with
  | nil =>
    cases hvalue <;>
    · simp only [Row.typeOf, List.nil_append, Traits.ofAttributes_eq] at hread
      cases hread
      exact ⟨rfl, rfl, rfl⟩
  | group delimiter body => cases delimiter <;> simp [Row.typeOf] at hread

end Variant

end RecordKeys
