/-
The variants of an enumeration, and when they are lost. Members are split as fields are, by counting
angle brackets, and this is also done in values, where `<` may be a comparison or half of a shift.
A variant whose value leaves a bracket open takes the variants behind it for a part of its value.

If no variant but the last does so, the code for an enumeration has one item for each variant, in
order, and the functions that it names make and recognise that very variant; a variant that carries
data is then refused. If one does, there are fewer items than variants.
-/
import RecordKeys.Proofs.Declaration.Code
import RecordKeys.Proofs.Declaration.Members

namespace RecordKeys

namespace Variant

/-- What a row, and the code that it is for, say of a variant at a position. -/
structure Faithful (code : List Tree) (owner : String) (v : Variant) (index : Nat) (row : Row) :
    Prop where
  /-- The item at the position has the name, and refers to the two functions. -/
  item : ∃ item, (Expansion.itemsOf (Expansion.value code "fields"))[index]? = some item ∧
    ∃ d : Expansion.Description, d.Written item ∧ d.name = row.name ∧
      d.access = .constant (Expansion.variantName row) (Expansion.isName row)
  index : row.index = index
  bare : v.data = []
  name : v.name = "r#" ++ row.name ∨ row.name = v.name ∧ ∀ more, v.name ≠ "r#" ++ more
  make : Expansion.Defines code (Expansion.variantName row)
    (Expansion.making (.ident owner) v.name)
  recognise : Expansion.Defines code (Expansion.isName row)
    (Expansion.recognising (.ident owner) v.name)

/-- A value that leaves a bracket open is not empty, and may go on. -/
theorem Value.append {value : List Tree} (h : Value value)
    (hopen : (Scan.start.through value).depth ≠ 0) (more : List Tree) : Value (value ++ more) := by
  cases h with
  | nil => exact absurd rfl hopen
  | assigned joint expression => exact .assigned joint (expression ++ more)

/-- What is read from a variant that has been found, if it is read at all. A comma behind it would
belong to its value, which is not looked at. -/
theorem Written.row_of_read {v : Variant} {part member : List Tree} (h : v.Written part)
    (hfound : Body.FoundAs part member) {index : Nat} {row : Row} {complaints : List Complaint}
    (hread : Row.read .enumeration index member = .ok (row, complaints)) :
    v.data = [] ∧ row = v.row index := by
  have hthrough := h.passes.2
  obtain @⟨attributes, hattributes, hdata, hvalue, -, rfl⟩ := h
  rcases hfound with rfl | ⟨hopen, joint, rfl⟩
  · obtain ⟨hnil, hrow, -⟩ := Variant.row_of_read hattributes hdata hvalue hread
    exact ⟨hnil, hrow⟩
  · have hextended : Value (v.value ++ [.punct ',' joint]) := by
      rw [hthrough] at hopen
      exact hvalue.append hopen _
    simp only [List.append_assoc, List.cons_append] at hread
    obtain ⟨hnil, hrow, -⟩ := Variant.row_of_read hattributes hdata hextended hread
    exact ⟨hnil, hrow⟩

theorem faithful_row {t : Table} {v : Variant} {index : Nat} (hform : t.form = .enumeration)
    (hindices : t.rows.map (·.index) = List.range' 0 t.rows.length) (hrow : v.row index ∈ t.rows)
    (hbare : v.data = []) : v.Faithful (Expansion.ofTable t) t.ident index (v.row index) := by
  have hnodup : (t.rows.map (·.index)).Nodup := hindices ▸ List.nodup_range'
  have hdefines := fun stem function => Expansion.defines_ofTable hnodup hrow stem function
  simp only [hform, Expansion.functionsOf, List.mem_cons, Prod.mk.injEq] at hdefines
  have hposition : t.rows[index]? = some (v.row index) := by
    obtain ⟨i, hi⟩ := List.mem_iff_getElem?.mp hrow
    have hindex : (t.rows.map (·.index))[i]? = some index := by rw [List.getElem?_map, hi]; rfl
    rw [hindices, List.getElem?_range' (List.getElem?_eq_some_iff.mp hi).1, Nat.zero_add,
      Nat.one_mul] at hindex
    rwa [Option.some.inj hindex] at hi
  exact {
    item := by
      rw [Expansion.items_ofTable, List.getElem?_map, hposition, Option.map_some, Expansion.item,
        hform]
      exact ⟨_, rfl, _, Row.written_variant _ _, rfl, rfl⟩
    index := rfl
    bare := hbare
    name := plainName_cases v.name
    make := hdefines "__keyed_variant_" _ (.inl ⟨rfl, rfl⟩)
    recognise := hdefines "__keyed_is_" _ (.inr (.inl ⟨rfl, rfl⟩)) }

end Variant

namespace Declaration

/-- If no variant but the last leaves an angle bracket open, the code for an enumeration has one
item for each variant, in order, which is faithful to the variant, and no variant carries data. If
one of them leaves one open, there are fewer items than variants. -/
theorem expand_variants {trees code body after : List Tree} {d : Declaration}
    {variants : List Variant} {parts : List (List Tree)}
    (hread : read? (Tree.sequenceUnsigned trees) = some d) (hform : d.form = .enumeration)
    (hbody : d.item.rest = .group .brace body :: after) (hjoins : Joins parts body)
    (hwritten : List.Forall₂ Variant.Written variants parts) (hcode : expand trees = .ok code) :
    ∃ table : Table, code = Expansion.ofTable table ∧
      Expansion.itemsOf (Expansion.value code "fields") =
        table.rows.map (Expansion.variant (.ident d.item.name)) ∧
      ((∀ v ∈ variants.dropLast, v.isClosed) →
        List.Forall₂ (fun p row => p.1.Faithful code d.item.name p.2 row) variants.zipIdx
          table.rows) ∧
      ((∃ v ∈ variants.dropLast, v.isClosed = false) → table.rows.length < variants.length) := by
  obtain ⟨table, rfl, htform, htident, hrows⟩ := expand_eq_ok hread hbody hcode
  rw [hform] at htform hrows
  have hpasses := forall_mem_right_of_forall₂ (R := Variant.Written)
    (fun _ _ h => h.passes.1) hwritten
  have hclosed_iff : (∀ v ∈ variants.dropLast, v.isClosed) ↔
      ∀ part ∈ parts.dropLast, (Scan.start.through part).depth = 0 := by
    rw [List.dropLast_eq_take, List.dropLast_eq_take, hwritten.length_eq]
    refine forall_mem_iff_of_forall₂ (R := Variant.Written) (fun v part h => ?_)
      (List.forall₂_take _ hwritten)
    rw [h.passes.2, Variant.isClosed, beq_iff_eq]
  have hreads := Row.readAll_eq_ok hrows
  refine ⟨table, rfl, ?_, fun hclosed => ?_, fun ⟨v, hv, hopen⟩ => ?_⟩
  · rw [Expansion.items_ofTable]
    simp [Expansion.item, htform, htident]
  -- the last variant may have taken up a comma behind it, which is not looked at
  · have hfound := Body.foundAs_members hjoins hpasses (hclosed_iff.mp hclosed)
    have hmembers := forall₂_zipIdx_trans
      (T := fun p row => ∃ member, Body.FoundAs p.1 member ∧ row ∈ table.rows ∧
        Row.read .enumeration p.2 member = .ok (row, []))
      (fun _ member _ _ hfound h => ⟨member, hfound, h.1, h.2.1⟩) hfound (forall₂_mem_right hreads)
    refine forall₂_zipIdx_trans ?_ hwritten hmembers
    rintro v part i row hv ⟨member, hfound, hrow, hread⟩
    obtain ⟨hbare, rfl⟩ := hv.row_of_read hfound hread
    rw [← htident]
    exact Variant.faithful_row htform (Row.map_index_readAll hrows) hrow hbare
  -- every member that is found has a row, and fewer are found than were written
  · have hlength := hreads.length_eq
    rw [List.length_zipIdx] at hlength
    rw [← hlength, hwritten.length_eq]
    exact Body.length_members_lt hjoins hpasses fun hall =>
      Bool.eq_false_iff.mp hopen (hclosed_iff.mpr hall v hv)

/-- An enumeration with a comparison in a value, in parentheses, and a shift in the last one. -/
def levels : List Variant :=
  [⟨[], "Low", [], [.punct '=' false, .group .paren [.literal "1", .punct '<' false, .literal "2"],
      .ident "as", .ident "isize"]⟩,
    ⟨[[.ident "keyed", .group .paren [.ident "null"]]], "None", [], []⟩,
    ⟨[], "r#High", [], [.punct '=' false, .literal "1", .punct '<' true, .punct '<' false,
      .literal "4"]⟩]

/-- The variants of the enumeration as they are written. -/
def levelParts : List (List Tree) :=
  [[.ident "Low", .punct '=' false, .group .paren [.literal "1", .punct '<' false, .literal "2"],
      .ident "as", .ident "isize"],
    [.punct '#' false, .group .bracket [.ident "keyed", .group .paren [.ident "null"]],
      .ident "None"],
    [.ident "r#High", .punct '=' false, .literal "1", .punct '<' true, .punct '<' false,
      .literal "4"]]

/-- The declaration of an enumeration with a comma behind each part. -/
def enumeration (name : String) (parts : List (List Tree)) : List Tree :=
  [.ident "enum", .ident name, .group .brace (parts.flatMap (· ++ [.punct ',' false]))]

theorem expand_variants_levels : ∃ code, ∃ table : Table,
    expand (enumeration "Level" levelParts) = .ok code ∧ code = Expansion.ofTable table ∧
    Expansion.itemsOf (Expansion.value code "fields") =
      table.rows.map (Expansion.variant (.ident "Level")) ∧
    List.Forall₂ (fun p row => p.1.Faithful code "Level" p.2 row) levels.zipIdx table.rows := by
  have hwritten : List.Forall₂ Variant.Written levels levelParts :=
    .cons (.intro .nil .nil (.assigned false _) (Scan.passes_of_no_comma (by decide) _) rfl) <|
    .cons (.intro (.cons false _ .nil) .nil .nil trivial rfl) <|
    .cons (.intro .nil .nil (.assigned false _) (Scan.passes_of_no_comma (by decide) _) rfl) .nil
  have hjoins : Joins levelParts (levelParts.flatMap (· ++ [.punct ',' false])) :=
    .cons _ false (.cons _ false (.cons _ false .nil))
  obtain ⟨code, hcode⟩ : ∃ code, expand (enumeration "Level" levelParts) = .ok code := ⟨_, rfl⟩
  have hread : read? (Tree.sequenceUnsigned (enumeration "Level" levelParts)) = some _ := rfl
  obtain ⟨table, htable, hitems, hfaithful, -⟩ :=
    expand_variants hread rfl rfl hjoins hwritten hcode
  exact ⟨code, table, hcode, htable, hitems, hfaithful (by decide)⟩

/-- An enumeration of two variants, the first of which has a shift for its value. The second one may
carry data. -/
def shifted (data : List Tree) : List Variant :=
  [⟨[], "A", [], [.punct '=' false, .literal "1", .punct '<' true, .punct '<' false, .literal "2"]⟩,
    ⟨[], "B", data, []⟩]

/-- The variants of the enumeration as they are written. -/
def shiftedParts (data : List Tree) : List (List Tree) :=
  [[.ident "A", .punct '=' false, .literal "1", .punct '<' true, .punct '<' false, .literal "2"],
    .ident "B" :: data]

/-- The second variant is lost without a complaint, and so are the data that it carries: there is
one item for two variants. -/
theorem expand_shifted :
    List.Forall₂ Variant.Written (shifted []) (shiftedParts []) ∧
    (∃ code, expand (enumeration "E" (shiftedParts [])) = .ok code ∧
      (Expansion.itemsOf (Expansion.value code "fields")).length = 1) ∧
    List.Forall₂ Variant.Written (shifted [.group .paren [.ident "u8"]])
      (shiftedParts [.group .paren [.ident "u8"]]) ∧
    (∃ code, expand (enumeration "E" (shiftedParts [.group .paren [.ident "u8"]])) = .ok code ∧
      (Expansion.itemsOf (Expansion.value code "fields")).length = 1) := by
  have hwritten : ∀ data, Variant.Data data →
      List.Forall₂ Variant.Written (shifted data) (shiftedParts data) := fun data hdata =>
    .cons (.intro .nil .nil (.assigned false _) (Scan.passes_of_no_comma (by decide) _) rfl) <|
    .cons (.intro .nil hdata .nil trivial (by simp)) .nil
  exact ⟨hwritten _ .nil, ⟨_, rfl, rfl⟩, hwritten _ (.group _ _), ⟨_, rfl, rfl⟩⟩

end Declaration

end RecordKeys
