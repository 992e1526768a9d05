/-
The code for a record is faithful to its declaration: there is one item for each field, in order. It
says of the field what its declaration says, and the functions that it names reach that very field.
The link to the base names the field that is marked as the base, if there is one.

This holds whatever the types of the fields are, as long as they are balanced in angle brackets.
-/
import Mathlib.Data.List.Pairwise
import RecordKeys.Proofs.Declaration.Code
import RecordKeys.Proofs.Declaration.Members

namespace RecordKeys

/-! ## Fields -/

/-- What an item of code, and the functions that it names, say of a field. -/
structure Field.Faithful (code : List Tree) (owner : String) (f : Field)
    (d : Expansion.Description) : Prop where
  name : f.name = "r#" ++ d.name ∨ d.name = f.name ∧ ∀ more, f.name ≠ "r#" ++ more
  listed : ∀ trees, .ident "keyed" :: trees ∈ f.attributes → ∃ listed rest,
    trees = .group .paren listed :: rest ∧
      Argument.Lists (Argument.ofAttribute (.ident "keyed" :: trees)) listed
  rename : d.rename = ((Argument.given f.attributes).filterMap Argument.newName?).getLast?
  marks : d.marks = (if .skip ∈ Argument.given f.attributes then ["SKIP"] else [])
    ++ (if isMarkerType f.type then ["SYNTHETIC"] else [])
    ++ (if .parent ∈ Argument.given f.attributes then ["PARENT"] else [])
  typeName : d.typeName = f.type
  typeId : d.typeId = f.type
  access : ∃ get getMut replace, d.access = .slot get getMut replace ∧
    Expansion.Defines code get
      (Expansion.reaching (.ident owner) (.ident f.name) [.punct '&' false] "downcast_ref") ∧
    Expansion.Defines code getMut
      (Expansion.reaching (.ident owner) (.ident f.name) [.punct '&' false, .ident "mut"]
        "downcast_mut") ∧
    Expansion.Defines code replace (Expansion.exchanging (.ident owner) (.ident f.name))
  doc : d.doc = f.attributes.filterMap Traits.lineOf?

/-- What the items of a record say of the base, and what its link says of it. -/
structure Expansion.Linked (code : List Tree) (items : List Description) : Prop where
  single : items.Pairwise fun a b => ¬ ("PARENT" ∈ a.marks ∧ "PARENT" ∈ b.marks)
  unnamed : ∀ d ∈ items, "PARENT" ∈ d.marks → d.rename = none ∧ "SKIP" ∉ d.marks
  link : ∀ d ∈ items, "PARENT" ∈ d.marks → d.Linked (value code "parent")
  noLink : (∀ d ∈ items, "PARENT" ∉ d.marks) →
    takePath (value code "parent") = (["fieldmap", "__private", "None"], [])

namespace Field

/-- What the item for a field says of it, if it has been read without complaints. -/
theorem faithful_of_read {t : Table} {f : Field} {part : List Tree} {index : Nat} {row : Row}
    (hform : t.form = .record) (hindices : (t.rows.map (·.index)).Nodup) (hrow : row ∈ t.rows)
    (hwritten : f.Written part) (hread : Row.read .record index part = .ok (row, []))
    (hnull : row.traits.null = false) :
    f.Faithful (Expansion.ofTable t) t.ident row.asField := by
  obtain ⟨rfl, hattributes⟩ := hwritten.read hread
  have hdefines := fun stem function => Expansion.defines_ofTable hindices hrow stem function
  simp only [hform, Expansion.functionsOf, List.mem_cons, Prod.mk.injEq] at hdefines
  exact {
    name := plainName_cases f.name
    listed := fun trees hmem => Complaint.lists_of_ofAttribute_eq_nil
      (List.flatMap_eq_nil_iff.mp hattributes.symm _ hmem)
    rename := rfl
    marks := by
      have hmarks : (f.row index).asField.marks = (f.row index).marks := rfl
      rw [hmarks, Row.marks, Expansion.marks?_flags, hnull]
      simp [Field.row, Traits.ofGiven, Row.isMarker]
    typeName := rfl
    typeId := rfl
    access := ⟨_, _, _, rfl, hdefines "__keyed_get_" _ (.inl ⟨rfl, rfl⟩),
      hdefines "__keyed_get_mut_" _ (.inr (.inl ⟨rfl, rfl⟩)),
      hdefines "__keyed_replace_" _ (.inr (.inr (.inl ⟨rfl, rfl⟩)))⟩
    doc := rfl }

end Field

/-- The link is the one to the item that is marked as the base. -/
theorem Expansion.linked_of_pairwise {t : Table} (hform : t.form = .record)
    (hsingle : t.rows.Pairwise fun a b => ¬ (a.traits.parent ∧ b.traits.parent))
    (hunnamed : ∀ row ∈ t.rows, row.traits.parent →
      row.traits.rename = none ∧ row.traits.skip = false) :
    Linked (ofTable t) (t.rows.map Row.asField) := by
  have hmarked : ∀ row : Row, "PARENT" ∈ row.asField.marks ↔ row.traits.parent :=
    fun row => Row.parent_mem_marks
  have hunique : ∀ a ∈ t.rows, ∀ b ∈ t.rows, a.traits.parent → b.traits.parent → a = b := by
    intro a ha b hb hparent hother
    by_contra hne
    have hsymm : Std.Symm fun a b : Row => ¬ (a.traits.parent ∧ b.traits.parent) :=
      ⟨fun _ _ h hboth => h hboth.symm⟩
    exact hsingle.forall ha hb hne ⟨hparent, hother⟩
  have hvalue : value (ofTable t) "parent" = parentLink t.parent? := by
    rw [value_parent_ofTable, link, hform]
  refine {
    single := List.pairwise_map.mpr (hsingle.imp fun h => by rwa [hmarked, hmarked])
    unnamed := List.forall_mem_map.mpr fun row hrow hparent => ?_
    link := List.forall_mem_map.mpr fun row hrow hparent => ?_
    noLink := fun hnone => ?_ }
  · obtain ⟨hrename, hskip⟩ := hunnamed row hrow ((hmarked row).mp hparent)
    exact ⟨hrename, fun hmem => Bool.eq_false_iff.mp hskip (Row.skip_mem_marks.mp hmem)⟩
  · have hfound : t.parent? = some row := by
      have hparent := (hmarked row).mp hparent
      obtain ⟨other, hother⟩ : ∃ other, t.parent? = some other :=
        Option.isSome_iff_exists.mp (List.find?_isSome.mpr ⟨row, hrow, hparent⟩)
      have hmarked := List.find?_some (p := fun row : Row => row.traits.parent) hother
      rw [hunique row hrow other (List.mem_of_find?_eq_some hother) hparent hmarked]
      exact hother
    rw [hvalue, hfound]
    exact row.linked_parentLink
  · have hnot : t.parent? = none := List.find?_eq_none.mpr fun row hrow hparent =>
      hnone _ (List.mem_map_of_mem hrow) ((hmarked row).mpr hparent)
    rw [hvalue, hnot]
    rfl

/-! ## The whole record -/

namespace Declaration

/-- The code for a record has one item for each field, in order, which is faithful to the field, and
its link is the one to the field that is marked as the base. -/
theorem expand_fields {trees code body after : List Tree} {d : Declaration} {fields : List Field}
    {parts : List (List Tree)} (hread : read? (Tree.sequenceUnsigned trees) = some d)
    (hform : d.form = .record) (hbody : d.item.rest = .group .brace body :: after)
    (hjoins : Joins parts body) (hwritten : List.Forall₂ Field.Written fields parts)
    (hbalanced : ∀ f ∈ fields, balanced f.type) (hcode : expand trees = .ok code) :
    Expansion.Implements ["fieldmap", "Keyed"] (.ident d.item.name) code ∧
    ∃ items : List Expansion.Description,
      List.Forall₂ Expansion.Description.Written items
        (Expansion.itemsOf (Expansion.value code "fields")) ∧
      List.Forall₂ (Field.Faithful code d.item.name) fields items ∧
      Expansion.Linked code items := by
  obtain ⟨table, rfl, htform, htident, hrows⟩ := expand_eq_ok hread hbody hcode
  rw [hform] at htform hrows
  have hparts := List.forall₂_and_left fields parts |>.mpr ⟨hbalanced, hwritten⟩
  have hpasses := forall_mem_right_of_forall₂ (fun f part h => h.2.passes h.1) hparts
  rw [Body.members_of_joins hjoins (fun part hpart => (hpasses part hpart).1)
    fun part hpart => (hpasses part hpart).2] at hrows
  have hindices : (table.rows.map (·.index)).Nodup :=
    Row.map_index_readAll hrows ▸ List.nodup_range'
  have hreads := Row.readAll_eq_ok hrows
  refine ⟨htident ▸ Expansion.implements_ofTable table, table.rows.map Row.asField, ?_, ?_,
    Expansion.linked_of_pairwise htform (Row.pairwise_readAll hrows).2 ?_⟩
  · have hitem : Expansion.item table = Expansion.field := by
      funext row
      rw [Expansion.item, htform]
    rw [Expansion.items_ofTable, hitem, List.forall₂_map_left_iff, List.forall₂_map_right_iff,
      List.forall₂_same]
    exact fun row _ => row.written_field
  · rw [List.forall₂_map_right_iff, ← List.zipIdx_map_fst 0 fields, List.forall₂_map_left_iff]
    refine forall₂_zipIdx_trans ?_ hwritten (forall₂_mem_right hreads)
    rintro f part i row hf ⟨hrow, hread, taken, hmisuses⟩
    rw [← htident]
    exact Field.faithful_of_read htform hindices hrow hf hread (Row.of_misuses_record hmisuses).1
  · refine forall_mem_right_of_forall₂ ?_ hreads
    rintro _ row ⟨-, taken, hmisuses⟩
    exact (Row.of_misuses_record hmisuses).2

/-- A record with a base, a field with arguments in two attributes, and a marker. -/
def session : List Field :=
  [⟨[[.ident "keyed", .group .paren [.ident "parent"]]], "account", [.ident "Account"]⟩,
    ⟨[[.ident "doc", .punct '=' false, .literal "\" By name.\""],
      [.ident "keyed", .group .paren [.ident "rename", .punct '=' false, .literal "\"Old\""]],
      [.ident "keyed", .group .paren [.ident "skip", .punct ',' false,
        .ident "rename", .punct '=' false, .literal "\"Kind\"", .punct ',' false]]],
      "r#type", [.ident "Map", .punct '<' false, .ident "K", .punct ',' false, .ident "V",
        .punct '>' false]⟩,
    ⟨[], "owner", [.ident "PhantomData", .punct '<' false, .ident "fn", .group .paren [],
      .punct '-' true, .punct '>' false, .ident "T", .punct '>' false]⟩]

/-- The fields of the record as they are written, with a comma at the end. -/
def sessionParts : List (List Tree) :=
  [[.punct '#' false, .group .bracket [.ident "keyed", .group .paren [.ident "parent"]],
      .ident "account", .punct ':' false, .ident "Account"],
    [.punct '#' false, .group .bracket [.ident "doc", .punct '=' false, .literal "\" By name.\""],
      .punct '#' false, .group .bracket [.ident "keyed", .group .paren [
        .ident "rename", .punct '=' false, .literal "\"Old\""]],
      .punct '#' false, .group .bracket [.ident "keyed", .group .paren [
        .ident "skip", .punct ',' false,
        .ident "rename", .punct '=' false, .literal "\"Kind\"", .punct ',' false]],
      .ident "pub", .ident "r#type", .punct ':' false,
      .ident "Map", .punct '<' false, .ident "K", .punct ',' false, .ident "V", .punct '>' false],
    [.ident "owner", .punct ':' false, .ident "PhantomData", .punct '<' false, .ident "fn",
      .group .paren [], .punct '-' true, .punct '>' false, .ident "T", .punct '>' false]]

/-- The declaration of the record. -/
def sessionTrees : List Tree :=
  [.ident "struct", .ident "Session",
    .group .brace (sessionParts.flatMap (· ++ [.punct ',' false]))]

theorem expand_fields_session : ∃ code, expand sessionTrees = .ok code ∧
    Expansion.Implements ["fieldmap", "Keyed"] (.ident "Session") code ∧
    ∃ items : List Expansion.Description,
      List.Forall₂ Expansion.Description.Written items
        (Expansion.itemsOf (Expansion.value code "fields")) ∧
      List.Forall₂ (Field.Faithful code "Session") session items ∧
      Expansion.Linked code items ∧
      items.map (·.rename) = [none, some "Kind", none] ∧
      items.map (·.marks) = [["PARENT"], ["SKIP"], ["SYNTHETIC"]] ∧
      items.map (·.doc) = [[], [" By name."], []] := by
  have hwritten : List.Forall₂ Field.Written session sessionParts :=
    .cons (.intro (.cons false _ .nil) .nil rfl) <|
    .cons (.intro (.cons false _ (.cons false _ (.cons false _ .nil))) .pub rfl) <|
    .cons (.intro .nil .nil rfl) .nil
  have hjoins : Joins sessionParts (sessionParts.flatMap (· ++ [.punct ',' false])) :=
    .cons _ false (.cons _ false (.cons _ false .nil))
  obtain ⟨code, hcode⟩ : ∃ code, expand sessionTrees = .ok code := ⟨_, rfl⟩
  have hread : read? (Tree.sequenceUnsigned sessionTrees) = some _ := rfl
  obtain ⟨himplements, items, hitems, hfaithful, hlinked⟩ :=
    expand_fields hread rfl rfl hjoins hwritten (by decide) hcode
  refine ⟨code, hcode, himplements, items, hitems, hfaithful, hlinked, ?_⟩
  obtain _ | ⟨haccount, _ | ⟨htype, _ | ⟨howner, _ | _⟩⟩⟩ := hfaithful
  simp only [List.map_cons, List.map_nil, haccount.rename, haccount.marks, haccount.doc,
    htype.rename, htype.marks, htype.doc, howner.rename, howner.marks, howner.doc]
  exact ⟨rfl, rfl, rfl⟩

end Declaration

end RecordKeys
