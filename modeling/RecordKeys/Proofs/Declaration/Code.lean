/-
What generated code defines. It has one item for each member, in order, and functions that these
items refer to by name. The names are made from the positions of the members, so each name stands
for one function, and it is the one that was written for that member.
-/
import Mathlib.Data.List.DropRight
import Mathlib.Data.List.Nodup
import RecordKeys.Proofs.Declaration.Arguments
import RecordKeys.Proofs.Declaration.Reading

namespace RecordKeys.Expansion

/-! ## Reading functions -/

/-- What stands between the first braces. -/
def inside : List Tree → List Tree
  | [] => []
  | .group .brace body :: _ => body
  | _ :: rest => inside rest

/-- What a function is from its name on: what it takes and returns, and what it does. -/
structure Function where
  signature : List Tree
  body : List Tree

/-- The functions that are defined by a sequence: behind `fn` and a name, what comes before the
first braces and what stands between them. The function that has been begun is given by its name and
as much of its signature as has been read. -/
def functionsFrom (begun : Option (Tree × List Tree)) : List Tree → List (Tree × Function)
  | [] => []
  | .ident "fn" :: name :: rest => functionsFrom (some (name, [])) rest
  | .group .brace body :: rest =>
    match begun with
    | some (name, signature) => (name, ⟨signature, body⟩) :: functionsFrom none rest
    | none => functionsFrom none rest
  | t :: rest => functionsFrom (begun.map fun (name, signature) => (name, signature ++ [t])) rest

/-- The functions of generated code, in the block that makes the layout. -/
def functions (code : List Tree) : List (Tree × Function) :=
  functionsFrom none (inside (inside code))

/-- Whether code defines a function of a name, and no other of that name. -/
def Defines (code : List Tree) (name : Tree) (function : Function) : Prop :=
  ∀ other, (name, other) ∈ functions code ↔ other = function

/-! ## Reading layouts -/

/-- What stands between the last braces. -/
def atEnd (trees : List Tree) : List Tree := inside trees.reverse

/-- The value under a name, up to the next comma. -/
def valueAt (name : String) : List Tree → List Tree
  | [] => []
  | .ident n :: .punct ':' false :: rest =>
    if n = name then rest.takeWhile (!·.isPunct ',') else valueAt name rest
  | _ :: rest => valueAt name rest

/-- The value under a name in the layout that generated code makes. -/
def value (code : List Tree) (name : String) : List Tree :=
  valueAt name (atEnd (inside (inside code)))

/-- The items of a list. -/
def itemsOf : List Tree → List (List Tree)
  | [_, .group .bracket items] => Argument.dropLastEmpty (Argument.splitAtCommas items)
  | _ => []

/-- How a type is given an implementation. -/
def Implements (names : List String) (type : Tree) (code : List Tree) : Prop :=
  ∃ marker rest body,
    code = .punct '#' false :: .group .bracket marker :: .ident "impl" :: rest ∧
    takePath rest = (names, [.ident "for", type, .group .brace body])

/-! ## Layouts -/

/-- The item for a member. -/
def item (t : Table) (row : Row) : List Tree :=
  match t.form with
  | .record => field row
  | .enumeration => variant (.ident t.ident) row

/-- The link to the base. -/
def link (t : Table) : List Tree :=
  match t.form with
  | .record => parentLink t.parent?
  | .enumeration => support "None"

/-- The functions of a member. -/
def memberFunctions (t : Table) (row : Row) : List Tree :=
  match t.form with
  | .record => fieldFunctions (.ident t.ident) row
  | .enumeration => variantFunctions (.ident t.ident) row

/-- What the layout for a table consists of. -/
def entries (t : Table) : List Tree :=
  entry "type_name" [text (plainName t.ident)]
  ++ entry "id" (identity [.ident t.ident])
  ++ entry "ty" (library ["Type", t.form.label])
  ++ entry "parent" (link t)
  ++ entry "fields" (listOf (t.rows.map (item t)))
  ++ entry "doc" (doc t.doc)

/-- The code for a table implements the layout of its type. -/
theorem implements_ofTable (t : Table) :
    Implements ["fieldmap", "Keyed"] (.ident t.ident) (ofTable t) := by
  obtain ⟨form, ident, doc, rows⟩ := t
  cases form <;> exact ⟨_, _, _, rfl, rfl⟩

/-- The code for a table has the functions of its members and a layout. -/
theorem inside_ofTable (t : Table) :
    inside (inside (ofTable t)) = t.rows.flatMap (memberFunctions t) ++ [mark '&'] ++
      (library ["Shape"] ++ [braces (entries t)]) := by
  obtain ⟨form, ident, doc, rows⟩ := t
  cases form <;> rfl

theorem atEnd_append (front body : List Tree) : atEnd (front ++ [braces body]) = body := by
  simp [atEnd, inside, braces]

/-- Neither the link nor the items are found in the name and the identity of a type. -/
theorem valueAt_header {name : String} (hname : name ≠ "type_name") (hid : name ≠ "id")
    (label : Tree) (type : String) (rest : List Tree) :
    valueAt name (entry "type_name" [label] ++ (entry "id" (identity [.ident type]) ++ rest)) =
      valueAt name rest := by
  simp [entry, identity, support, library, path, pair, applied, angled, mark, comma, valueAt,
    hname.symm, hid.symm]

theorem value_ofTable (t : Table) {name : String} (hname : name ≠ "type_name") (hid : name ≠ "id") :
    value (ofTable t) name = valueAt name (entry "ty" (library ["Type", t.form.label]) ++
      (entry "parent" (link t) ++ (entry "fields" (listOf (t.rows.map (item t))) ++
        entry "doc" (doc t.doc)))) := by
  rw [value, inside_ofTable, ← List.append_assoc, atEnd_append]
  simp only [entries, List.append_assoc, valueAt_header hname hid]

/-- The code for a table has its link. -/
theorem value_parent_ofTable (t : Table) : value (ofTable t) "parent" = link t := by
  rw [value_ofTable t (by decide) (by decide), link]
  cases t.form with
  | record => cases t.parent? <;> rfl
  | enumeration => rfl

theorem member_no_comma (row : Row) (type access : List Tree) :
    member row type access ≠ [] ∧ ∀ t ∈ member row type access, t.isPunct ',' = false := by
  simp [member, library, path, pair, braces, Tree.isPunct]

/-- The code for a table has one item for each member, in order. -/
theorem items_ofTable (t : Table) :
    itemsOf (value (ofTable t) "fields") = t.rows.map (item t) := by
  have hitem : ∀ part ∈ t.rows.map (item t), part ≠ [] ∧ ∀ u ∈ part, u.isPunct ',' = false := by
    rintro _ hmem
    obtain ⟨row, -, rfl⟩ := List.mem_map.mp hmem
    unfold item
    split <;> exact member_no_comma _ _ _
  have hvalue : value (ofTable t) "fields" = listOf (t.rows.map (item t)) := by
    rw [value_ofTable t (by decide) (by decide), link]
    cases t.form with
    | record => cases t.parent? <;> rfl
    | enumeration => rfl
  rw [hvalue]
  exact Argument.splitAtCommas_of_joins (joins_intercalate _) hitem

/-! ## Functions -/

/-- Reaches a field: `(owner: &dyn Any) -> Option<&dyn Any>`, by
`owner.downcast_ref::<type>().map(|owner| &owner.field as &dyn Any)`, or the same for writing. -/
def reaching (type field : Tree) (reference : List Tree) (downcast : String) : Function :=
  let any := .ident "dyn" :: support "Any"
  { signature := [parens ([.ident "owner", mark ':'] ++ reference ++ any)] ++ pair '-' '>'
      ++ support "Option" ++ angled (reference ++ any)
    body := [.ident "owner", mark '.', .ident downcast] ++ applied [type]
      ++ [parens [], mark '.', .ident "map", parens (
        [mark '|', .ident "owner", mark '|'] ++ reference
        ++ [.ident "owner", mark '.', field, .ident "as"] ++ reference ++ any)] }

/-- Puts a value into a field: `(owner: &mut dyn Any, value: Box<dyn Any>) -> Result<Box<dyn Any>,
Box<dyn Any>>`, by `replace_boxed(&mut owner.field, value)` if the owner is of the type, and with
the value as an error if not. -/
def exchanging (type field : Tree) : Function :=
  let any := .ident "dyn" :: support "Any"
  { signature := [parens (
        [.ident "owner", mark ':', mark '&', .ident "mut"] ++ any ++ comma
        ++ [.ident "value", mark ':'] ++ support "Box" ++ angled any ++ comma)]
      ++ pair '-' '>' ++ support "Result"
      ++ [mark '<'] ++ support "Box" ++ angled any ++ comma
      ++ support "Box" ++ [mark '<'] ++ any ++ pair '>' '>'
    body := [.ident "match", .ident "owner", mark '.', .ident "downcast_mut"] ++ applied [type]
      ++ [parens [], braces (
        support "Some" ++ [parens [.ident "owner"]] ++ pair '=' '>'
        ++ library ["replace_boxed"]
        ++ [parens [mark '&', .ident "mut", .ident "owner", mark '.', field, mark ',',
          .ident "value"]] ++ comma
        ++ support "None" ++ pair '=' '>'
        ++ support "Result" ++ path ["Err"] ++ [parens [.ident "value"]] ++ comma)] }

/-- Makes a variant: `() -> Box<dyn Any>`, by `Box::new(type::variant)`. -/
def making (type : Tree) (variant : String) : Function where
  signature := [parens []] ++ pair '-' '>' ++ support "Box"
    ++ angled (.ident "dyn" :: support "Any")
  body := support "Box" ++ path ["new"] ++ [parens ([type] ++ path [variant])]

/-- Recognises a variant: `(value: &dyn Any) -> bool`, by
`matches!(value.downcast_ref::<type>(), Some(type::variant))`. -/
def recognising (type : Tree) (variant : String) : Function where
  signature := [parens ([.ident "value", mark ':', mark '&'] ++ .ident "dyn" :: support "Any")]
    ++ pair '-' '>' ++ [.ident "bool"]
  body := path ["core", "matches"] ++ [mark '!', parens (
    [.ident "value", mark '.', .ident "downcast_ref"] ++ applied [type] ++ [parens []]
    ++ comma ++ support "Some" ++ [parens ([type] ++ path [variant])])]

/-! ## Functions of members -/

/-- A name made from a position. -/
def numbered (stem : String) (index : Nat) : Tree := .ident (stem ++ toString index)

/-- The functions of a member, each by the beginning of its name. -/
def functionsOf (t : Table) (row : Row) : List (String × Function) :=
  let type := Tree.ident t.ident
  match t.form with
  | .record =>
    let field := Tree.ident row.ident
    [("__keyed_get_", reaching type field [mark '&'] "downcast_ref"),
      ("__keyed_get_mut_", reaching type field [mark '&', .ident "mut"] "downcast_mut"),
      ("__keyed_replace_", exchanging type field)]
  | .enumeration =>
    [("__keyed_variant_", making type row.ident), ("__keyed_is_", recognising type row.ident)]

/-- Functions under the names that a position gives them. -/
def atPosition (index : Nat) (functions : List (String × Function)) : List (Tree × Function) :=
  functions.map fun (stem, function) => (numbered stem index, function)

theorem functionsFrom_memberFunctions (t : Table) (row : Row) (rest : List Tree) :
    functionsFrom none (memberFunctions t row ++ rest) =
      atPosition row.index (functionsOf t row) ++ functionsFrom none rest := by
  unfold memberFunctions functionsOf
  cases t.form <;> rfl

theorem functionsFrom_flatMap (t : Table) (rows : List Row) (rest : List Tree) :
    functionsFrom none (rows.flatMap (memberFunctions t) ++ rest) =
      rows.flatMap (fun row => atPosition row.index (functionsOf t row)) ++
        functionsFrom none rest := by
  induction rows with
  | nil => rfl
  | cons row rows ih =>
    rw [List.flatMap_cons, List.flatMap_cons, List.append_assoc, functionsFrom_memberFunctions, ih,
      List.append_assoc]

/-- The code for a table defines the functions of its members and nothing else. -/
theorem functions_ofTable (t : Table) :
    functions (ofTable t) =
      t.rows.flatMap fun row => atPosition row.index (functionsOf t row) := by
  rw [functions, inside_ofTable, List.append_assoc, functionsFrom_flatMap]
  exact List.append_nil _

/-! ## Names -/

/-- A stem can be told from the digits behind it. -/
theorem rdropWhile_numbered {stem : String} (h : stem.toList.getLast? = some '_') (index : Nat) :
    (stem ++ toString index).toList.rdropWhile Char.isDigit = stem.toList := by
  obtain ⟨front, hstem⟩ := List.getLast?_eq_some_iff.mp h
  have hdigits : ∀ c ∈ (Nat.toDigits 10 index).reverse, c.isDigit := fun c hc =>
    Nat.isDigit_of_mem_toDigits (by decide) (by decide) (List.mem_reverse.mp hc)
  rw [String.toList_append, Nat.toString_eq_ofList_toDigits, String.toList_ofList, List.rdropWhile,
    List.reverse_append, List.dropWhile_append_of_pos hdigits, ← List.rdropWhile, hstem,
    List.rdropWhile_concat_neg _ _ _ (by decide)]

/-- Different stems or different positions give different names. -/
theorem numbered_inj {stem other : String} (h : stem.toList.getLast? = some '_')
    (hother : other.toList.getLast? = some '_') {i j : Nat}
    (heq : numbered stem i = numbered other j) : stem = other ∧ i = j := by
  have htext : stem ++ toString i = other ++ toString j := Tree.ident.inj heq
  have hstem : stem = other := by
    rw [← String.toList_inj, ← rdropWhile_numbered h i, htext, rdropWhile_numbered hother]
  subst hstem
  have hdigits : Nat.toDigits 10 i = Nat.toDigits 10 j := by
    rw [String.append_right_inj, Nat.toString_eq_ofList_toDigits,
      Nat.toString_eq_ofList_toDigits] at htext
    exact String.ofList_injective htext
  have hindex : i = j := calc
    i = Nat.ofDigitChars 10 (Nat.toDigits 10 i) 0 := Nat.ofDigitChars_ten_toDigits.symm
    _ = Nat.ofDigitChars 10 (Nat.toDigits 10 j) 0 := by rw [hdigits]
    _ = j := Nat.ofDigitChars_ten_toDigits
  exact ⟨rfl, hindex⟩

theorem stems (t : Table) (row : Row) :
    ((functionsOf t row).map (·.1)).Nodup ∧
      ∀ p ∈ functionsOf t row, p.1.toList.getLast? = some '_' := by
  unfold functionsOf
  cases t.form <;> simp

/-- If the positions of the members are different, each name in the code for a table stands for the
function of the member at its position. -/
theorem defines_ofTable {t : Table} (hindices : (t.rows.map (·.index)).Nodup) {row : Row}
    (hrow : row ∈ t.rows) (stem : String) (function : Function)
    (hfunction : (stem, function) ∈ functionsOf t row) :
    Defines (ofTable t) (numbered stem row.index) function := by
  intro other
  rw [functions_ofTable, List.mem_flatMap]
  constructor
  · rintro ⟨row', hrow', hmem⟩
    obtain ⟨⟨stem', function'⟩, hfunction', heq⟩ := List.mem_map.mp hmem
    obtain ⟨hname, rfl⟩ := Prod.mk.inj heq
    obtain ⟨rfl, hindex⟩ :=
      numbered_inj ((stems _ _).2 _ hfunction') ((stems _ _).2 _ hfunction) hname
    obtain rfl := List.inj_on_of_nodup_map hindices hrow' hrow hindex
    exact congrArg Prod.snd (List.inj_on_of_nodup_map (stems _ _).1 hfunction' hfunction rfl)
  · rintro rfl
    exact ⟨row, hrow, List.mem_map.mpr ⟨_, hfunction, rfl⟩⟩

end RecordKeys.Expansion
