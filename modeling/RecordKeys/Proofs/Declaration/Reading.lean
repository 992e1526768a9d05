/-
What an item of generated code says of a member. It is read off the trees of the item, part by part,
and without regard to how they were made: the item constructs a field out of named parts, and these
are texts, calls of functions from the supporting library, and the names of functions. A type stands
between angle brackets, whatever its trees are.

What is written for a member is read as what is known of the member.
-/
import RecordKeys.Declaration.Expansion
import RecordKeys.Proofs.Declaration.Splitting
import RecordKeys.Proofs.Text.Quoting

namespace RecordKeys.Expansion

/-! ## Expressions -/

/-- The names of a path from the root, and what follows it. -/
def takePath : List Tree → List String × List Tree
  | .punct ':' true :: .punct ':' false :: .ident name :: rest =>
    (name :: (takePath rest).1, (takePath rest).2)
  | rest => ([], rest)

/-- How a path is called with one argument. -/
def Calls (names : List String) (argument trees : List Tree) : Prop :=
  takePath trees = (names, [.group .paren argument])

/-- How a path is given arguments in angle brackets. The last tree closes them: if brackets were
counted, it would be taken for half of an arrow behind arguments that end in a dash. -/
def Applies (names : List String) (arguments trees : List Tree) : Prop :=
  takePath trees = (names, .punct ':' true :: .punct ':' false :: .punct '<' false ::
    (arguments ++ [.punct '>' false]))

/-- How a value is constructed from named parts. -/
def Constructs (names : List String) (parts : List (String × List Tree)) (trees : List Tree) :
    Prop :=
  ∃ body, takePath trees = (names, [.group .brace body]) ∧
    Joins (parts.map fun p => .ident p.1 :: .punct ':' false :: p.2) body

/-- How a text is written. -/
inductive Denotes (s : String) : List Tree → Prop
  | intro {literal : String} (h : Text.denoted? literal = some s) : Denotes s [.literal literal]

/-- How a text, or none, is written. -/
def DenotesOption : Option String → List Tree → Prop
  | none, trees => takePath trees = (["fieldmap", "__private", "None"], [])
  | some s, trees => ∃ argument,
    Calls ["fieldmap", "__private", "Some"] argument trees ∧ Denotes s argument

/-- How a list of texts is written. -/
def DenotesAll (texts : List String) (trees : List Tree) : Prop :=
  ∃ items parts, trees = [.punct '&' false, .group .bracket items] ∧ Joins parts items ∧
    List.Forall₂ Denotes texts parts

/-! ## Marks -/

/-- The marks that are joined to others, one after the other. -/
def unions? : List Tree → Option (List String)
  | [] => some []
  | .punct '.' false :: .ident "union" :: .group .paren mark :: rest =>
    match takePath mark with
    | (["fieldmap", "FieldFlags", name], []) => (unions? rest).map (name :: ·)
    | _ => none
  | _ => none

/-- The marks in an expression for the flags of a member: it begins without any. -/
def marks? (trees : List Tree) : Option (List String) :=
  match takePath trees with
  | (["fieldmap", "FieldFlags", "empty"], .group .paren [] :: rest) => unions? rest
  | _ => none

/-! ## Items -/

/-- The functions behind a member, by their names. -/
inductive Accessors
  | slot (get getMut replace : Tree)
  | constant (make recognise : Tree)

/-- How the functions behind a member are named. -/
def Accessors.Written : Accessors → List Tree → Prop
  | slot get getMut replace, trees => ∃ functions,
    Calls ["fieldmap", "FieldAccess", "Slot"] functions trees ∧
    Constructs ["fieldmap", "SlotVTable"]
      [("get", [get]), ("get_mut", [getMut]), ("replace", [replace])] functions
  | constant make recognise, trees => ∃ functions,
    Calls ["fieldmap", "FieldAccess", "Constant"] functions trees ∧
    Constructs ["fieldmap", "ConstantVTable"]
      [("value", [make]), ("matches", [recognise])] functions

/-- What an item says of a member. -/
structure Description where
  name : String
  rename : Option String
  marks : List String
  typeName : List Tree
  typeId : List Tree
  access : Accessors
  doc : List String

/-- How an item is written. -/
inductive Description.Written (d : Description) (item : List Tree) : Prop
  | intro {name rename flags typeName typeId access doc : List Tree}
    (parts : Constructs ["fieldmap", "Field"] [("name", name), ("rename", rename), ("flags", flags),
      ("type_name", typeName), ("type_id", typeId), ("access", access), ("doc", doc)] item)
    (hname : Denotes d.name name) (hrename : DenotesOption d.rename rename)
    (hflags : marks? flags = some d.marks)
    (htypeName : Applies ["fieldmap", "__private", "type_name"] d.typeName typeName)
    (htypeId : Applies ["fieldmap", "__private", "TypeId", "of"] d.typeId typeId)
    (haccess : d.access.Written access) (hdoc : DenotesAll d.doc doc)

/-- How a link to the member that embeds the base is written. -/
def Description.Linked (d : Description) (trees : List Tree) : Prop :=
  ∃ argument label shape get getMut replace,
    Calls ["fieldmap", "__private", "Some"] argument trees ∧
    Constructs ["fieldmap", "ParentLink"]
      [("field", label), ("shape", shape), ("project", [get]), ("project_mut", [getMut])] argument ∧
    Denotes d.name label ∧ Applies ["fieldmap", "shape_of"] d.typeName shape ∧
    d.access = .slot get getMut replace

/-! ## Reading what has been written -/

theorem takePath_path (names : List String) {rest : List Tree} (h : takePath rest = ([], rest)) :
    takePath (path names ++ rest) = (names, rest) := by
  induction names with
  | nil => exact h
  | cons name names ih =>
    have hcons : path (name :: names) ++ rest =
        .punct ':' true :: .punct ':' false :: .ident name :: (path names ++ rest) := rfl
    rw [hcons, takePath, ih]

/-- A construction is read as it is written, with a comma behind each part. -/
theorem constructs_path (names : List String) {parts : List (String × List Tree)} {body : List Tree}
    (h : body = parts.flatMap fun p => entry p.1 p.2) :
    Constructs names parts (path names ++ [braces body]) := by
  refine ⟨body, takePath_path names rfl, ?_⟩
  subst h
  induction parts with
  | nil => exact .nil
  | cons p parts ih =>
    have hentry : entry p.1 p.2 = .ident p.1 :: .punct ':' false :: p.2 ++ [.punct ',' false] := rfl
    rw [List.map_cons, List.flatMap_cons, hentry, List.append_assoc]
    exact .cons _ false ih

theorem denotes_text (s : String) : Denotes s [text s] := .intro (Text.denoted?_literal s)

theorem denotesOption_rename (row : Row) : DenotesOption row.traits.rename (rename row) := by
  unfold rename
  cases row.traits.rename with
  | none => rfl
  | some name => exact ⟨_, rfl, denotes_text name⟩

theorem joins_intercalate (parts : List (List Tree)) : Joins parts (comma.intercalate parts) := by
  match parts with
  | [] => exact .nil
  | [part] => rw [List.intercalate_singleton]; exact .last part
  | part :: next :: parts =>
    rw [List.intercalate_cons_cons, List.append_assoc]
    exact .cons part false (joins_intercalate (next :: parts))

theorem denotesAll_doc (lines : List String) : DenotesAll lines (doc lines) := by
  refine ⟨_, _, rfl, joins_intercalate _, ?_⟩
  rw [List.forall₂_map_right_iff, List.forall₂_same]
  exact fun line _ => denotes_text line

theorem marks?_flags (row : Row) :
    marks? (flags row) = some ((if row.traits.skip then ["SKIP"] else [])
      ++ (if row.isMarker then ["SYNTHETIC"] else [])
      ++ (if row.traits.parent then ["PARENT"] else [])
      ++ (if row.traits.null then ["NULL_NAME"] else [])) := by
  unfold flags
  cases row.traits.skip <;> cases row.isMarker <;> cases row.traits.parent <;>
    cases row.traits.null <;> rfl

end RecordKeys.Expansion

namespace RecordKeys.Row

open Expansion

/-- The marks of a member in generated code. -/
def marks (row : Row) : List String := (marks? (flags row)).getD []

theorem skip_mem_marks {row : Row} : "SKIP" ∈ row.marks ↔ row.traits.skip := by
  simp [marks, marks?_flags]

theorem parent_mem_marks {row : Row} : "PARENT" ∈ row.marks ↔ row.traits.parent := by
  simp [marks, marks?_flags]

/-- The description of a member with a given type and given functions. -/
def description (row : Row) (type : List Tree) (access : Accessors) : Description where
  name := row.name
  rename := row.traits.rename
  marks := row.marks
  typeName := type
  typeId := type
  access := access
  doc := row.traits.doc

/-- What is written for a member describes it. -/
theorem written_member (row : Row) (type : List Tree) {a : Accessors} {access : List Tree}
    (h : a.Written access) : (row.description type a).Written (member row type access) := by
  have hparts : Constructs ["fieldmap", "Field"] [("name", [text row.name]),
      ("rename", rename row), ("flags", flags row),
      ("type_name", support "type_name" ++ applied type), ("type_id", identity type),
      ("access", access), ("doc", doc row.traits.doc)] (member row type access) :=
    constructs_path _ (by simp)
  have hmarks : marks? (flags row) = some row.marks := by rw [marks, marks?_flags]; rfl
  exact .intro hparts (denotes_text _) (denotesOption_rename row) hmarks rfl rfl h
    (denotesAll_doc _)

/-- The description of a field. -/
def asField (row : Row) : Description :=
  row.description row.type (.slot (getName row) (getMutName row) (replaceName row))

/-- The description of a variant. -/
def asVariant (row : Row) (type : Tree) : Description :=
  row.description [type] (.constant (variantName row) (isName row))

theorem written_field (row : Row) : row.asField.Written (field row) :=
  row.written_member row.type ⟨_, rfl, constructs_path _ (by simp)⟩

theorem written_variant (row : Row) (type : Tree) :
    (row.asVariant type).Written (variant type row) :=
  row.written_member [type] ⟨_, rfl, constructs_path _ (by simp)⟩

theorem linked_parentLink (row : Row) : row.asField.Linked (parentLink (some row)) :=
  ⟨_, [text row.name], library ["shape_of"] ++ applied row.type, _, _, _, rfl,
    constructs_path _ (by simp), denotes_text _, rfl, rfl⟩

end RecordKeys.Row
