/-
From a declaration to the table of its members. All complaints about a declaration are collected,
those about the type first and then those about each member in turn; a declaration without
complaints has a table.
-/
import RecordKeys.Declaration.Body
import RecordKeys.Declaration.Item
import RecordKeys.Declaration.Traits

namespace RecordKeys

/-- A member of a declaration: its position among the members, its name as it is written, what its
attributes say, and the type of a field. A variant has no type. -/
structure Row where
  index : Nat
  ident : String
  traits : Traits
  type : List Tree

/-- The declared members of a type. -/
structure Table where
  form : Form
  ident : String
  doc : List String
  rows : List Row

namespace Row

/-- The name of the member. -/
def name (row : Row) : String := plainName row.ident

/-- Whether the member is a marker without data. -/
def isMarker (row : Row) : Bool := isMarkerType row.type

/-- The type of a field, or the nothing of a variant, from what follows its name. -/
def typeOf : Form → List Tree → Except Complaint (List Tree)
  | .record, .punct ':' _ :: t :: type => .ok (t :: type)
  | .record, _ => .error .notTyped
  | .enumeration, [] => .ok []
  | .enumeration, .punct '=' _ :: _ => .ok []
  | .enumeration, _ => .error .carriesData

/-- Reads a member, with the complaints about its attributes. Those of a member that is not well
formed are not looked at. -/
def read (form : Form) (index : Nat) (member : List Tree) :
    Except Complaint (Row × List Complaint) :=
  match Item.read? member with
  | none => .error .notAMember
  | some item =>
    match typeOf form item.rest with
    | .error c => .error c
    | .ok type =>
      let (traits, complaints) := Traits.ofAttributes item.attributes
      .ok (⟨index, item.name, traits, type⟩, complaints)

/-- Whether the member is singled out, as only one member of a type may be: as the base of a record
or as the variant for the null name. -/
def isSingle (form : Form) (row : Row) : Bool :=
  match form with
  | .record => row.traits.parent
  | .enumeration => row.traits.null

/-- The arguments that do not belong on the member. `taken` says whether an earlier member has been
singled out. -/
def misuses (form : Form) (taken : Bool) (row : Row) : List Complaint :=
  let t := row.traits
  match form with
  | .record =>
    (if t.null then [.nullOnField] else [])
    ++ (if t.parent && (t.rename.isSome || t.skip) then [.namedParent] else [])
    ++ (if t.parent && taken then [.secondParent] else [])
  | .enumeration =>
    (if t.parent then [.parentOnVariant] else [])
    ++ (if t.null && taken then [.secondNull] else [])
    ++ (if t.null && t.rename.isSome then [.namedNull] else [])

/-- Reads the members from a position on. -/
def readAll (form : Form) (taken : Bool) (index : Nat) :
    List (List Tree) → List Row × List Complaint
  | [] => ([], [])
  | member :: rest =>
    match read form index member with
    | .error c =>
      let (rows, complaints) := readAll form taken (index + 1) rest
      (rows, c :: complaints)
    | .ok (row, own) =>
      let (rows, complaints) := readAll form (taken || row.isSingle form) (index + 1) rest
      (row :: rows, own ++ row.misuses form taken ++ complaints)

end Row

namespace Declaration

/-- The body of a declaration. A type may end in a semicolon instead of a body. -/
def body (d : Declaration) : Except Complaint (List Tree) :=
  match d.item.rest with
  | .group .brace body :: _ => .ok body
  | .punct ';' _ :: _ => .ok []
  | .punct '<' _ :: _ => .error (.generic d.form)
  | .group .paren _ :: _ => .error .tuple
  | _ => .error (.noBody d.form)

/-- The table of a declaration, or all complaints about it. A declaration without a body has no
other complaint. -/
def table (d : Declaration) : Except (List Complaint) Table :=
  match d.body with
  | .error c => .error [c]
  | .ok body =>
    let (traits, onType) := Traits.ofAttributes d.item.attributes
    let (rows, onMembers) := Row.readAll d.form false 0 (Body.members body)
    match onType ++ (if traits.hasArgument then [.argumentsOnType] else []) ++ onMembers with
    | [] => .ok ⟨d.form, d.item.name, traits.doc, rows⟩
    | complaints => .error complaints

end Declaration

/-- The field that embeds the base. -/
def Table.parent? (t : Table) : Option Row := t.rows.find? (·.traits.parent)

end RecordKeys
