/-
Layouts of types: the members that a type declares and, for a type that embeds another as its base,
the layout of the base. A layout is thus a chain of levels that ends in a type without a base.
-/
import RecordKeys.Form
import RecordKeys.Layout.Member
import RecordKeys.Text.Quoted

namespace RecordKeys

/-- The identity of a type. Two layouts with one identity are layouts of the same type. -/
abbrev TypeId := Nat

/-- What one type declares itself. -/
structure Level where
  name : String
  id : TypeId
  form : Form
  members : List Member
  doc : List String
  deriving DecidableEq, Repr

/-- The layout of a type: one that stands alone, or one that embeds a base in one of its fields. -/
inductive Layout
  | root (level : Level)
  | embedding (level : Level) (field : String) (base : Layout)
  deriving DecidableEq, Repr

/-- A step from a type to the base that it embeds. -/
structure Link where
  owner : TypeId
  field : String
  deriving DecidableEq, Repr

namespace Layout

/-- The type's own level. -/
def level : Layout → Level
  | root l => l
  | embedding l _ _ => l

/-- The name of the type. -/
def name (t : Layout) : String := t.level.name

/-- The identity of the type. -/
def id (t : Layout) : TypeId := t.level.id

/-- The members that the type declares itself. -/
def members (t : Layout) : List Member := t.level.members

/-- Whether the type is an enumeration. -/
def isEnum (t : Layout) : Bool := t.level.form == .enumeration

/-- The layout of the embedded base. -/
def base? : Layout → Option Layout
  | root _ => none
  | embedding _ _ base => some base

/-- The field that holds the base. -/
def baseField? : Layout → Option String
  | root _ => none
  | embedding _ field _ => some field

/-- The step to the base. -/
def link? : Layout → Option Link
  | root _ => none
  | embedding l field _ => some ⟨l.id, field⟩

/-- The number of levels of the chain. -/
def depth : Layout → Nat
  | root _ => 1
  | embedding _ _ base => base.depth + 1

/-- Whether two layouts are layouts of the same type. -/
def sameType (t u : Layout) : Bool := t.id == u.id

/-- The position of the first declared member of a name. -/
def declaredIndex? (t : Layout) (name : String) : Option Nat :=
  t.members.findIdx? (·.name == name)

/-- The text that displays a layout. -/
def display (t : Layout) : String :=
  Text.labelledPartly "Shape" [
    ("type_name", Text.quoted t.name),
    ("ty", t.level.form.label),
    ("parent", match t.base? with
      | some base => "Some(" ++ Text.quoted base.name ++ ")"
      | none => "None"),
    ("fields", toString t.members.length)]

end Layout

end RecordKeys
