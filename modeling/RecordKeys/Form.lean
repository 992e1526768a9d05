/-
The two forms of types that have keys.
-/
namespace RecordKeys

/-- Records have fields, enumerations have variants without data. -/
inductive Form
  | record
  | enumeration
  deriving DecidableEq, Repr

/-- The label of a form in the display of a layout. -/
def Form.label : Form → String
  | record => "Struct"
  | enumeration => "Enum"

/-- The keyword that declares a type of a form. -/
def Form.keyword : Form → String
  | record => "struct"
  | enumeration => "enum"

end RecordKeys
