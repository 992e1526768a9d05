/-
How two names are compared: as they are written, or without regard to letter case. Names that are
compared without regard to case are brought into a normal form first, and the normal form is what
is stored and looked up.
-/
import RecordKeys.Text.Lowercase

namespace RecordKeys

/-- A name on the wire. The null name, which an enumeration may give to one of its variants, is
`none`. -/
abbrev Name := Option String

/-- The two ways of comparing names. -/
inductive Casing
  | exact
  | folded
  deriving DecidableEq, Repr

namespace Casing

/-- Names are compared as written unless something else is asked for. -/
instance : Inhabited Casing := ⟨exact⟩

/-- The casing that a flag selects. -/
def ofFlag (ignoreCase : Bool) : Casing := if ignoreCase then folded else exact

/-- Whether letter case is left out of account. -/
def ignoresCase : Casing → Bool
  | exact => false
  | folded => true

/-- What a casing is called in messages. -/
def describe : Casing → String
  | exact => "case-sensitive"
  | folded => "case-insensitive"

/-- The label of a casing in the display of a value. -/
def label : Casing → String
  | exact => "Sensitive"
  | folded => "Insensitive"

/-- Whether a name is left as it is. A name without capitals is not lowered, even if it holds
letters in title case. -/
def keeps : Casing → String → Bool
  | exact, _ => true
  | folded, name => !Text.hasCapital name

/-- The normal form of a name. -/
def normal (c : Casing) (name : String) : String :=
  if c.keeps name then name else Text.lowercase name

/-- The normal form of a name that may be the null name. -/
def key (c : Casing) (name : Name) : Name := name.map c.normal

@[simp] theorem key_none (c : Casing) : c.key none = none := rfl

@[simp] theorem key_some (c : Casing) (name : String) : c.key (some name) = some (c.normal name) :=
  rfl

@[simp] theorem normal_exact (name : String) : exact.normal name = name := rfl

@[simp] theorem key_exact (name : Name) : exact.key name = name := by
  cases name <;> rfl

end Casing

end RecordKeys
