/-
The members that a type declares, the fields of a record or the variants of an enumeration, with
what their declaration says about their part in the set of keys.
-/
import RecordKeys.Name.Casing

namespace RecordKeys

/-- The marks on a member. -/
structure Flags where
  /-- The member is left out of the keys. -/
  excluded : Bool := false
  /-- The member marks the type and carries no data. -/
  marker : Bool := false
  /-- The member is the embedded base of the record. -/
  base : Bool := false
  /-- The member stands for the null name. -/
  null : Bool := false
  deriving DecidableEq, Repr

/-- The marks as a number, one binary digit each. -/
def Flags.bits (f : Flags) : Nat :=
  f.excluded.toNat + 2 * f.marker.toNat + 4 * f.base.toNat + 8 * f.null.toNat

/-- How a member is reached in an instance of its type. -/
inductive Access
  /-- A slot of the instance, by its position. -/
  | slot (index : Nat)
  /-- A slot that is never reached. -/
  | sealed
  /-- A variant of an enumeration, by its position. -/
  | variant (index : Nat)
  deriving DecidableEq, Repr

/-- Whether a member is a variant rather than a slot. -/
def Access.isVariant : Access → Bool
  | variant _ => true
  | _ => false

/-- A declared member: its name, the new name that its declaration gives it on the wire, the name
of its type, how it is reached, and its documentation line by line. -/
structure Member where
  name : String
  rename : Option String
  flags : Flags
  typeName : String
  access : Access
  doc : List String
  deriving DecidableEq, Repr

namespace Member

/-- Whether the member becomes a key of the type that declares it. -/
def isKey (m : Member) : Bool := !(m.flags.excluded || m.flags.marker || m.flags.base)

/-- The name of the member on the wire. An empty new name stands for the declared one. -/
def wireName (m : Member) : Name :=
  if m.flags.null then none
  else match m.rename with
    | some new => if new = "" then some m.name else some new
    | none => some m.name

end Member

end RecordKeys
