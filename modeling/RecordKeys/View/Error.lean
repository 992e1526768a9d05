/-
Why a view cannot be opened, or a request to it cannot be met.
-/
import RecordKeys.KeyMap.Fault

namespace RecordKeys

/-- The errors of views. Keys are given as they were passed in, not in normal form. -/
inductive ViewError
  /-- The type has no such key. -/
  | unknownKey (type key : String)
  /-- The value is not of the kind that the member holds. -/
  | wrongKind (key expected : String)
  /-- The key map is that of another type. -/
  | otherType (expected actual : String)
  /-- Only records have fields to view. -/
  | notRecord (type : String)
  /-- Only enumerations have variants to name. -/
  | notEnum (type : String)
  /-- The variant is not among the keys. -/
  | unnamedVariant (type : String)
  /-- The type has no key map. -/
  | noKeyMap (fault : Fault)
  deriving DecidableEq, Repr

namespace ViewError

/-- The message of an error. -/
def message : ViewError → String
  | unknownKey type key => "no field of key `" ++ key ++ "` on " ++ type
  | wrongKind key expected => "value for `" ++ key ++ "` is not a " ++ expected
  | otherType expected actual =>
    "type info describes " ++ expected ++ ", but the value is a " ++ actual
  | notRecord type => type ++ " is not a struct"
  | notEnum type => type ++ " is not an enum"
  | unnamedVariant type => "variant of " ++ type ++ " has no wire name"
  | noKeyMap fault => fault.message

/-- The message of the error that lies behind an error. -/
def source? : ViewError → Option String
  | noKeyMap fault => some fault.message
  | _ => none

end ViewError

end RecordKeys
