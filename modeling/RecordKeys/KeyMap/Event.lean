/-
What happens while key maps are built and looked up, as it is told in a log.
-/
import RecordKeys.KeyMap.Basic

namespace RecordKeys

/-- Something that happened. -/
inductive Event
  /-- The key map of a type was found ready. -/
  | hit (type : String) (casing : Casing)
  /-- A key map begins with the keys of the base. -/
  | seeding (type : String) (count : Nat) (base : String)
  /-- A key map was built. -/
  | built (type : String) (casing : Casing) (count : Nat)
  /-- Another key map of the same type was stored first. -/
  | lateStore (type : String) (casing : Casing)
  deriving DecidableEq, Repr

namespace Event

/-- How much an event matters. -/
def level : Event → String
  | built .. => "DEBUG"
  | _ => "TRACE"

/-- An event in words. -/
def message : Event → String
  | hit type casing => "type info cache hit: " ++ type ++ " (" ++ casing.describe ++ ")"
  | seeding type count base =>
    "seeding " ++ type ++ " with " ++ toString count ++ " keys of " ++ base
  | built type casing count =>
    "built field map of " ++ type ++ " (" ++ casing.describe ++ "): " ++ toString count ++ " keys"
  | lateStore type casing => "lost the race to cache " ++ type ++ " (" ++ casing.describe ++ ")"

end Event

end RecordKeys
