/-
The registry of key maps. It keeps one key map per type and casing and hands out the same instance
from then on. A key map that is not there is built, the key maps of the bases being taken from the
registry as well, and stored unless another one has been stored in the meantime. A type that has no
key map leaves nothing in the registry, but its bases may.
-/
import RecordKeys.KeyMap.Build

namespace RecordKeys

/-- A key map as it is handed out. Two instances are the same exactly when their stamps agree. -/
structure Shared where
  stamp : Nat
  map : KeyMap
  deriving DecidableEq

/-- The key maps stored for each casing, by type, and the stamp for the next instance. -/
structure Registry where
  exact : Rows TypeId Shared
  folded : Rows TypeId Shared
  next : Nat
  deriving DecidableEq

/-- The outcome of a request to a registry. -/
structure Reply where
  answer : Except Fault Shared
  registry : Registry
  events : List Event

namespace Registry

/-- A registry without key maps. -/
def empty : Registry := ⟨[], [], 0⟩

/-- The key maps stored for a casing. -/
def shelf (r : Registry) : Casing → Rows TypeId Shared
  | .exact => r.exact
  | .folded => r.folded

/-- The instance stored for a type. -/
def find? (r : Registry) (casing : Casing) (id : TypeId) : Option Shared :=
  (r.shelf casing).get? id

/-- Whether a key map is stored for a type. -/
def contains (r : Registry) (casing : Casing) (t : Layout) : Bool := (r.find? casing t.id).isSome

/-- The number of types stored for a casing. -/
def size (r : Registry) (casing : Casing) : Nat := (r.shelf casing).length

/-- Whether nothing is stored. -/
def isEmpty (r : Registry) : Bool := r.size .exact == 0 && r.size .folded == 0

/-- The text that displays a registry. -/
def display (r : Registry) : String :=
  Text.labelled "TypeInfoCache" [
    ("sensitive", toString (r.size .exact)), ("insensitive", toString (r.size .folded))]

/-! ## Storing -/

/-- Adds an instance for a type. -/
def add (r : Registry) (casing : Casing) (id : TypeId) (s : Shared) : Registry :=
  match casing with
  | .exact => { r with exact := r.exact.put id s }
  | .folded => { r with folded := r.folded.put id s }

/-- Makes a key map an instance of its own. -/
def mint (r : Registry) (m : KeyMap) : Shared × Registry :=
  (⟨r.next, m⟩, { r with next := r.next + 1 })

/-- Stores an instance for a type unless there is one. The answer is the instance that is stored
afterwards. -/
def settle (r : Registry) (casing : Casing) (id : TypeId) (s : Shared) : Shared × Registry :=
  match r.find? casing id with
  | some earlier => (earlier, r)
  | none => (s, r.add casing id s)

/-! ## Requests -/

/-- Builds the key map of a type, given that of its base, and stores it. -/
def supply (r : Registry) (casing : Casing) (t : Layout) (base : Option KeyMap) : Reply :=
  let told := KeyMap.completeEvents t casing base
  match KeyMap.complete t casing base with
  | .error fault => ⟨.error fault, r, told⟩
  | .ok m =>
    let (own, r) := r.mint m
    let (stored, r) := r.settle casing t.id own
    ⟨.ok stored, r, told ++ if stored.stamp = own.stamp then [] else [.lateStore t.name casing]⟩

/-- The key map of a type. -/
def resolve (casing : Casing) : Layout → Registry → Reply
  | .root l, r =>
    match r.find? casing l.id with
    | some s => ⟨.ok s, r, [.hit l.name casing]⟩
    | none =>
      match (Layout.root l).refusal? casing with
      | some fault => ⟨.error fault, r, []⟩
      | none => r.supply casing (.root l) none
  | .embedding l field base, r =>
    match r.find? casing l.id with
    | some s => ⟨.ok s, r, [.hit l.name casing]⟩
    | none =>
      match (Layout.embedding l field base).refusal? casing with
      | some fault => ⟨.error fault, r, []⟩
      | none =>
        let above := resolve casing base r
        match above.answer with
        | .error fault => ⟨.error fault, above.registry, above.events⟩
        | .ok s =>
          let own := above.registry.supply casing (.embedding l field base) (some s.map)
          { own with events := above.events ++ own.events }

end Registry

end RecordKeys
