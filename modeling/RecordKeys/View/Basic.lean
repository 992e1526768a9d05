/-
Views: a record seen through the key map of its type, as a set of keys with contents. A view
converts nothing: a content goes in and comes out with the exact kind of the member.
-/
import RecordKeys.Registry.Basic
import RecordKeys.View.Error

namespace RecordKeys

/-- A record and the key map that it is seen through. -/
structure View where
  map : KeyMap
  value : Value
  deriving DecidableEq

/-- The outcome of opening a view with a key map from a registry. -/
structure Opening where
  view : Except ViewError View
  registry : Registry
  events : List Event

namespace View

/-! ## Opening -/

/-- Opens a view of an instance through a key map, which has to be that of the type of the
instance; the type has to be a record. -/
def ofInstance (i : Instance) (m : KeyMap) : Except ViewError View :=
  if !m.layout.sameType i.layout then .error (.otherType m.layout.name i.layout.name)
  else if m.layout.isEnum then .error (.notRecord i.layout.name)
  else .ok ⟨m, i.value⟩

/-- Opens a view of an instance with the answer to a request for the key map of its type. -/
def ofAnswer (i : Instance) : Except Fault Shared → Except ViewError View
  | .error fault => .error (.noKeyMap fault)
  | .ok s => ofInstance i s.map

/-- Opens a view of an instance through the key map that a registry has for its type. -/
def ofRegistry (r : Registry) (casing : Casing) (i : Instance) : Opening :=
  let reply := r.resolve casing i.layout
  ⟨ofAnswer i reply.answer, reply.registry, reply.events⟩

/-! ## Reading -/

/-- The keys in their order. -/
def keys (w : View) : List String := w.map.keys

/-- The number of keys. -/
def size (w : View) : Nat := w.map.size

/-- Whether there are no keys. -/
def isEmpty (w : View) : Bool := w.map.isEmpty

/-- Whether a name is a key. -/
def contains (w : View) (key : String) : Bool := (w.map.field? key).isSome

/-- The content under a key. -/
def get (w : View) (key : String) : Option Datum := (w.map.field? key).bind (·.get w.value)

/-- The content under a key, if it is of a given kind. -/
def getAs (w : View) (key : String) (kind : Kind) : Option Datum :=
  (w.get key).filter (·.kind == kind)

/-- The names as they were declared, with their contents, in the order of the keys. Members
without a content are passed over. -/
def pairs (w : View) : List (String × Datum) :=
  w.map.fields.filterMap fun e =>
    match e.name, e.get w.value with
    | some name, some content => some (name, content)
    | _, _ => none

/-! ## Writing -/

/-- Stores a value in place: `none` if the member is not reached, and otherwise whether the value
was of the right kind and is stored. -/
def assign (w : View) (key : String) (d : Datum) : Option (Bool × View) :=
  (w.map.field? key).bind fun e => (e.assign w.value d).map fun (done, v) => (done, { w with value := v })

/-- Puts a value under a key. The answer is the content that was there before. -/
def set (w : View) (key : String) (d : Datum) : Except ViewError (Datum × View) :=
  match w.map.field? key with
  | none => .error (.unknownKey w.map.layout.name key)
  | some e =>
    let outcome := e.replace w.value d
    if outcome.replaced then .ok (outcome.returned, { w with value := outcome.after })
    else .error (.wrongKind key e.member.typeName)

/-- Puts a value under a key, for a caller that expects the old content to be of the same kind. -/
def insert (w : View) (key : String) (d : Datum) : Except ViewError (Datum × View) :=
  match w.set key d with
  | .error e => .error e
  | .ok (old, after) =>
    if old.kind = d.kind then .ok (old, after) else .error (.wrongKind key d.kind.name)

/-! ## Display -/

/-- The text that displays a view; views for reading and for writing have names of their own. -/
def display (w : View) (writable : Bool) : String :=
  Text.labelledPartly (if writable then "DataMap" else "DataRef") [
    ("type", Text.quoted w.map.layout.name), ("case", w.map.casing.label)]

end View

end RecordKeys
