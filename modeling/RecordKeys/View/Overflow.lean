/-
Records that keep what they do not know. A key that the record declares reads and writes the field;
any other key is kept beside the record, under its normal form and in the order of arrival.
-/
import RecordKeys.View.Basic

namespace RecordKeys

/-- Contents kept under keys that no field has. -/
abbrev Extras := Rows String Datum

/-- A record, the key map that it is seen through, and what it keeps beside its fields. -/
structure OpenRecord where
  layout : Layout
  value : Value
  map : KeyMap
  extras : Extras
  deriving DecidableEq

/-- The outcome of wrapping a record. -/
structure Wrapping where
  record : Except ViewError OpenRecord
  registry : Registry
  events : List Event

namespace OpenRecord

/-- Wraps a record, with the key map that a registry has for its type. -/
def wrap (r : Registry) (casing : Casing) (i : Instance) : Wrapping :=
  let reply := r.resolve casing i.layout
  let record := match reply.answer with
    | .error fault => .error (.noKeyMap fault)
    | .ok s =>
      if s.map.layout.isEnum then .error (.notRecord i.layout.name)
      else .ok ⟨i.layout, i.value, s.map, []⟩
  ⟨record, reply.registry, reply.events⟩

/-- The record as an instance of its type. -/
def toInstance (o : OpenRecord) : Instance := ⟨o.layout, o.value⟩

/-- A view of the declared fields only. -/
def toView (o : OpenRecord) : View := ⟨o.map, o.value⟩

/-! ## Reading -/

/-- The declared names in their order, then the others in the order of arrival. -/
def keys (o : OpenRecord) : List String := o.map.keys ++ o.extras.keys

/-- The number of keys. -/
def size (o : OpenRecord) : Nat := o.map.size + o.extras.length

/-- Whether there are no keys. -/
def isEmpty (o : OpenRecord) : Bool := o.size == 0

/-- The content under a key, declared or not. -/
def get (o : OpenRecord) (key : String) : Option Datum :=
  match o.map.field? key with
  | some e => e.get o.value
  | none => o.extras.get? (o.map.casing.normal key)

/-- The content under a key, if it is of a given kind. -/
def getAs (o : OpenRecord) (key : String) (kind : Kind) : Option Datum :=
  (o.get key).filter (·.kind == kind)

/-! ## Writing -/

/-- Puts a value under a key. A declared key takes values of its own kind only, any other key takes
all. The answer is the content that was there before, if there was one. -/
def set (o : OpenRecord) (key : String) (d : Datum) :
    Except ViewError (Option Datum × OpenRecord) :=
  match o.map.field? key with
  | some e =>
    let outcome := e.replace o.value d
    if outcome.replaced then .ok (some outcome.returned, { o with value := outcome.after })
    else .error (.wrongKind key e.member.typeName)
  | none =>
    let normal := o.map.casing.normal key
    .ok (o.extras.get? normal, { o with extras := o.extras.put normal d })

/-- Removes a key that is not declared. Fields cannot be removed. -/
def remove (o : OpenRecord) (key : String) : Option Datum × OpenRecord :=
  let normal := o.map.casing.normal key
  (o.extras.get? normal, { o with extras := o.extras.drop normal })

/-- Puts another value of the record in the place of the old one. -/
def withValue (o : OpenRecord) (v : Value) : OpenRecord := { o with value := v }

/-! ## Display -/

/-- The text that displays the record and the keys that it does not declare. -/
def display (o : OpenRecord) : String :=
  Text.labelled "GenericData" [
    ("value", o.layout.displayValue o.value),
    ("unknown", Text.bracketed (o.extras.keys.map Text.quoted))]

end OpenRecord

end RecordKeys
