/-
Keys of a type: each is a declared member, of the type itself or of one of its bases, together
with the path of bases that leads to it.
-/
import RecordKeys.Value

namespace RecordKeys

/-- A key: the member, the layout that declares it, and the steps from the type that has the key to
the one that declares it. -/
structure Entry where
  member : Member
  declaring : Layout
  path : List Link
  deriving DecidableEq

/-- What is left of an offer to a member: whether the value was taken, the value handed out or
handed back, and the instance. -/
structure Replacement where
  replaced : Bool
  returned : Datum
  after : Value

namespace Entry

/-- A member as a key of the type that declares it, if it is one. -/
def ofMember? (declaring : Layout) (m : Member) : Option Entry :=
  if m.isKey then some ⟨m, declaring, []⟩ else none

/-- The same key, seen from a type that embeds its owner. -/
def inherit (link : Link) (e : Entry) : Entry := { e with path := link :: e.path }

/-- The name on the wire, as it was declared. -/
def name (e : Entry) : Name := e.member.wireName

/-- Whether the member is declared by a base. -/
def isInherited (e : Entry) : Bool := !e.path.isEmpty

/-! ## Fields of records -/

/-- The content of the member in an instance. -/
def get (e : Entry) (v : Value) : Option Datum :=
  match e.member.access with
  | .slot i => (v.follow e.path).bind (·.slot? e.declaring.id i)
  | _ => none

/-- Revises the content of the member. -/
def revise {α : Type} (e : Entry) (f : Datum → Option (α × Datum)) (v : Value) :
    Option (α × Value) :=
  match e.member.access with
  | .slot i => v.reviseAlong (·.reviseSlot e.declaring.id i f) e.path
  | _ => none

/-- Stores a value in the member in place: `none` if the member is not reached, and otherwise
whether the value was of the right kind and is stored. -/
def assign (e : Entry) (v : Value) (d : Datum) : Option (Bool × Value) :=
  e.revise (fun old => if d.kind = old.kind then some (true, d) else some (false, old)) v

/-- Offers a value to the member. A value of another kind, or for a member that is not reached, is
handed back. -/
def replace (e : Entry) (v : Value) (d : Datum) : Replacement :=
  let swap := fun old : Datum =>
    let x := old.exchange d
    if x.replaced then some (x.returned, x.slot) else none
  match e.revise swap v with
  | some (old, after) => ⟨true, old, after⟩
  | none => ⟨false, d, v⟩

/-! ## Variants of enumerations -/

/-- An instance of the variant that the key stands for, without a base. -/
def variant? (e : Entry) : Option Value :=
  match e.member.access with
  | .variant i => some (.root e.declaring.id (.variant i))
  | _ => none

/-- Whether an instance, with a base or without, has taken the variant that the key stands for. -/
def isVariant (e : Entry) (v : Value) : Bool :=
  match e.member.access with
  | .variant i => v.variant? e.declaring.id == some i
  | _ => false

end Entry

end RecordKeys
