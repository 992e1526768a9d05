/-
Live values. An instance has content of its own, the slots of a record or the variant of an
enumeration, and an instance of the base if its type embeds one. Every access names the type that
it is meant for, and reaches nothing in an instance of another type.
-/
import RecordKeys.Datum
import RecordKeys.Layout.Basic

namespace RecordKeys

/-! ## Writing in place

A revision of a part gives an answer and the part as it is afterwards, or refuses. What is around
the part is rebuilt with the new part in its place. -/

/-- Revises the datum at a position; empty positions and positions past the end refuse. -/
def reviseAt {α : Type} (f : Datum → Option (α × Datum)) :
    Nat → List (Option Datum) → Option (α × List (Option Datum))
  | _, [] => none
  | 0, none :: _ => none
  | 0, some d :: rest => (f d).map fun (a, new) => (a, some new :: rest)
  | i + 1, s :: rest => (reviseAt f i rest).map fun (a, rest) => (a, s :: rest)

/-! ## Content -/

/-- What an instance holds itself: the slots of a record, one per field, or the variant that an
enumeration has taken. -/
inductive Content
  | slots (slots : List (Option Datum))
  | variant (index : Nat)
  deriving DecidableEq

namespace Content

/-- The datum in a slot. A variant has no slots. -/
def slot? (index : Nat) : Content → Option Datum
  | slots s => s[index]?.join
  | variant _ => none

/-- Revises the datum in a slot. -/
def revise {α : Type} (index : Nat) (f : Datum → Option (α × Datum)) :
    Content → Option (α × Content)
  | slots s => (reviseAt f index s).map fun (a, s) => (a, slots s)
  | variant _ => none

end Content

/-! ## Values -/

/-- A value: plain, an instance of a type that stands alone, or an instance of a type that embeds
a base. -/
inductive Value
  | plain (d : Datum)
  | root (id : TypeId) (content : Content)
  | embedding (id : TypeId) (content : Content) (base : Value)
  deriving DecidableEq

namespace Value

/-- The type of an instance. Plain values are instances of no declared type. -/
def typeId? : Value → Option TypeId
  | plain _ => none
  | root id _ => some id
  | embedding id _ _ => some id

/-- Whether a value is an instance of the type of a layout. -/
def isOf (v : Value) (t : Layout) : Bool := v.typeId? == some t.id

/-- The content of an instance of `owner`. -/
def content? (owner : TypeId) : Value → Option Content
  | plain _ => none
  | root id content => if id = owner then some content else none
  | embedding id content _ => if id = owner then some content else none

/-- The datum in a slot of an instance of `owner`. -/
def slot? (owner : TypeId) (index : Nat) (v : Value) : Option Datum :=
  (v.content? owner).bind (·.slot? index)

/-- The variant that an instance of `owner` has taken. -/
def variant? (owner : TypeId) (v : Value) : Option Nat :=
  match v.content? owner with
  | some (.variant index) => some index
  | _ => none

/-- The base that an instance of `owner` embeds. -/
def base? (owner : TypeId) : Value → Option Value
  | embedding id _ base => if id = owner then some base else none
  | _ => none

/-- The instance at the end of a path of steps from a type to its base. -/
def follow : List Link → Value → Option Value
  | [], v => some v
  | l :: path, v => (v.base? l.owner).bind (follow path)

/-- Revises the datum in a slot of an instance of `owner`. -/
def reviseSlot {α : Type} (owner : TypeId) (index : Nat) (f : Datum → Option (α × Datum)) :
    Value → Option (α × Value)
  | plain _ => none
  | root id content =>
    if id = owner then (content.revise index f).map fun (a, content) => (a, root id content)
    else none
  | embedding id content base =>
    if id = owner then
      (content.revise index f).map fun (a, content) => (a, embedding id content base)
    else none

/-- Revises the instance at the end of a path. -/
def reviseAlong {α : Type} (f : Value → Option (α × Value)) :
    List Link → Value → Option (α × Value)
  | [], v => f v
  | l :: path, embedding id content base =>
    if id = l.owner then
      (reviseAlong f path base).map fun (a, base) => (a, embedding id content base)
    else none
  | _ :: _, _ => none

end Value

/-- A value together with the layout of its type. -/
structure Instance where
  layout : Layout
  value : Value
  deriving DecidableEq

/-! ## Display -/

/-- The text that displays a value of the type of a layout: the name of a variant, or the fields
of a record in the order of their declaration, the base in its place among them. -/
def Layout.displayValue : Layout → Value → String
  | root l, v => displayLevel l v fun _ => none
  | embedding l field base, v =>
    displayLevel l v fun m =>
      if m.flags.base && m.name == field then (v.base? l.id).map (displayValue base) else none
where
  /-- Displays one level, where some members have a text of their own. -/
  displayLevel (l : Level) (v : Value) (own : Member → Option String) : String :=
    match v.variant? l.id with
    | some i => (l.members[i]?.map (·.name)).getD l.name
    | none => Text.labelled l.name (l.members.filterMap fun m =>
        let content := match m.access with
          | .slot i => (v.slot? l.id i).map (·.display)
          | _ => none
        ((own m).or content).map fun text => (m.name, text))

end RecordKeys
