/-
Names of variants. The keys of an enumeration are its variants: the name of a variant is found
among them by the variant, and the variant by its name.
-/
import RecordKeys.Registry.Basic
import RecordKeys.View.Error

namespace RecordKeys.Registry

/-- The key map of an enumeration, with names compared as written. -/
def enumMap (r : Registry) (t : Layout) : Except ViewError KeyMap :=
  if t.isEnum then
    match (r.resolve .exact t).answer with
    | .error fault => .error (.noKeyMap fault)
    | .ok s => .ok s.map
  else .error (.notEnum t.name)

/-- The name of a variant. -/
def variantName (r : Registry) (i : Instance) : Except ViewError Name :=
  match r.enumMap i.layout with
  | .error e => .error e
  | .ok m =>
    match m.variantName? i.value with
    | some name => .ok name
    | none => .error (.unnamedVariant i.layout.name)

/-- The variant of a name, if there is one. -/
def parseVariant (r : Registry) (t : Layout) (name : Name) : Except ViewError (Option Value) :=
  match r.enumMap t with
  | .error e => .error e
  | .ok m => .ok (((m.lookup name).bind (·.variant?)).filter (·.isOf t))

end RecordKeys.Registry
