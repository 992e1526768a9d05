/-
Building the key map of a type. A type that cannot have a key map for its form, or for the form of
its base, is refused before anything else is looked at. Otherwise the key map of the base is asked
for, its keys are inherited, and the type's own keys are added one by one, none of which may have
the name of a key that is already there.
-/
import RecordKeys.KeyMap.Event
import RecordKeys.KeyMap.Fault

namespace RecordKeys

/-- Why a type has no key map whatever its members are. -/
def Layout.refusal? (casing : Casing) (t : Layout) : Option Fault :=
  if casing.ignoresCase && t.isEnum then some (.foldedEnum t.name)
  else match t with
    | .root _ => none
    | .embedding l field base =>
      if base.isEnum then some (.enumBase l.name field base.name) else none

/-- The layout whose key map is asked for when that of a type is built. -/
def Layout.request? (casing : Casing) (t : Layout) : Option Layout :=
  if (t.refusal? casing).isSome then none else t.base?

namespace KeyMap

/-- Adds the members that are keys to the keys that are there already. -/
def enrol (t : Layout) (casing : Casing) : List Member → Index → Except Fault Index
  | [], x => .ok x
  | m :: rest, x =>
    match Entry.ofMember? t m with
    | none => enrol t casing rest x
    | some own =>
      let key := casing.key own.name
      match x.filed.get? key with
      | some earlier =>
        .error (.sameName t.name key ⟨earlier.declaring.name, earlier.member.name⟩
          ⟨t.name, m.name⟩ casing)
      | none => enrol t casing rest (x.add key own)

/-- The keys of a base as they are seen through a step to it. -/
def seed (link : Link) (base : KeyMap) : Index :=
  ⟨base.filed.foldl (fun filed (key, e) => filed.put key (e.inherit link)) [],
    Name.insertAll base.names []⟩

/-- The keys that a type inherits, given the key map that answers for its base. -/
def inherited (t : Layout) (base : Option KeyMap) : Index :=
  match t.link?, base with
  | some link, some base => seed link base
  | _, _ => .empty

/-- Builds a key map once the one of the base is at hand. -/
def complete (t : Layout) (casing : Casing) (base : Option KeyMap) : Except Fault KeyMap :=
  (enrol t casing t.members (inherited t base)).map fun x => { x with layout := t, casing }

/-- Builds a key map; the key map of the base is asked of `answer`, in the same casing. -/
def buildVia (answer : Layout → Casing → Except Fault KeyMap) (t : Layout) (casing : Casing) :
    Except Fault KeyMap :=
  match t.refusal? casing with
  | some fault => .error fault
  | none =>
    match t with
    | .root _ => complete t casing none
    | .embedding _ _ base =>
      match answer base casing with
      | .error fault => .error fault
      | .ok base => complete t casing (some base)

/-- Builds the key map of a type and those of its bases, each from its own declaration. -/
def build (casing : Casing) : Layout → Except Fault KeyMap
  | .root l =>
    match (Layout.root l).refusal? casing with
    | some fault => .error fault
    | none => complete (.root l) casing none
  | .embedding l field base =>
    match (Layout.embedding l field base).refusal? casing with
    | some fault => .error fault
    | none =>
      match build casing base with
      | .error fault => .error fault
      | .ok m => complete (.embedding l field base) casing (some m)

/-- A build asks for the key map of the base and takes it from another build. -/
theorem build_eq_buildVia (casing : Casing) (t : Layout) :
    build casing t = buildVia (fun t casing => build casing t) t casing := by
  cases t <;> rfl

/-! ## Events -/

/-- What happens from the moment that the key map of the base is at hand. -/
def completeEvents (t : Layout) (casing : Casing) (base : Option KeyMap) : List Event :=
  (match base with
    | some base => [Event.seeding t.name base.size base.layout.name]
    | none => [])
  ++ (match complete t casing base with
    | .ok m => [Event.built t.name casing m.size]
    | .error _ => [])

/-- What happens in `build`. -/
def buildEvents (casing : Casing) : Layout → List Event
  | .root l =>
    if ((Layout.root l).refusal? casing).isSome then [] else completeEvents (.root l) casing none
  | .embedding l field base =>
    if ((Layout.embedding l field base).refusal? casing).isSome then []
    else buildEvents casing base ++
      (match build casing base with
        | .ok m => completeEvents (.embedding l field base) casing (some m)
        | .error _ => [])

end KeyMap

end RecordKeys
