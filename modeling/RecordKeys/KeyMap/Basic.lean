/-
Key maps. The key map of a type holds all its keys, those of its bases included, under the normal
forms of their names. It is listed in the order of the names and looked up by a name of any
spelling that has the same normal form.
-/
import RecordKeys.KeyMap.Entry
import RecordKeys.Name.Order
import RecordKeys.Rows

namespace RecordKeys

/-- Keys that have been gathered: each is filed under the normal form of its name, and the normal
forms are listed in their order. -/
structure Index where
  filed : Rows Name Entry
  names : List Name
  deriving DecidableEq

namespace Index

/-- An index without keys. -/
def empty : Index := ⟨[], []⟩

/-- Adds a key under a normal form. -/
def add (x : Index) (key : Name) (e : Entry) : Index :=
  ⟨x.filed.put key e, Name.insert key x.names⟩

end Index

/-- The keys of a type, those of its bases included. -/
structure KeyMap extends Index where
  layout : Layout
  casing : Casing
  deriving DecidableEq

namespace KeyMap

/-- The key filed under a normal form. -/
def find? (m : KeyMap) (key : Name) : Option Entry := m.filed.get? key

/-- The key of a name in any spelling. -/
def lookup (m : KeyMap) (name : Name) : Option Entry := m.find? (m.casing.key name)

/-- The key of a name that is not the null name. -/
def field? (m : KeyMap) (name : String) : Option Entry := m.lookup (some name)

/-- The names other than the null name, in their order. -/
def keys (m : KeyMap) : List String := m.names.filterMap id

/-- The keys in the order of their names. -/
def fields (m : KeyMap) : List Entry := m.names.filterMap m.find?

/-- The number of names. -/
def size (m : KeyMap) : Nat := m.names.length

/-- Whether there are no names. -/
def isEmpty (m : KeyMap) : Bool := m.names.isEmpty

/-- The declared member behind a name. -/
def declared? (m : KeyMap) (name : String) : Option Member := (m.field? name).map (·.member)

/-- The name of the variant that a value is. The outer `none` says that the value is no variant of
this type with a key. -/
def variantName? (m : KeyMap) (v : Value) : Option Name :=
  if v.isOf m.layout then (m.filed.find? (·.2.isVariant v)).map (·.2.name) else none

end KeyMap

end RecordKeys
