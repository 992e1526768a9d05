/-
The plain values that a record holds. Each has a kind, its exact type: a slot of one kind takes a
value of that kind and of no other, and no value is converted on its way in or out.
-/
import RecordKeys.Text.Quoted

namespace RecordKeys

/-- The exact type of a plain value. Types that records may hold but that are not looked into are
known by their name. -/
inductive Kind
  | bool
  | u8
  | i32
  | u32
  | i64
  | u64
  | char
  | str
  | string
  | optString
  | bytes
  | foreign (name : String)
  deriving DecidableEq, Repr

/-- A plain value. A value of a foreign type is known by the text that displays it. -/
inductive Datum
  | bool (b : Bool)
  | u8 (n : UInt8)
  | i32 (n : Int32)
  | u32 (n : UInt32)
  | i64 (n : Int64)
  | u64 (n : UInt64)
  | char (c : Char)
  | str (s : String)
  | string (s : String)
  | optString (s : Option String)
  | bytes (b : List UInt8)
  | foreign (type text : String)
  deriving DecidableEq

namespace Kind

/-- The name of a type. -/
def name : Kind → String
  | bool => "bool"
  | u8 => "u8"
  | i32 => "i32"
  | u32 => "u32"
  | i64 => "i64"
  | u64 => "u64"
  | char => "char"
  | str => "&str"
  | string => "alloc::string::String"
  | optString => "core::option::Option<alloc::string::String>"
  | bytes => "alloc::vec::Vec<u8>"
  | foreign name => name

/-- The value that a slot of a kind starts with. -/
def initial : Kind → Datum
  | bool => .bool false
  | u8 => .u8 0
  | i32 => .i32 0
  | u32 => .u32 0
  | i64 => .i64 0
  | u64 => .u64 0
  | char => .char '\x00'
  | str => .str ""
  | string => .string ""
  | optString => .optString none
  | bytes => .bytes []
  | foreign name => .foreign name ""

end Kind

namespace Datum

/-- The exact type of a value. -/
def kind : Datum → Kind
  | bool _ => .bool
  | u8 _ => .u8
  | i32 _ => .i32
  | u32 _ => .u32
  | i64 _ => .i64
  | u64 _ => .u64
  | char _ => .char
  | str _ => .str
  | string _ => .string
  | optString _ => .optString
  | bytes _ => .bytes
  | foreign type _ => .foreign type

/-- The text that displays a value. -/
def display : Datum → String
  | bool b => if b then "true" else "false"
  | u8 n => toString n.toNat
  | i32 n => toString n.toInt
  | u32 n => toString n.toNat
  | i64 n => toString n.toInt
  | u64 n => toString n.toNat
  | char c => Text.quotedChar c
  | str s => Text.quoted s
  | string s => Text.quoted s
  | optString none => "None"
  | optString (some s) => "Some(" ++ Text.quoted s ++ ")"
  | bytes b => Text.bracketed (b.map fun n => toString n.toNat)
  | foreign _ text => text

/-! ## Exchange -/

/-- What is left of an exchange: whether it took place, the value handed out, and the slot. -/
structure Exchange where
  replaced : Bool
  returned : Datum
  slot : Datum

/-- Offers a value to a slot. A value of the slot's kind takes the place of the old one, which is
handed out; any other value is handed back and the slot keeps its content. -/
def exchange (slot offered : Datum) : Exchange :=
  if offered.kind = slot.kind then ⟨true, slot, offered⟩ else ⟨false, offered, slot⟩

theorem kind_initial (k : Kind) : k.initial.kind = k := by cases k <;> rfl

/-- An exchange never changes the kind of the slot. -/
theorem exchange_kind (slot offered : Datum) : (slot.exchange offered).slot.kind = slot.kind := by
  unfold exchange
  split
  · assumption
  · rfl

end Datum

end RecordKeys
