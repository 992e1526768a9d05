/-
Why a type has no key map. These are mistakes in the declaration of the type: the same type fails
in the same way every time.
-/
import RecordKeys.Layout.Basic

namespace RecordKeys

/-- A declared member, by the names of its type and its own. -/
structure Site where
  type : String
  member : String
  deriving DecidableEq, Repr

/-- The site as it is written in messages. -/
def Site.text (s : Site) : String := s.type ++ "::" ++ s.member

/-- The reasons for a type to have no key map. -/
inductive Fault
  /-- Two keys of a type, or of a type and its bases, have one name. -/
  | sameName (type : String) (name : Name) (first second : Site) (casing : Casing)
  /-- Names of variants are always compared as written. -/
  | foldedEnum (type : String)
  /-- An enumeration has no fields to inherit. -/
  | enumBase (type field base : String)
  deriving DecidableEq, Repr

/-- The message of a fault. -/
def Fault.message : Fault → String
  | sameName type name first second casing =>
    type ++ ": two fields have the same " ++ (if casing.ignoresCase then "case-insensitive " else "")
      ++ "name " ++ (match name with | some n => "`" ++ n ++ "`" | none => "<null>")
      ++ ": " ++ first.text ++ " and " ++ second.text
  | foldedEnum type => "cannot ignore case on an enum: " ++ type
  | enumBase type field base =>
    type ++ "::" ++ field ++ " cannot be the parent: " ++ base ++ " is an enum"

end RecordKeys
