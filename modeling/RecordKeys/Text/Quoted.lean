/-
Text between quotation marks. A character that would end the quotation, attach to its neighbour or
leave no visible mark is written as an escape; all others stand for themselves.
-/
import RecordKeys.Text.Marks

namespace RecordKeys.Text

/-- The quotation marks that are escaped. -/
structure Escaping where
  double : Bool
  single : Bool

/-- A character by its code point in hexadecimal digits. -/
def codePointEscape (c : Char) : List Char :=
  ['\\', 'u', '\x7b'] ++ Nat.toDigits 16 c.toNat ++ ['\x7d']

/-- A character as it stands inside a quotation. -/
def escapeChar (e : Escaping) (c : Char) : List Char :=
  if c = '\x00' then ['\\', '0']
  else if c = '\t' then ['\\', 't']
  else if c = '\r' then ['\\', 'r']
  else if c = '\n' then ['\\', 'n']
  else if c = '\\' then ['\\', '\\']
  else if c = '"' then (if e.double then ['\\', '"'] else [c])
  else if c = '\'' then (if e.single then ['\\', '\''] else [c])
  else if isExtender c || !isVisible c then codePointEscape c
  else [c]

/-- A text in double quotation marks. -/
def quoted (s : String) : String :=
  String.ofList (['"'] ++ s.toList.flatMap (escapeChar ⟨true, false⟩) ++ ['"'])

/-- A character in single quotation marks. -/
def quotedChar (c : Char) : String :=
  String.ofList (['\''] ++ escapeChar ⟨false, true⟩ c ++ ['\''])

/-- Items between brackets, separated by commas. -/
def bracketed (items : List String) : String := "[" ++ ", ".intercalate items ++ "]"

/-- A name and its parts in braces, each part with a label; without parts, the name alone. -/
def labelled (name : String) (parts : List (String × String)) : String :=
  if parts.isEmpty then name
  else name ++ " \x7b " ++ ", ".intercalate (parts.map fun (label, text) => label ++ ": " ++ text)
    ++ " \x7d"

/-- A name and some of its parts in braces, with dots for the rest. -/
def labelledPartly (name : String) (parts : List (String × String)) : String :=
  name ++ " \x7b " ++ ", ".intercalate (parts.map fun (label, text) => label ++ ": " ++ text)
    ++ ", .. \x7d"

end RecordKeys.Text
