/-
Lower-casing of text. Every letter is lowered by itself, with two exceptions: the dotted capital I
becomes a small i and a separate dot, and the Greek capital sigma has a form of its own at the end
of a word.
-/
import RecordKeys.Text.Letters

namespace RecordKeys.Text

/-- The lower-case form of a character that stands alone. -/
def lowerChar (c : Char) : List Char :=
  if c = 'İ' then ['i', Char.ofNat 0x0307]
  else match lowerCode c.toNat with
    | some n => [Char.ofNat n]
    | none => [c]

/-- Whether the first character that is not passed over is a letter with a case. -/
def meetsCased : List Char → Bool
  | [] => false
  | c :: rest => if isCaseIgnorable c then meetsCased rest else isCased c

/-- The lower-case form of a sigma: the final one if a letter comes before it and none after it.
The characters before it are given from right to left. -/
def lowerSigma (before after : List Char) : Char :=
  if meetsCased before && !meetsCased after then 'ς' else 'σ'

/-- Lowers the rest of a text, of which `before` has been read, in reverse. -/
def lowerFrom (before : List Char) : List Char → List Char
  | [] => []
  | c :: rest =>
    (if c = 'Σ' then [lowerSigma before rest] else lowerChar c) ++ lowerFrom (c :: before) rest

/-- A text in small letters. -/
def lowercase (s : String) : String := String.ofList (lowerFrom [] s.toList)

/-- Whether a text holds a capital letter. -/
def hasCapital (s : String) : Bool := s.toList.any isCapital

end RecordKeys.Text
