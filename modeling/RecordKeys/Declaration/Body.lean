/-
Splitting the body of a declaration into its members. Members are separated by commas, but a comma
between angle brackets belongs to a type. Of an arrow, the second half is no bracket.
-/
import RecordKeys.Token.Tree

namespace RecordKeys

/-- What is known after a part of a body: the number of open angle brackets, and whether the part
ends in the first half of an arrow. -/
structure Scan where
  depth : Nat
  arrow : Bool
  deriving DecidableEq, Repr

namespace Scan

def start : Scan := ⟨0, false⟩

/-- What is known after one more tree, which is not a comma between members. -/
def after (s : Scan) : Tree → Scan
  | .punct '<' _ => ⟨s.depth + 1, false⟩
  | .punct '>' _ => ⟨if s.arrow then s.depth else s.depth - 1, false⟩
  | .punct '-' joint => ⟨s.depth, joint⟩
  | _ => ⟨s.depth, false⟩

/-- Whether the next tree is a comma between members. -/
def separates (s : Scan) (t : Tree) : Bool := s.depth == 0 && t.isPunct ','

end Scan

namespace Body

/-- The parts between the commas, empty ones included. -/
def parts (s : Scan) : List Tree → List (List Tree)
  | [] => [[]]
  | t :: rest =>
    if s.separates t then [] :: parts .start rest
    else match parts (s.after t) rest with
      | part :: more => (t :: part) :: more
      | [] => [[t]]

/-- The members of a body. -/
def members (body : List Tree) : List (List Tree) := (parts .start body).filter (!·.isEmpty)

end Body

/-- Whether a type is taken for a marker, which carries no data: one of the names before the first
angle bracket is `PhantomData`. -/
def isMarkerType (type : List Tree) : Bool :=
  (type.takeWhile (!·.isPunct '<')).any (·.isIdent "PhantomData")

end RecordKeys
