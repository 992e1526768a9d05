/-
Sets of code points as tables of intervals, and runs of which only every second code point counts:
in many alphabets capitals and small letters alternate.
-/
namespace RecordKeys.Text

/-- Whether a code point lies in one of the intervals, both ends included. -/
def within (blocks : List (Nat × Nat)) (n : Nat) : Bool :=
  blocks.any fun (first, last) => Nat.ble first n && Nat.ble n last

/-- The code points from `first` to `last` at distances of `step`. -/
structure Run where
  first : Nat
  last : Nat
  step : Nat

/-- Whether a code point belongs to a run. -/
def Run.covers (r : Run) (n : Nat) : Bool :=
  Nat.ble r.first n && Nat.ble n r.last && (n - r.first) % r.step == 0

end RecordKeys.Text
