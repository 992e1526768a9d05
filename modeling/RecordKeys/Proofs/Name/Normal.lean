/-
Normal forms of names. The normal form of a normal form is itself. Without regard to case, the
normal form is the name in small letters, except for the names that are overlooked: those that hold
letters in title case, and no capital that would have them lowered. They stand for themselves.
-/
import RecordKeys.Name.Casing
import RecordKeys.Proofs.Text.Lowercase

namespace RecordKeys

namespace Text

/-- A text without capitals that holds a letter in title case. -/
def Overlooked (s : String) : Prop := hasCapital s = false ∧ hasTitle s

instance (s : String) : Decidable (Overlooked s) := inferInstanceAs (Decidable (_ ∧ _))

/-- Two texts that folding takes for one another: the same text, or two that are lowered to the same
text and are not overlooked. -/
def Alike (a b : String) : Prop :=
  a = b ∨ lowercase a = lowercase b ∧ ¬ Overlooked a ∧ ¬ Overlooked b

/-- The texts that are overlooked are those without capitals that lowering changes. -/
theorem overlooked_iff {s : String} : Overlooked s ↔ hasCapital s = false ∧ lowercase s ≠ s := by
  refine and_congr_right fun h => ?_
  rw [Ne, lowercase_eq_self_of_no_capital h, Bool.not_eq_false]

theorem Overlooked.lowercase_ne {s : String} (h : Overlooked s) : lowercase s ≠ s :=
  (overlooked_iff.1 h).2

end Text

namespace Casing

open Text (lowercase hasCapital Overlooked Alike)

theorem normal_folded (name : String) :
    folded.normal name = if hasCapital name then lowercase name else name := by
  cases h : hasCapital name <;> simp [normal, keeps, h]

theorem normal_of_overlooked {name : String} (h : Overlooked name) : folded.normal name = name := by
  rw [normal_folded, h.1, if_neg Bool.false_ne_true]

theorem normal_of_not_overlooked {name : String} (h : ¬ Overlooked name) :
    folded.normal name = lowercase name := by
  rw [normal_folded]
  split
  · rfl
  · rename_i hcapital
    rw [Bool.not_eq_true] at hcapital
    -- without capitals, a name that is not overlooked is small already
    by_contra hne
    exact h (Text.overlooked_iff.2 ⟨hcapital, fun he => hne he.symm⟩)

/-- Folding is lowering, except for the names that are overlooked. -/
theorem normal_eq_lowercase_iff {name : String} :
    folded.normal name = lowercase name ↔ ¬ Overlooked name := by
  refine ⟨fun h hover => ?_, normal_of_not_overlooked⟩
  rw [normal_of_overlooked hover] at h
  exact hover.lowercase_ne h.symm

/-- Folding takes nothing away that lowering would tell apart. -/
theorem lowercase_normal (name : String) : lowercase (folded.normal name) = lowercase name := by
  by_cases h : Overlooked name
  · rw [normal_of_overlooked h]
  · rw [normal_of_not_overlooked h, Text.lowercase_lowercase]

/-- The normal form of a normal form is itself, also of one that holds capitals that have no small
letter and is lowered for a second time. -/
theorem normal_normal (c : Casing) (name : String) : c.normal (c.normal name) = c.normal name := by
  cases c with
  | exact => rfl
  | folded =>
    by_cases h : Overlooked name
    · rw [normal_of_overlooked h, normal_of_overlooked h]
    · rw [normal_of_not_overlooked h, normal_folded, Text.lowercase_lowercase, ite_self]

theorem key_key (c : Casing) (n : Name) : c.key (c.key n) = c.key n := by
  cases n with
  | none => rfl
  | some name => rw [key_some, key_some, normal_normal]

/-- A name that is overlooked is the normal form of no other name. -/
theorem eq_of_normal_eq {a b : String} (h : folded.normal a = folded.normal b) (ha : Overlooked a) :
    a = b := by
  have hlower : lowercase a = lowercase b := by rw [← lowercase_normal a, h, lowercase_normal]
  by_cases hb : Overlooked b
  · rwa [normal_of_overlooked ha, normal_of_overlooked hb] at h
  · -- the normal form of `b` is small, and `a` is not
    rw [normal_of_overlooked ha, normal_of_not_overlooked hb, ← hlower] at h
    exact absurd h.symm ha.lowercase_ne

theorem normal_eq_normal_iff {a b : String} : folded.normal a = folded.normal b ↔ Alike a b := by
  constructor
  · intro h
    by_cases ha : Overlooked a
    · exact .inl (eq_of_normal_eq h ha)
    · by_cases hb : Overlooked b
      · exact .inl (eq_of_normal_eq h.symm hb).symm
      · rw [normal_of_not_overlooked ha, normal_of_not_overlooked hb] at h
        exact .inr ⟨h, ha, hb⟩
  · rintro (rfl | ⟨h, ha, hb⟩)
    · rfl
    · rw [normal_of_not_overlooked ha, normal_of_not_overlooked hb, h]

/-- Two names, of which either may be the null name, have one normal form if both are null or folding
takes them for one another. -/
theorem key_folded_eq_iff {m n : Name} : folded.key m = folded.key n ↔ Option.Rel Alike m n := by
  cases m with
  | none =>
    cases n with
    | none => exact ⟨fun _ => .none, fun _ => rfl⟩
    | some b => exact ⟨nofun, nofun⟩
  | some a =>
    cases n with
    | none => exact ⟨nofun, nofun⟩
    | some b =>
      rw [key_some, key_some, Option.some.injEq, normal_eq_normal_iff]
      exact ⟨.some, fun | .some h => h⟩

end Casing

end RecordKeys
