/-
What is stored in a registry stays there: no operation replaces an instance or takes one away, and
storing hands out the instance that is stored afterwards.
-/
import RecordKeys.Registry.Basic

namespace RecordKeys.Registry

/-- One registry holds all that another holds, under the same types. -/
def Extends (r r' : Registry) : Prop :=
  ∀ casing id s, r.find? casing id = some s → r'.find? casing id = some s

theorem Extends.refl (r : Registry) : r.Extends r := fun _ _ _ h => h

theorem Extends.trans {r₁ r₂ r₃ : Registry} (h : r₁.Extends r₂) (h' : r₂.Extends r₃) :
    r₁.Extends r₃ :=
  fun casing id s hs => h' casing id s (h casing id s hs)

@[simp] theorem find?_empty (casing : Casing) (id : TypeId) : empty.find? casing id = none := by
  cases casing <;> rfl

@[simp] theorem find?_mint (r : Registry) (m : KeyMap) (casing : Casing) (id : TypeId) :
    (r.mint m).2.find? casing id = r.find? casing id := by
  cases casing <;> rfl

theorem find?_add_self (r : Registry) (casing : Casing) (id : TypeId) (s : Shared) :
    (r.add casing id s).find? casing id = some s := by
  cases casing <;> exact Rows.get?_put_self id s _

theorem find?_add_of_ne {r : Registry} {casing other : Casing} {id otherId : TypeId}
    (h : ¬ (other = casing ∧ otherId = id)) (s : Shared) :
    (r.add casing id s).find? other otherId = r.find? other otherId := by
  cases casing <;> cases other <;> first
    | rfl
    | exact Rows.get?_put_of_ne (fun e => h ⟨rfl, e⟩) s _

/-! ## Storing -/

/-- Storing either finds an instance and leaves the registry alone, or adds the one that is
offered. -/
theorem settle_cases (r : Registry) (casing : Casing) (id : TypeId) (s : Shared) :
    (∃ earlier, r.find? casing id = some earlier ∧ r.settle casing id s = (earlier, r)) ∨
      (r.find? casing id = none ∧ r.settle casing id s = (s, r.add casing id s)) := by
  unfold settle
  cases h : r.find? casing id with
  | none => exact .inr ⟨rfl, rfl⟩
  | some earlier => exact .inl ⟨earlier, rfl, rfl⟩

theorem extends_settle (r : Registry) (casing : Casing) (id : TypeId) (s : Shared) :
    r.Extends (r.settle casing id s).2 := by
  rcases r.settle_cases casing id s with ⟨earlier, -, h⟩ | ⟨hnone, h⟩
  · rw [h]; exact Extends.refl r
  · rw [h]
    intro other otherId u hu
    rw [find?_add_of_ne]
    · exact hu
    · rintro ⟨rfl, rfl⟩
      rw [hnone] at hu; cases hu

theorem find?_settle (r : Registry) (casing : Casing) (id : TypeId) (s : Shared) :
    (r.settle casing id s).2.find? casing id = some (r.settle casing id s).1 := by
  rcases r.settle_cases casing id s with ⟨earlier, hsome, h⟩ | ⟨-, h⟩
  · rw [h]; exact hsome
  · rw [h]; exact find?_add_self r casing id s

/-- After storing, an instance that is found was there before or is the one that was offered. -/
theorem find?_settle_cases {r : Registry} {casing other : Casing} {id otherId : TypeId}
    {s u : Shared} (h : (r.settle casing id s).2.find? other otherId = some u) :
    r.find? other otherId = some u ∨ (other = casing ∧ otherId = id ∧ u = s) := by
  rcases r.settle_cases casing id s with ⟨earlier, -, he⟩ | ⟨-, he⟩
  · rw [he] at h; exact .inl h
  · rw [he] at h
    by_cases hk : other = casing ∧ otherId = id
    · obtain ⟨rfl, rfl⟩ := hk
      rw [find?_add_self] at h
      cases h; exact .inr ⟨rfl, rfl, rfl⟩
    · rw [find?_add_of_ne hk] at h
      exact .inl h

end RecordKeys.Registry
