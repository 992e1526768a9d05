/-
The order of names as callers see it, the null name first and the others byte by byte, and the
lists that are kept in it: adding a name keeps a list strictly increasing.
-/
import RecordKeys.Name.Order
import RecordKeys.Proofs.Text.Bytes

namespace RecordKeys.Name

/-- The null name precedes all others, and these precede one another as their bytes do. -/
def Precedes : Name → Name → Prop
  | _, none => False
  | none, some _ => True
  | some a, some b => Text.bytes a < Text.bytes b

/-- Names each of which precedes all that follow it. -/
def Increasing (names : List Name) : Prop := names.Pairwise Precedes

theorem before_iff {a b : Name} : before a b = true ↔ Precedes a b := by
  cases b with
  | none => cases a <;> simp [before, Precedes]
  | some b =>
    cases a with
    | none => simp [before, Precedes]
    | some a => exact decide_eq_true_iff.trans (Text.lt_iff_bytes_lt a b)

theorem Precedes.trans {a b c : Name} (h : Precedes a b) (h' : Precedes b c) : Precedes a c := by
  cases c with
  | none => cases b <;> exact h'
  | some c =>
    cases b with
    | none => cases a <;> cases h
    | some b =>
      cases a with
      | none => trivial
      | some a => exact List.lt_trans h h'

theorem Precedes.irrefl (a : Name) : ¬ Precedes a a := by
  cases a with
  | none => exact id
  | some a => exact List.lt_irrefl _

/-- A name that neither precedes another nor is that name comes after it. -/
theorem precedes_of_not_precedes {a b : Name} (h : ¬ Precedes a b) (hne : a ≠ b) :
    Precedes b a := by
  cases a with
  | none =>
    cases b with
    | none => exact absurd rfl hne
    | some b => exact absurd trivial h
  | some a =>
    cases b with
    | none => trivial
    | some b =>
      have hab : ¬ a < b := fun hlt => h ((Text.lt_iff_bytes_lt a b).1 hlt)
      have hne' : a ≠ b := fun e => hne (congrArg some e)
      exact (Text.lt_iff_bytes_lt b a).1 (lt_of_le_of_ne (not_lt.1 hab) (Ne.symm hne'))

/-! ## Increasing lists -/

theorem Increasing.nodup {names : List Name} (h : Increasing names) : names.Nodup :=
  List.Pairwise.imp (fun {a b} (hp : Precedes a b) (e : a = b) => Precedes.irrefl b (e ▸ hp)) h

theorem increasing_insert (n : Name) {names : List Name} (h : Increasing names) :
    Increasing (insert n names) := by
  induction names with
  | nil => exact List.pairwise_singleton _ _
  | cons m rest ih =>
    obtain ⟨hm, hrest⟩ := List.pairwise_cons.1 h
    unfold insert
    split
    · rename_i hb
      have hnm : Precedes n m := before_iff.1 hb
      refine List.pairwise_cons.2 ⟨fun k hk => ?_, h⟩
      rcases List.mem_cons.1 hk with rfl | hk
      · exact hnm
      · exact hnm.trans (hm k hk)
    · split
      · exact h
      · rename_i hb hne
        have hmn : Precedes m n := precedes_of_not_precedes (fun hp => hb (before_iff.2 hp)) hne
        refine List.pairwise_cons.2 ⟨fun k hk => ?_, ih hrest⟩
        rcases mem_insert.1 hk with rfl | hk
        · exact hmn
        · exact hm k hk

theorem increasing_insertAll (new : List Name) {names : List Name} (h : Increasing names) :
    Increasing (insertAll new names) := by
  induction new generalizing names with
  | nil => exact h
  | cons n new ih => exact ih (increasing_insert n h)

end RecordKeys.Name
