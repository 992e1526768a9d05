/-
The instance at the end of a path of steps to bases, as a part that can be taken out and put back.
To follow two paths one after the other is to follow the path made of both, and to revise something
at the end of the second is to revise the part at the end of the first and to put it back. What is
put back takes the place of the part alone: the levels before it keep their contents.
-/
import RecordKeys.Proofs.Value.Cells

namespace RecordKeys.Value

/-- Puts an instance in the place of the one at the end of a path, if the path leads to one. -/
def graft : List Link → Value → Value → Value
  | [], _, part => part
  | l :: path, embedding id content base, part =>
    if id = l.owner then embedding id content (graft path base part)
    else embedding id content base
  | _ :: _, v, _ => v

/-! ## Following -/

@[simp] theorem follow_nil (v : Value) : v.follow [] = some v := rfl

theorem follow_cons (l : Link) (path : List Link) (v : Value) :
    v.follow (l :: path) = (v.base? l.owner).bind (follow path) := rfl

theorem follow_append (path rest : List Link) (v : Value) :
    v.follow (path ++ rest) = (v.follow path).bind (follow rest) := by
  induction path generalizing v with
  | nil => rfl
  | cons l path ih =>
    rw [List.cons_append, follow_cons, follow_cons]
    cases v.base? l.owner with
    | none => rfl
    | some base => exact ih base

/-- A path that leads somewhere begins at an instance of the type that its first step names, with a
base from which the rest of the path leads on. -/
theorem follow_cons_eq_some {l : Link} {path : List Link} {v part : Value}
    (h : v.follow (l :: path) = some part) :
    ∃ content base, v = embedding l.owner content base ∧ base.follow path = some part := by
  rw [follow_cons] at h
  cases v with
  | plain d => cases h
  | root id content => cases h
  | embedding id content base =>
    by_cases hid : id = l.owner
    · subst hid
      exact ⟨content, base, rfl, by simpa [base?] using h⟩
    · simp [base?, hid] at h

/-- A path that leads nowhere has a first step that is not taken. -/
theorem exists_base?_eq_none {path : List Link} {v : Value} (h : v.follow path = none) :
    ∃ before l rest part,
      path = before ++ l :: rest ∧ v.follow before = some part ∧ part.base? l.owner = none := by
  induction path generalizing v with
  | nil => cases h
  | cons l path ih =>
    cases hb : v.base? l.owner with
    | none => exact ⟨[], l, path, v, rfl, rfl, hb⟩
    | some base =>
      rw [follow_cons, hb, Option.bind_some] at h
      obtain ⟨before, l', rest, part, rfl, hpart, hnone⟩ := ih h
      refine ⟨l :: before, l', rest, part, rfl, ?_, hnone⟩
      rw [follow_cons, hb, Option.bind_some, hpart]

/-! ## Putting back -/

@[simp] theorem graft_nil (v part : Value) : v.graft [] part = part := by
  cases v <;> rfl

theorem graft_cons (l : Link) (path : List Link) (content : Content) (base part : Value) :
    (embedding l.owner content base).graft (l :: path) part =
      embedding l.owner content (base.graft path part) := by
  simp [graft]

theorem follow_graft {path : List Link} {v part : Value} (h : v.follow path = some part)
    (new : Value) : (v.graft path new).follow path = some new := by
  induction path generalizing v with
  | nil => simp
  | cons l path ih =>
    obtain ⟨content, base, rfl, hbase⟩ := follow_cons_eq_some h
    rw [graft_cons, follow_cons]
    simpa [base?] using ih hbase

/-- The part that was taken out, put back, gives the old instance. -/
theorem graft_follow {path : List Link} {v part : Value} (h : v.follow path = some part) :
    v.graft path part = v := by
  induction path generalizing v with
  | nil => rw [follow_nil, Option.some.injEq] at h; rw [graft_nil, h]
  | cons l path ih =>
    obtain ⟨content, base, rfl, hbase⟩ := follow_cons_eq_some h
    rw [graft_cons, ih hbase]

/-- The levels before the part keep their contents. -/
theorem cell?_graft {path : List Link} {v part : Value} (h : v.follow path = some part)
    (new : Value) {n : Nat} (hn : n < path.length) (i : Nat) :
    (v.graft path new).cell? n i = v.cell? n i := by
  induction path generalizing v n with
  | nil => exact absurd hn (Nat.not_lt_zero n)
  | cons l path ih =>
    obtain ⟨content, base, rfl, hbase⟩ := follow_cons_eq_some h
    rw [graft_cons]
    cases n with
    | zero => rfl
    | succ n => exact ih hbase (Nat.lt_of_succ_lt_succ hn)

/-- To revise what is at the end of two paths is to revise the part at the end of the first one. -/
theorem reviseAlong_append {α : Type} (f : Value → Option (α × Value)) (path rest : List Link)
    (v : Value) :
    v.reviseAlong f (path ++ rest) =
      (v.follow path).bind fun part =>
        (part.reviseAlong f rest).map fun (a, new) => (a, v.graft path new) := by
  induction path generalizing v with
  | nil => simp
  | cons l path ih =>
    cases v with
    | plain d => rfl
    | root id content => rfl
    | embedding id content base =>
      by_cases hid : id = l.owner
      · subst hid
        simp only [List.cons_append, reviseAlong, follow_cons, base?, if_true, Option.bind_some,
          ih, Option.map_bind, Function.comp_def, Option.map_map, graft_cons]
      · simp [reviseAlong, follow_cons, base?, hid]

end RecordKeys.Value
