/-
A request that is not interrupted. What `Registry.resolve` does in one go is what a thread does in
steps of its own, so what every step of a thread preserves holds of requests that are made one after
the other.
-/
import RecordKeys.Proofs.Registry.Steps
import Mathlib.Logic.Relation

namespace RecordKeys

/-- The step of a thread that has a registry to itself. -/
def Thread.Next (p p' : Thread × Registry) : Prop := p' = p.1.step p.2

/-- The steps of a thread that has a registry to itself. -/
abbrev Thread.Alone : Thread × Registry → Thread × Registry → Prop :=
  Relation.ReflTransGen Thread.Next

/-- A thread has the same requests to make as another and the same answers, and it has returned all
that the other has. -/
def Thread.Follows (t' t : Thread) : Prop :=
  t'.todo = t.todo ∧ t'.answered = t.answered ∧ ∀ x ∈ t.returned, x ∈ t'.returned

theorem Thread.Follows.refl (t : Thread) : t.Follows t := ⟨rfl, rfl, fun _ h => h⟩

theorem Thread.Follows.note {t t' : Thread} (h : t'.Follows t) (q : Request)
    (a : Except Fault Shared) : (t'.note q a).Follows t :=
  ⟨h.1, h.2.1, fun x hx => List.mem_cons_of_mem _ (h.2.2 x hx)⟩

theorem Thread.Follows.trans {t t' t'' : Thread} (h : t''.Follows t') (h' : t'.Follows t) :
    t''.Follows t :=
  ⟨h.1.trans h'.1, h.2.1.trans h'.2.1, fun x hx => h.2.2 x (h'.2.2 x hx)⟩

namespace Registry

/-- An instance that is about to be stored is stored and answered in one step. -/
theorem alone_storing {t : Thread} {q : Request} {own : Shared} {rest : List Pending}
    (hp : t.pending = ⟨q, .storing own⟩ :: rest) (r : Registry) :
    Thread.Alone (t, r) (t.answer q (.ok (r.settle q.casing q.layout.id own).1) rest
      (r.settle q.casing q.layout.id own).2) :=
  .single (by simp only [Thread.Next, Thread.step, hp])

/-- A request whose key map has been made, or found impossible to make, is supplied: either the
answer is there already or the thread's own next step stores and gives it. -/
theorem alone_supply (t : Thread) (q : Request) (base : Option KeyMap) (rest : List Pending)
    (r : Registry) :
    ∃ t' : Thread, t'.Follows t ∧ Thread.Alone
      (match KeyMap.complete q.layout q.casing base with
        | .error fault => t.answer q (.error fault) rest r
        | .ok m => ({ t with pending := ⟨q, .storing (r.mint m).1⟩ :: rest }, (r.mint m).2))
      (t'.answer q (r.supply q.casing q.layout base).answer rest
        (r.supply q.casing q.layout base).registry) := by
  unfold supply
  cases KeyMap.complete q.layout q.casing base with
  | error fault => exact ⟨t, .refl t, .refl⟩
  | ok m =>
    exact ⟨{ t with pending := ⟨q, .storing (r.mint m).1⟩ :: rest }, ⟨rfl, rfl, fun _ h => h⟩,
      alone_storing rfl _⟩

/-- A thread that looks up a type and is not interrupted answers as `resolve` does, and leaves the
registry as `resolve` does. -/
theorem alone_resolve (casing : Casing) (l : Layout) {t : Thread} {rest : List Pending}
    {r : Registry} (hp : t.pending = ⟨⟨l, casing⟩, .looking⟩ :: rest) :
    ∃ t' : Thread, t'.Follows t ∧ Thread.Alone (t, r)
      (t'.answer ⟨l, casing⟩ (r.resolve casing l).answer rest (r.resolve casing l).registry) := by
  have hstep : t.step r = t.look ⟨l, casing⟩ rest r := by simp only [Thread.step, hp]
  -- a type that is stored or refused is answered at once, whether it has a base or not
  induction l generalizing t rest r with
  | root l =>
    unfold Thread.look at hstep
    unfold resolve
    cases hs : r.find? casing l.id with
    | some s =>
      simp only [Layout.id, Layout.level, hs] at hstep
      exact ⟨t, .refl t, .single hstep.symm⟩
    | none =>
      simp only [Layout.id, Layout.level, hs] at hstep
      cases hr : (Layout.root l).refusal? casing with
      | some fault =>
        simp only [hr] at hstep
        exact ⟨t, .refl t, .single hstep.symm⟩
      | none =>
        simp only [hr, Layout.base?] at hstep
        obtain ⟨t', ht', halone⟩ := alone_supply t ⟨.root l, casing⟩ none rest r
        exact ⟨t', ht', .head hstep.symm halone⟩
  | embedding l field base ih =>
    unfold Thread.look at hstep
    unfold resolve
    cases hs : r.find? casing l.id with
    | some s =>
      simp only [Layout.id, Layout.level, hs] at hstep
      exact ⟨t, .refl t, .single hstep.symm⟩
    | none =>
      simp only [Layout.id, Layout.level, hs] at hstep
      cases hr : (Layout.embedding l field base).refusal? casing with
      | some fault =>
        simp only [hr] at hstep
        exact ⟨t, .refl t, .single hstep.symm⟩
      | none =>
        simp only [hr, Layout.base?] at hstep
        obtain ⟨t₁, ht₁, halone⟩ := ih (t := { t with pending := ⟨⟨base, casing⟩, .looking⟩ ::
          ⟨⟨.embedding l field base, casing⟩, .waiting⟩ :: rest }) (r := r) rfl rfl
        have habove : Thread.Alone (t, r) _ := .head hstep.symm halone
        simp only
        cases ha : (r.resolve casing base).answer with
        | error fault =>
          rw [ha] at habove
          exact ⟨t₁.note ⟨base, casing⟩ (.error fault), ht₁.note .., habove⟩
        | ok s =>
          rw [ha] at habove
          obtain ⟨t₂, ht₂, hsupply⟩ := alone_supply (t₁.note ⟨base, casing⟩ (.ok s))
            ⟨.embedding l field base, casing⟩ (some s.map) rest (r.resolve casing base).registry
          exact ⟨t₂, ht₂.trans (ht₁.note ..), habove.trans hsupply⟩

end Registry

/-! ## What uninterrupted requests preserve -/

section Upholds

variable {serves : Layout → Prop} {holds : Request → Except Fault KeyMap → Prop}

theorem Thread.Alone.upholds (h : Hereditary serves holds) {p p' : Thread × Registry}
    (hp : Thread.Alone p p') (hr : p.2.Upholds serves holds) (ht : p.1.Upholds serves holds) :
    p'.2.Upholds serves holds ∧ p'.1.Upholds serves holds := by
  induction hp with
  | refl => exact ⟨hr, ht⟩
  | tail _ hnext ih =>
    rw [Thread.Next] at hnext
    rw [hnext]
    exact Thread.step_upholds h ih.1 ih.2

/-- A hereditary statement that holds of all that a registry stores holds of what it answers, and
of all that it stores afterwards. -/
theorem Registry.Upholds.resolve (h : Hereditary serves holds) {r : Registry}
    (hr : r.Upholds serves holds) {t : Layout} (ht : serves t) (casing : Casing) :
    holds ⟨t, casing⟩ (outcome (r.resolve casing t).answer) ∧
      (r.resolve casing t).registry.Upholds serves holds := by
  -- the request is made by a thread that has nothing else to do
  let begun : Thread := ⟨[], [⟨⟨t, casing⟩, .looking⟩], [], []⟩
  have hbegun : begun.Upholds serves holds := ⟨nofun, ⟨ht, trivial, trivial⟩, nofun, nofun⟩
  have hbegins : begun.pending = [⟨⟨t, casing⟩, .looking⟩] := rfl
  obtain ⟨t', -, halone⟩ := r.alone_resolve casing t hbegins
  obtain ⟨hregistry, hthread⟩ := halone.upholds h hr hbegun
  exact ⟨hthread.returned (⟨t, casing⟩, _) List.mem_cons_self, hregistry⟩

end Upholds

end RecordKeys
