/-
All who ask for a type in one casing get one instance. For any number of threads, any requests and
any order of their steps: what is stored is never replaced or removed, and a request that returns
an instance, be it a thread's own or one made for a base, returns the one that is stored from then
on. Nothing is assumed of the types; several may share an identity, even a type and its own base.

Instances are told apart by their stamps, so the last part shows that no stamp is given twice: an
instance that a thread is about to store has a stamp of its own, and it keeps it when it is stored.
-/
import RecordKeys.Proofs.Registry.Steps

namespace RecordKeys

/-! ## Coming to an answer -/

/-- Coming to an answer keeps what is stored, and an instance that is answered is the one that is
stored. -/
theorem Answers.settled {r r' : Registry} {q : Request} {stage : Stage}
    {a : Except Fault Shared} (ha : Answers r q stage a r') :
    r.Extends r' ∧ ∀ s, a = .ok s → r'.find? q.casing q.layout.id = some s := by
  cases ha with
  | hit found => exact ⟨Registry.Extends.refl r, fun s h => by cases h; exact found⟩
  | refused => exact ⟨Registry.Extends.refl r, nofun⟩
  | failed => exact ⟨Registry.Extends.refl r, nofun⟩
  | @stored own =>
    exact ⟨r.extends_settle q.casing q.layout.id own,
      fun s h => by cases h; exact Registry.find?_settle ..⟩

theorem Answers.next {r r' : Registry} {q : Request} {stage : Stage} {a : Except Fault Shared}
    (ha : Answers r q stage a r') : r'.next = r.next := by
  cases ha with
  | hit => rfl
  | refused => rfl
  | failed => rfl
  | @stored own =>
    rcases r.settle_cases q.casing q.layout.id own with ⟨_, -, h⟩ | ⟨-, h⟩ <;> rw [h]
    cases q.casing <;> rfl

/-- A thread is about to store an instance. -/
def Thread.Storing (t : Thread) (s : Shared) : Prop :=
  ∃ q rest, t.pending = ⟨q, .storing s⟩ :: rest

namespace Thread

/-! ## What an answer adds -/

theorem find?_answer (t : Thread) (q : Request) (a : Except Fault Shared) (rest : List Pending)
    (r : Registry) (casing : Casing) (id : TypeId) :
    (t.answer q a rest r).2.find? casing id = r.find? casing id := by
  induction rest generalizing t q a with
  | nil => rfl
  | cons p rest ih =>
    rcases t.answer_cons q a p rest r with ⟨fault, -, he⟩ | ⟨s, m, -, -, he⟩ <;> rw [he]
    · exact ih _ _ _
    · exact Registry.find?_mint r m casing id

/-- Besides the request that is answered, only requests that fail return with it. -/
theorem mem_returned_answer {t : Thread} {q : Request} {a : Except Fault Shared}
    {rest : List Pending} {r : Registry} {x : Request × Except Fault Shared}
    (hx : x ∈ (t.answer q a rest r).1.returned) :
    x ∈ t.returned ∨ x = (q, a) ∨ ∃ p fault, x = (p, .error fault) := by
  have hnote {t : Thread} {q a} (hx : x ∈ (t.note q a).returned) :
      x ∈ t.returned ∨ x = (q, a) ∨ ∃ p fault, x = (p, .error fault) :=
    (List.mem_cons.1 hx).elim (fun h => .inr (.inl h)) .inl
  induction rest generalizing t q a with
  | nil => exact hnote hx
  | cons p rest ih =>
    rcases t.answer_cons q a p rest r with ⟨fault, -, he⟩ | ⟨s, m, -, -, he⟩ <;> rw [he] at hx
    · rcases ih hx with hx | rfl | hx
      · exact hnote hx
      · exact .inr (.inr ⟨_, _, rfl⟩)
      · exact .inr (.inr hx)
    · exact hnote hx

/-- After an answer the thread has nothing to store, or an instance with the next stamp. -/
theorem answer_storing (t : Thread) (q : Request) (a : Except Fault Shared) (rest : List Pending)
    (r : Registry) :
    ((t.answer q a rest r).2.next = r.next ∧ ∀ s, ¬ (t.answer q a rest r).1.Storing s) ∨
      ∃ m, (t.answer q a rest r).2.next = r.next + 1 ∧
        ∀ s, (t.answer q a rest r).1.Storing s → s = ⟨r.next, m⟩ := by
  induction rest generalizing t q a with
  | nil => exact .inl ⟨rfl, fun s ⟨_, _, h⟩ => by cases h⟩
  | cons p rest ih =>
    rcases t.answer_cons q a p rest r with ⟨fault, -, he⟩ | ⟨s, m, -, -, he⟩ <;> rw [he]
    · exact ih _ _ _
    · exact .inr ⟨m, rfl, fun s ⟨_, _, h⟩ => by cases h; rfl⟩

/-! ## What a step adds -/

/-- The answers with an instance name the one that is stored. -/
def Settled (r : Registry) (t : Thread) : Prop :=
  ∀ q s, (q, .ok s) ∈ t.returned → r.find? q.casing q.layout.id = some s

theorem Settled.mono {r r' : Registry} (h : r.Extends r') {t : Thread} (ht : t.Settled r) :
    t.Settled r' :=
  fun q s hs => h _ _ _ (ht q s hs)

theorem extends_step (t : Thread) (r : Registry) : r.Extends (t.step r).2 := by
  have hmove := t.step_move r
  generalize t.step r = after at hmove ⊢
  cases hmove with
  | idle => exact Registry.Extends.refl r
  | begin => exact Registry.Extends.refl r
  | descend => exact Registry.Extends.refl r
  | build => intro casing id s hs; rw [Registry.find?_mint]; exact hs
  | answer hp ha => intro casing id s hs; rw [find?_answer]; exact ha.settled.1 _ _ _ hs

/-- The answers of a step name what is stored. -/
theorem step_settled {t : Thread} {r : Registry} (ht : t.Settled r) :
    (t.step r).1.Settled (t.step r).2 := by
  have hext := t.extends_step r
  have hmove := t.step_move r
  generalize t.step r = after at hmove hext ⊢
  cases hmove with
  | idle => exact ht
  | begin => exact ht
  | descend => exact ht
  | build => exact ht.mono hext
  | answer hp ha =>
    intro q' s hs
    -- what returns with the request that is answered has failed, and names no instance
    rcases mem_returned_answer hs with hs | hs | ⟨p, fault, hs⟩
    · exact hext _ _ _ (ht q' s hs)
    · cases hs; rw [find?_answer]; exact ha.settled.2 s rfl
    · cases hs

end Thread

/-! ## Runs -/

namespace Machine

theorem step_settled {m : Machine} (i : Nat) (hm : ∀ t ∈ m.threads, t.Settled m.registry) :
    m.registry.Extends (m.step i).registry ∧
      ∀ t ∈ (m.step i).threads, t.Settled (m.step i).registry := by
  unfold step
  cases hi : m.threads[i]? with
  | none => exact ⟨Registry.Extends.refl _, hm⟩
  | some u =>
    have hext := u.extends_step m.registry
    refine ⟨hext, fun t ht => ?_⟩
    rcases List.mem_or_eq_of_mem_set ht with ht | rfl
    · exact (hm t ht).mono hext
    · exact Thread.step_settled (hm u (List.mem_of_getElem? hi))

theorem run_settled {m : Machine} (hm : ∀ t ∈ m.threads, t.Settled m.registry)
    (schedule : List Nat) :
    m.registry.Extends (m.run schedule).registry ∧
      ∀ t ∈ (m.run schedule).threads, t.Settled (m.run schedule).registry := by
  induction schedule generalizing m with
  | nil => exact ⟨Registry.Extends.refl _, hm⟩
  | cons i rest ih =>
    obtain ⟨hext, hi⟩ := step_settled i hm
    obtain ⟨hext', hrest⟩ := ih hi
    exact ⟨hext.trans hext', hrest⟩

theorem start_settled (r : Registry) (requests : List (List Request)) :
    ∀ t ∈ (start r requests).threads, t.Settled (start r requests).registry := by
  intro t ht
  obtain ⟨todo, -, rfl⟩ := List.mem_map.1 ht
  exact fun q s hs => nomatch hs

/-! ## Stamps -/

/-- An instance is stored, or about to be. -/
def InUse (m : Machine) (s : Shared) : Prop :=
  (∃ casing id, m.registry.find? casing id = some s) ∨ ∃ t ∈ m.threads, t.Storing s

/-- Instances in use have stamps that were given out, each its own. -/
structure Stamped (m : Machine) : Prop where
  below : ∀ s, m.InUse s → s.stamp < m.registry.next
  inj : ∀ s s', m.InUse s → m.InUse s' → s.stamp = s'.stamp → s = s'

/-- At most one instance comes into use with the next stamp. -/
theorem Stamped.next {m m' : Machine} (h : m.Stamped)
    (hm : (m'.registry.next = m.registry.next ∧ ∀ s, m'.InUse s → m.InUse s) ∨
      ∃ map, m'.registry.next = m.registry.next + 1 ∧
        ∀ s, m'.InUse s → m.InUse s ∨ s = ⟨m.registry.next, map⟩) : m'.Stamped := by
  rcases hm with ⟨hnext, hold⟩ | ⟨map, hnext, hnew⟩
  · exact ⟨fun s hs => hnext ▸ h.below s (hold s hs),
      fun s s' hs hs' => h.inj s s' (hold s hs) (hold s' hs')⟩
  · refine ⟨fun s hs => ?_, fun s s' hs hs' he => ?_⟩
    · rcases hnew s hs with hs | rfl
      · have := h.below s hs; omega
      · show m.registry.next < _; omega
    · rcases hnew s hs with hs | rfl <;> rcases hnew s' hs' with hs' | rfl
      · exact h.inj s s' hs hs' he
      · exact absurd he (Nat.ne_of_lt (h.below s hs))
      · exact absurd he.symm (Nat.ne_of_lt (h.below s' hs'))
      · rfl

/-- A step of a thread gives out at most one stamp, to an instance that the thread has to store. -/
theorem step_storing (t : Thread) (r : Registry) :
    ((t.step r).2.next = r.next ∧ ∀ s, (t.step r).1.Storing s → t.Storing s) ∨
      ∃ map, (t.step r).2.next = r.next + 1 ∧
        ∀ s, (t.step r).1.Storing s → s = ⟨r.next, map⟩ := by
  have hmove := t.step_move r
  generalize t.step r = after at hmove ⊢
  cases hmove with
  | idle => exact .inl ⟨rfl, fun s h => h⟩
  | begin => exact .inl ⟨rfl, fun s ⟨_, _, h⟩ => by cases h⟩
  | descend => exact .inl ⟨rfl, fun s ⟨_, _, h⟩ => by cases h⟩
  | @build q rest m => exact .inr ⟨m, rfl, fun s ⟨_, _, h⟩ => by cases h; rfl⟩
  | @answer q stage rest a r' hp ha =>
    rcases t.answer_storing q a rest r' with ⟨hn, hs⟩ | ⟨map, hn, hs⟩
    · exact .inl ⟨hn.trans ha.next, fun s h => absurd h (hs s)⟩
    · rw [ha.next] at hn hs; exact .inr ⟨map, hn, hs⟩

/-- What is found after a step was found before, or the thread was about to store it. -/
theorem find?_step {t : Thread} {r : Registry} {casing : Casing} {id : TypeId} {s : Shared}
    (h : (t.step r).2.find? casing id = some s) :
    r.find? casing id = some s ∨ t.Storing s := by
  have hmove := t.step_move r
  generalize t.step r = after at hmove h
  cases hmove with
  | idle => exact .inl h
  | begin => exact .inl h
  | descend => exact .inl h
  | build => rw [Registry.find?_mint] at h; exact .inl h
  | answer hp ha =>
    rw [Thread.find?_answer] at h
    cases ha with
    | hit => exact .inl h
    | refused => exact .inl h
    | failed => exact .inl h
    | stored =>
      rcases Registry.find?_settle_cases h with h | ⟨-, -, rfl⟩
      · exact .inl h
      · exact .inr ⟨_, _, hp⟩

theorem step_stamped (m : Machine) (i : Nat) (hm : m.Stamped) : (m.step i).Stamped := by
  refine hm.next ?_
  unfold step
  cases hi : m.threads[i]? with
  | none => exact .inl ⟨rfl, fun s hs => hs⟩
  | some u =>
    have hu : u ∈ m.threads := List.mem_of_getElem? hi
    -- an instance in use afterwards was in use before, or the thread is about to store it
    have cases_inUse (s : Shared)
        (hs : (⟨(u.step m.registry).2, m.threads.set i (u.step m.registry).1⟩ : Machine).InUse s) :
        m.InUse s ∨ (u.step m.registry).1.Storing s := by
      rcases hs with ⟨casing, id, hs⟩ | ⟨t, ht, hs⟩
      · rcases find?_step hs with hs | hs
        · exact .inl (.inl ⟨casing, id, hs⟩)
        · exact .inl (.inr ⟨u, hu, hs⟩)
      · rcases List.mem_or_eq_of_mem_set ht with ht | rfl
        · exact .inl (.inr ⟨t, ht, hs⟩)
        · exact .inr hs
    rcases step_storing u m.registry with ⟨hnext, hold⟩ | ⟨map, hnext, hnew⟩
    · refine .inl ⟨hnext, fun s hs => ?_⟩
      rcases cases_inUse s hs with hs | hs
      · exact hs
      · exact .inr ⟨u, hu, hold s hs⟩
    · refine .inr ⟨map, hnext, fun s hs => ?_⟩
      rcases cases_inUse s hs with hs | hs
      · exact .inl hs
      · exact .inr (hnew s hs)

theorem start_stamped (requests : List (List Request)) : (start .empty requests).Stamped := by
  have unused (s : Shared) : ¬ (start .empty requests).InUse s := by
    rintro (⟨casing, id, hs⟩ | ⟨t, ht, q, rest, hs⟩)
    · simp [start] at hs
    · obtain ⟨todo, -, rfl⟩ := List.mem_map.1 ht
      cases hs
  exact ⟨fun s hs => absurd hs (unused s), fun s _ hs => absurd hs (unused s)⟩

/-! ## Convergence -/

/-- One instance for all: in every run from an empty registry and at every later time, what was
stored is still stored, a request that has returned an instance has returned the one that is
stored, two requests for one identity and casing have returned the same instance, and instances
with one stamp are the same. -/
theorem run_converges (requests : List (List Request)) (schedule more : List Nat) :
    let m := (start .empty requests).run schedule
    let later := m.run more
    m.registry.Extends later.registry ∧
    (∀ q s, (q, .ok s) ∈ m.returned → later.registry.find? q.casing q.layout.id = some s) ∧
    (∀ q₁ q₂ s₁ s₂, (q₁, .ok s₁) ∈ m.returned → (q₂, .ok s₂) ∈ later.returned →
      q₁.casing = q₂.casing → q₁.layout.id = q₂.layout.id → s₁ = s₂) ∧
    (∀ q₁ q₂ s₁ s₂, (q₁, .ok s₁) ∈ m.returned → (q₂, .ok s₂) ∈ later.returned →
      s₁.stamp = s₂.stamp → s₁ = s₂) := by
  intro m later
  obtain ⟨-, hm⟩ := run_settled (start_settled .empty requests) schedule
  obtain ⟨hext, hlater⟩ := run_settled hm more
  have stored (q : Request) (s : Shared) (hs : (q, .ok s) ∈ m.returned) :
      later.registry.find? q.casing q.layout.id = some s := by
    obtain ⟨t, ht, hs⟩ := mem_returned.1 hs
    exact hext _ _ _ (hm t ht q s hs)
  have storedLater (q : Request) (s : Shared) (hs : (q, .ok s) ∈ later.returned) :
      later.registry.find? q.casing q.layout.id = some s := by
    obtain ⟨t, ht, hs⟩ := mem_returned.1 hs
    exact hlater t ht q s hs
  have hstamped : later.Stamped :=
    run_preserves step_stamped (run_preserves step_stamped (start_stamped requests) schedule) more
  refine ⟨hext, stored, fun q₁ q₂ s₁ s₂ h₁ h₂ hc hid => ?_, fun q₁ q₂ s₁ s₂ h₁ h₂ hs => ?_⟩
  · have h := stored q₁ s₁ h₁
    rw [hc, hid, storedLater q₂ s₂ h₂] at h
    exact (Option.some.inj h).symm
  · exact hstamped.inj s₁ s₂ (.inl ⟨_, _, stored q₁ s₁ h₁⟩) (.inl ⟨_, _, storedLater q₂ s₂ h₂⟩) hs

end Machine

end RecordKeys
