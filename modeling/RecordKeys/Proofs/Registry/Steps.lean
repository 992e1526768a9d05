/-
What the steps of a machine preserve, whatever the order in which the threads take them.

A statement about the outcomes of requests is called hereditary if it passes from the outcome for a
base to the outcome for the type that embeds it, and from a type to every other type of the same
identity. Such a statement holds of all that a machine stores, builds and answers. The invariant
covers the requests under way: they wait for one another along a chain of bases, and only the
innermost one has a step to take.
-/
import RecordKeys.Registry.Interleaving
import RecordKeys.Proofs.KeyMap.Gathering
import RecordKeys.Proofs.Registry.Store

namespace RecordKeys

/-! ## What one step can do -/

/-- The ways in which the innermost request comes to an answer, and the registry afterwards. -/
inductive Answers (r : Registry) (q : Request) : Stage → Except Fault Shared → Registry → Prop
  | hit {s : Shared} (found : r.find? q.casing q.layout.id = some s) :
    Answers r q .looking (.ok s) r
  | refused {fault : Fault} (refusal : q.layout.refusal? q.casing = some fault) :
    Answers r q .looking (.error fault) r
  | failed {fault : Fault} (refusal : q.layout.refusal? q.casing = none)
    (base : q.layout.base? = none)
    (complete : KeyMap.complete q.layout q.casing none = .error fault) :
    Answers r q .looking (.error fault) r
  | stored {own : Shared} :
    Answers r q (.storing own) (.ok (r.settle q.casing q.layout.id own).1)
      (r.settle q.casing q.layout.id own).2

/-- The ways in which a thread takes a step. -/
inductive Thread.Move (t : Thread) (r : Registry) : Thread × Registry → Prop
  | idle (stuck : ∀ p rest, t.pending = p :: rest → p.stage = .waiting)
    (done : t.pending = [] → t.todo = []) : Move t r (t, r)
  | begin {q : Request} {todo : List Request} (pending : t.pending = []) (next : t.todo = q :: todo) :
    Move t r ({ t with todo := todo, pending := [⟨q, .looking⟩] }, r)
  | descend {q : Request} {base : Layout} {rest : List Pending}
    (pending : t.pending = ⟨q, .looking⟩ :: rest) (refusal : q.layout.refusal? q.casing = none)
    (base? : q.layout.base? = some base) :
    Move t r ({ t with pending := ⟨⟨base, q.casing⟩, .looking⟩ :: ⟨q, .waiting⟩ :: rest }, r)
  | build {q : Request} {rest : List Pending} {m : KeyMap}
    (pending : t.pending = ⟨q, .looking⟩ :: rest) (refusal : q.layout.refusal? q.casing = none)
    (base : q.layout.base? = none) (complete : KeyMap.complete q.layout q.casing none = .ok m) :
    Move t r ({ t with pending := ⟨q, .storing (r.mint m).1⟩ :: rest }, (r.mint m).2)
  | answer {q : Request} {stage : Stage} {rest : List Pending} {a : Except Fault Shared}
    {r' : Registry} (pending : t.pending = ⟨q, stage⟩ :: rest) (answers : Answers r q stage a r') :
    Move t r (t.answer q a rest r')

theorem Thread.step_move (t : Thread) (r : Registry) : t.Move r (t.step r) := by
  unfold step
  split
  · rename_i q rest hp
    unfold look
    split
    · rename_i s hs
      exact .answer hp (.hit hs)
    · split
      · rename_i fault hf
        exact .answer hp (.refused hf)
      · rename_i hf
        split
        · rename_i base hb
          exact .descend hp hf hb
        · rename_i hb
          split
          · rename_i fault hc
            exact .answer hp (.failed hf hb hc)
          · rename_i m hc
            exact .build hp hf hb hc
  · rename_i q own rest hp
    exact .answer hp .stored
  · rename_i p rest hp
    exact .idle (fun p' rest' h => by rw [hp] at h; cases h; rfl) fun h => by rw [hp] at h; cases h
  · rename_i hp
    split
    · rename_i htodo
      exact .idle (fun p rest h => by rw [hp] at h; cases h) fun _ => htodo
    · rename_i q todo htodo
      exact .begin hp htodo

/-- What becomes of the request that waits when another is answered: it fails in turn, or it has an
instance to store. -/
theorem Thread.answer_cons (t : Thread) (q : Request) (a : Except Fault Shared) (p : Pending)
    (rest : List Pending) (r : Registry) :
    (∃ fault, (a = .error fault ∨ ∃ s, a = .ok s ∧
        KeyMap.complete p.request.layout p.request.casing (some s.map) = .error fault) ∧
      t.answer q a (p :: rest) r = (t.note q a).answer p.request (.error fault) rest r) ∨
    (∃ s m, a = .ok s ∧
      KeyMap.complete p.request.layout p.request.casing (some s.map) = .ok m ∧
      t.answer q a (p :: rest) r =
        ({ t.note q a with pending := ⟨p.request, .storing (r.mint m).1⟩ :: rest }, (r.mint m).2)) := by
  cases a with
  | error fault => exact .inl ⟨fault, .inl rfl, rfl⟩
  | ok s =>
    cases hc : KeyMap.complete p.request.layout p.request.casing (some s.map) with
    | error fault => exact .inl ⟨fault, .inr ⟨s, rfl, hc⟩, by simp only [answer, hc]⟩
    | ok m => exact .inr ⟨s, m, rfl, hc, by simp only [answer, hc]⟩

/-! ## Requests under way -/

/-- Each of the requests waits for the one before it, which is for its base. -/
def Waiting (serves : Layout → Prop) : Request → List Pending → Prop
  | _, [] => True
  | inner, p :: rest =>
    p.stage = .waiting ∧ serves p.request.layout ∧ p.request.casing = inner.casing ∧
      p.request.layout.refusal? p.request.casing = none ∧
      p.request.layout.base? = some inner.layout ∧ Waiting serves p.request rest

/-- The outcome that an answer stands for. -/
abbrev outcome (answer : Except Fault Shared) : Except Fault KeyMap := answer.map (·.map)

/-- The requests under way are in order: the innermost one looks its type up or has an instance to
store, and the others wait. -/
def InOrder (serves : Layout → Prop) (holds : Request → Except Fault KeyMap → Prop) :
    List Pending → Prop
  | [] => True
  | p :: rest =>
    serves p.request.layout ∧ Waiting serves p.request rest ∧
      match p.stage with
      | .looking => True
      | .waiting => False
      | .storing own => holds p.request (.ok own.map)

/-! ## Hereditary statements -/

/-- A statement about outcomes that holds of whatever is made from outcomes of which it holds, as
far as the types that are served go. -/
structure Hereditary (serves : Layout → Prop) (holds : Request → Except Fault KeyMap → Prop) :
    Prop where
  base : ∀ {t b}, serves t → t.base? = some b → serves b
  refused : ∀ {t casing fault}, serves t → t.refusal? casing = some fault →
    holds ⟨t, casing⟩ (.error fault)
  failed : ∀ {t b casing fault}, serves t → t.refusal? casing = none → t.base? = some b →
    holds ⟨b, casing⟩ (.error fault) → holds ⟨t, casing⟩ (.error fault)
  alone : ∀ {t casing}, serves t → t.refusal? casing = none → t.base? = none →
    holds ⟨t, casing⟩ (KeyMap.complete t casing none)
  completed : ∀ {t b casing m}, serves t → t.refusal? casing = none → t.base? = some b →
    holds ⟨b, casing⟩ (.ok m) → holds ⟨t, casing⟩ (KeyMap.complete t casing (some m))
  shared : ∀ {t u casing m}, serves t → serves u → t.id = u.id →
    holds ⟨t, casing⟩ (.ok m) → holds ⟨u, casing⟩ (.ok m)

/-- A hereditary statement holds of every build. -/
theorem Hereditary.build {serves : Layout → Prop} {holds : Request → Except Fault KeyMap → Prop}
    (h : Hereditary serves holds) (casing : Casing) {t : Layout} (ht : serves t) :
    holds ⟨t, casing⟩ (KeyMap.build casing t) := by
  induction t with
  | root l =>
    cases hr : (Layout.root l).refusal? casing with
    | some fault => rw [KeyMap.build_of_refused hr]; exact h.refused ht hr
    | none => rw [KeyMap.build_of_alone hr rfl]; exact h.alone ht hr rfl
  | embedding l field base ih =>
    cases hr : (Layout.embedding l field base).refusal? casing with
    | some fault => rw [KeyMap.build_of_refused hr]; exact h.refused ht hr
    | none =>
      have hbase := ih (h.base ht rfl)
      cases hb : KeyMap.build casing base with
      | error fault =>
        rw [hb] at hbase
        rw [KeyMap.build_of_failed hr rfl hb]; exact h.failed ht hr rfl hbase
      | ok m =>
        rw [hb] at hbase
        rw [KeyMap.build_of_built hr rfl hb]; exact h.completed ht hr rfl hbase

/-- A statement holds of all that a registry stores. -/
def Registry.Upholds (serves : Layout → Prop) (holds : Request → Except Fault KeyMap → Prop)
    (r : Registry) : Prop :=
  ∀ casing id s, r.find? casing id = some s →
    ∃ t, serves t ∧ t.id = id ∧ holds ⟨t, casing⟩ (.ok s.map)

/-- A statement holds of all that a thread has built and answered. -/
structure Thread.Upholds (serves : Layout → Prop) (holds : Request → Except Fault KeyMap → Prop)
    (t : Thread) : Prop where
  todo : ∀ q ∈ t.todo, serves q.layout
  pending : InOrder serves holds t.pending
  returned : ∀ x ∈ t.returned, holds x.1 (outcome x.2)
  answered : ∀ x ∈ t.answered, x ∈ t.returned

/-! ## Steps of a thread -/

section Step

variable {serves : Layout → Prop} {holds : Request → Except Fault KeyMap → Prop}

theorem Registry.Upholds.mint {r : Registry} (hr : r.Upholds serves holds) (m : KeyMap) :
    (r.mint m).2.Upholds serves holds := by
  intro casing id s hs
  rw [Registry.find?_mint] at hs
  exact hr casing id s hs

theorem Registry.Upholds.settle {r : Registry} (hr : r.Upholds serves holds) {q : Request}
    {own : Shared} (hq : serves q.layout) (hown : holds q (.ok own.map)) :
    (r.settle q.casing q.layout.id own).2.Upholds serves holds := by
  intro casing id s hs
  rcases Registry.find?_settle_cases hs with hs | ⟨rfl, rfl, rfl⟩
  · exact hr casing id s hs
  · exact ⟨q.layout, hq, rfl, hown⟩

/-- What a registry stores for a type is an outcome for that type. -/
theorem Registry.Upholds.find (h : Hereditary serves holds) {r : Registry}
    (hr : r.Upholds serves holds) {q : Request} (hq : serves q.layout) {s : Shared}
    (hs : r.find? q.casing q.layout.id = some s) : holds q (.ok s.map) := by
  obtain ⟨t, ht, hid, hholds⟩ := hr _ _ _ hs
  exact h.shared ht hq hid hholds

/-- An answer about which the statement holds leaves everything as it should be: the requests that
wait either go on or fail in turn. -/
theorem Thread.answer_upholds (h : Hereditary serves holds) {t : Thread} {q : Request}
    {a : Except Fault Shared} {rest : List Pending} {r : Registry}
    (hr : r.Upholds serves holds) (htodo : ∀ q ∈ t.todo, serves q.layout)
    (hret : ∀ x ∈ t.returned, holds x.1 (outcome x.2)) (hans : ∀ x ∈ t.answered, x ∈ t.returned)
    (ha : holds q (outcome a)) (hw : Waiting serves q rest) :
    (t.answer q a rest r).2.Upholds serves holds ∧ (t.answer q a rest r).1.Upholds serves holds := by
  have hret' : ∀ x ∈ (t.note q a).returned, holds x.1 (outcome x.2) := by
    intro x hx
    rcases List.mem_cons.1 hx with rfl | hx
    · exact ha
    · exact hret x hx
  have hans' : ∀ x ∈ (t.note q a).answered, x ∈ (t.note q a).returned :=
    fun x hx => List.mem_cons_of_mem _ (hans x hx)
  -- from the inside out: each request that waits either fails with the one before it or goes on
  induction rest generalizing t q a with
  | nil =>
    refine ⟨hr, htodo, trivial, hret', fun x hx => ?_⟩
    rcases List.mem_cons.1 hx with rfl | hx
    · exact List.mem_cons_self
    · exact hans' x hx
  | cons p rest ih =>
    obtain ⟨-, hserves, hcasing, hrefusal, hbase, hw⟩ := hw
    have hq : q = ⟨q.layout, p.request.casing⟩ := by rw [hcasing]
    rcases t.answer_cons q a p rest r with ⟨fault, hwhy, he⟩ | ⟨s, m, rfl, hc, he⟩
    · have hf : holds p.request (.error fault) := by
        rcases hwhy with rfl | ⟨s, rfl, hc⟩
        · exact h.failed hserves hrefusal hbase (hq ▸ ha)
        · exact hc ▸ h.completed hserves hrefusal hbase (hq ▸ ha)
      rw [he]
      refine ih htodo hret' hans' hf hw ?_ fun x hx => List.mem_cons_of_mem _ (hans' x hx)
      intro x hx
      rcases List.mem_cons.1 hx with rfl | hx
      · exact hf
      · exact hret' x hx
    · have hm : holds p.request (.ok m) := hc ▸ h.completed hserves hrefusal hbase (hq ▸ ha)
      rw [he]
      exact ⟨hr.mint m, htodo, ⟨hserves, hw, hm⟩, hret', hans'⟩

/-- A request that comes to an answer leaves the registry as it should be, and the statement holds
of the answer. -/
theorem Answers.upholds (h : Hereditary serves holds) {r r' : Registry} {q : Request} {stage : Stage}
    {a : Except Fault Shared} (ha : Answers r q stage a r') (hr : r.Upholds serves holds)
    (hq : serves q.layout) (hown : ∀ own, stage = .storing own → holds q (.ok own.map)) :
    r'.Upholds serves holds ∧ holds q (outcome a) := by
  cases ha with
  | hit found => exact ⟨hr, hr.find h hq found⟩
  | refused refusal => exact ⟨hr, h.refused hq refusal⟩
  | failed refusal base complete =>
    have hm := h.alone hq refusal base
    rw [complete] at hm; exact ⟨hr, hm⟩
  | stored =>
    have hr' := hr.settle hq (hown _ rfl)
    exact ⟨hr', hr'.find h hq (Registry.find?_settle ..)⟩

/-- One step of a thread preserves a hereditary statement. -/
theorem Thread.step_upholds (h : Hereditary serves holds) {t : Thread} {r : Registry}
    (hr : r.Upholds serves holds) (ht : t.Upholds serves holds) :
    (t.step r).2.Upholds serves holds ∧ (t.step r).1.Upholds serves holds := by
  have hmove := t.step_move r
  obtain ⟨htodo, hpending, hret, hans⟩ := ht
  generalize t.step r = after at hmove ⊢
  cases hmove with
  | idle => exact ⟨hr, htodo, hpending, hret, hans⟩
  | begin hp hnext =>
    rw [hnext] at htodo
    exact ⟨hr, fun q hq => htodo q (List.mem_cons_of_mem _ hq),
      ⟨htodo _ List.mem_cons_self, trivial, trivial⟩, hret, hans⟩
  | descend hp hrefusal hb =>
    rw [hp] at hpending
    obtain ⟨hq, hw, -⟩ := hpending
    exact ⟨hr, htodo, ⟨h.base hq hb, ⟨rfl, hq, rfl, hrefusal, hb, hw⟩, trivial⟩, hret, hans⟩
  | @build q rest m hp hrefusal hb hc =>
    rw [hp] at hpending
    obtain ⟨hq, hw, -⟩ := hpending
    have hm := h.alone hq hrefusal hb
    rw [hc] at hm
    exact ⟨hr.mint m, htodo, ⟨hq, hw, hm⟩, hret, hans⟩
  | answer hp ha =>
    rw [hp] at hpending
    obtain ⟨hq, hw, hstage⟩ := hpending
    obtain ⟨hr', hholds⟩ := ha.upholds h hr hq fun own he => by subst he; exact hstage
    exact Thread.answer_upholds h hr' htodo hret hans hholds hw

end Step

/-! ## Runs of a machine -/

namespace Machine

theorem mem_threads_step {m : Machine} {i : Nat} {t : Thread} (ht : t ∈ (m.step i).threads) :
    t ∈ m.threads ∨ ∃ u ∈ m.threads, t = (u.step m.registry).1 := by
  unfold step at ht
  cases hi : m.threads[i]? with
  | none => rw [hi] at ht; exact .inl ht
  | some u =>
    rw [hi] at ht
    rcases List.mem_or_eq_of_mem_set ht with ht | rfl
    · exact .inl ht
    · exact .inr ⟨u, List.mem_of_getElem? hi, rfl⟩

theorem registry_step (m : Machine) (i : Nat) :
    (m.step i).registry = m.registry ∨
      ∃ u ∈ m.threads, (m.step i).registry = (u.step m.registry).2 := by
  unfold step
  cases hi : m.threads[i]? with
  | none => exact .inl rfl
  | some u => exact .inr ⟨u, List.mem_of_getElem? hi, rfl⟩

theorem mem_returned {m : Machine} {x : Request × Except Fault Shared} :
    x ∈ m.returned ↔ ∃ t ∈ m.threads, x ∈ t.returned := List.mem_flatMap

/-- What every step preserves, every run preserves. -/
theorem run_preserves {P : Machine → Prop} (hstep : ∀ m i, P m → P (m.step i)) {m : Machine}
    (h : P m) (schedule : List Nat) : P (m.run schedule) := by
  induction schedule generalizing m with
  | nil => exact h
  | cons i rest ih => exact ih (hstep m i h)

/-- A statement holds of all that a machine stores, builds and answers. -/
structure Upholds (serves : Layout → Prop) (holds : Request → Except Fault KeyMap → Prop)
    (m : Machine) : Prop where
  registry : m.registry.Upholds serves holds
  threads : ∀ t ∈ m.threads, t.Upholds serves holds

variable {serves : Layout → Prop} {holds : Request → Except Fault KeyMap → Prop}

theorem step_upholds (h : Hereditary serves holds) (m : Machine) (i : Nat)
    (hm : m.Upholds serves holds) : (m.step i).Upholds serves holds where
  registry := by
    rcases m.registry_step i with he | ⟨u, hu, he⟩
    · rw [he]; exact hm.registry
    · rw [he]; exact (Thread.step_upholds h hm.registry (hm.threads u hu)).1
  threads t ht := by
    rcases mem_threads_step ht with ht | ⟨u, hu, rfl⟩
    · exact hm.threads t ht
    · exact (Thread.step_upholds h hm.registry (hm.threads u hu)).2

theorem start_upholds {r : Registry} (hr : r.Upholds serves holds) {requests : List (List Request)}
    (hq : ∀ todo ∈ requests, ∀ q ∈ todo, serves q.layout) :
    (start r requests).Upholds serves holds where
  registry := hr
  threads t ht := by
    obtain ⟨todo, htodo, rfl⟩ := List.mem_map.1 ht
    exact ⟨hq todo htodo, trivial, nofun, nofun⟩

theorem empty_upholds : Registry.empty.Upholds serves holds := by
  intro casing id s hs
  rw [Registry.find?_empty] at hs; cases hs

/-- A hereditary statement holds of all that a machine stores, builds and answers, in every run
from an empty registry. -/
theorem run_upholds (h : Hereditary serves holds) {requests : List (List Request)}
    (hq : ∀ todo ∈ requests, ∀ q ∈ todo, serves q.layout) (schedule : List Nat) :
    ((start .empty requests).run schedule).Upholds serves holds :=
  run_preserves (step_upholds h) (start_upholds empty_upholds hq) schedule

/-- A hereditary statement holds of the outcome of every request that has returned. -/
theorem run_returned (h : Hereditary serves holds) {requests : List (List Request)}
    (hq : ∀ todo ∈ requests, ∀ q ∈ todo, serves q.layout) {schedule : List Nat} {q : Request}
    {a : Except Fault Shared} (hret : (q, a) ∈ ((start .empty requests).run schedule).returned) :
    holds q (outcome a) := by
  obtain ⟨t, ht, hx⟩ := mem_returned.1 hret
  exact ((run_upholds h hq schedule).threads t ht).returned _ hx

end Machine

end RecordKeys
