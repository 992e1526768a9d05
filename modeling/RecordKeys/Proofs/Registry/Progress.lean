/-
Every request of a thread is answered, in the order in which the thread makes them, once the thread
has taken enough steps; what the other threads do in the meantime neither helps nor hinders it. A
thread always has a step to take until it is done, and each step brings it nearer to its end.
-/
import Mathlib.Algebra.GroupWithZero.Nat
import RecordKeys.Proofs.Registry.Steps

namespace RecordKeys

/-- The steps that a request under way may still take of its own. -/
def Pending.work (p : Pending) : Nat :=
  match p.stage with
  | .looking => 2 * p.request.layout.depth
  | .waiting => 1
  | .storing _ => 1

/-- The steps that a request takes at most, the one to begin with included. -/
def Request.work (q : Request) : Nat := 2 * q.layout.depth + 1

theorem Layout.depth_pos (t : Layout) : 0 < t.depth := by
  cases t <;> simp [depth]

theorem Layout.depth_of_base? {t b : Layout} (h : t.base? = some b) : t.depth = b.depth + 1 := by
  cases t with
  | root l => cases h
  | embedding l field base => cases h; rfl

theorem Pending.work_pos (p : Pending) : 0 < p.work := by
  have := p.request.layout.depth_pos
  unfold work
  split <;> omega

namespace Thread

/-- The steps that a thread takes at most until it is done. -/
def work (t : Thread) : Nat := (t.pending.map (·.work)).sum + (t.todo.map (·.work)).sum

/-- The thread's own request among those under way. -/
def own : Request → List Pending → Request
  | q, [] => q
  | _, p :: rest => own p.request rest

/-- All requests that a thread makes, in their order: those that are answered, the one under way,
and those that are still to be made. -/
def script (t : Thread) : List Request :=
  t.answered.reverse.map (·.1) ++
    (match t.pending with
      | [] => []
      | p :: rest => [own p.request rest]) ++ t.todo

/-! ## Steps -/

theorem work_answer (t : Thread) (q : Request) (a : Except Fault Shared) (rest : List Pending)
    (r : Registry) :
    (t.answer q a rest r).1.work ≤ (rest.map (·.work)).sum + (t.todo.map (·.work)).sum := by
  induction rest generalizing t q a with
  | nil => simp [answer, note, work]
  | cons p rest ih =>
    have hp := p.work_pos
    rcases t.answer_cons q a p rest r with ⟨fault, -, he⟩ | ⟨s, m, -, -, he⟩ <;> rw [he]
    · have := ih (t.note q a) p.request (.error fault)
      simp only [note, List.map_cons, List.sum_cons] at *
      omega
    · simp only [note, work, Pending.work, List.map_cons, List.sum_cons]
      simp only [Pending.work] at hp
      omega

theorem script_answer (t : Thread) (q : Request) (a : Except Fault Shared) (rest : List Pending)
    (r : Registry) :
    (t.answer q a rest r).1.script = t.answered.reverse.map (·.1) ++ [own q rest] ++ t.todo := by
  induction rest generalizing t q a with
  | nil => simp [answer, note, script, own]
  | cons p rest ih =>
    rcases t.answer_cons q a p rest r with ⟨fault, -, he⟩ | ⟨s, m, -, -, he⟩ <;> rw [he]
    · exact ih (t.note q a) p.request (.error fault)
    · rfl

/-- A thread that is not done comes nearer to its end with each step. -/
theorem work_step {serves : Layout → Prop} {holds : Request → Except Fault KeyMap → Prop}
    {t : Thread} (ht : InOrder serves holds t.pending) (r : Registry) :
    (t.step r).1.work ≤ t.work - 1 := by
  have hmove := t.step_move r
  generalize t.step r = after at hmove ⊢
  cases hmove with
  | idle stuck done =>
    cases hp : t.pending with
    | nil => simp [work, hp, done hp]
    | cons p rest =>
      rw [hp] at ht
      obtain ⟨-, -, hstage⟩ := ht
      rw [stuck p rest hp] at hstage
      exact hstage.elim
  | begin hp hnext =>
    simp only [work, hp, hnext, Pending.work, Request.work, List.map_cons, List.map_nil,
      List.sum_cons, List.sum_nil]
    omega
  | descend hp hrefusal hb =>
    have := Layout.depth_of_base? hb
    simp only [work, hp, Pending.work, List.map_cons, List.sum_cons]
    omega
  | @build q rest m hp =>
    have := q.layout.depth_pos
    simp only [work, hp, Pending.work, List.map_cons, List.sum_cons]
    omega
  | @answer q stage rest a r' hp =>
    have := t.work_answer q a rest r'
    have := (Pending.mk q stage).work_pos
    simp only [work, hp, List.map_cons, List.sum_cons] at *
    omega

/-- A step leaves the requests that a thread makes as they are. -/
theorem script_step (t : Thread) (r : Registry) : (t.step r).1.script = t.script := by
  have hmove := t.step_move r
  generalize t.step r = after at hmove ⊢
  cases hmove with
  | idle => rfl
  | begin hp hnext => simp [script, hp, hnext, own]
  | descend hp => simp only [script, hp, own]
  | build hp => simp only [script, hp]
  | answer hp => rw [script_answer]; simp only [script, hp]

/-- A thread without work has answered all the requests that it makes. -/
theorem done_of_work {t : Thread} (h : t.work = 0) :
    t.pending = [] ∧ t.todo = [] ∧ t.answered.reverse.map (·.1) = t.script := by
  have hp : t.pending = [] := by
    cases hp : t.pending with
    | nil => rfl
    | cons p rest =>
      have := p.work_pos
      simp only [work, hp, List.map_cons, List.sum_cons] at h
      omega
  have htodo : t.todo = [] := by
    cases htodo : t.todo with
    | nil => rfl
    | cons q todo =>
      simp only [work, htodo, Request.work, List.map_cons, List.sum_cons] at h
      omega
  exact ⟨hp, htodo, by simp [script, hp, htodo]⟩

end Thread

/-! ## Runs -/

namespace Machine

theorem threads_step_self {m : Machine} {i : Nat} {t : Thread} (ht : m.threads[i]? = some t) :
    (m.step i).threads[i]? = some (t.step m.registry).1 := by
  obtain ⟨hi, hget⟩ := List.getElem?_eq_some_iff.1 ht
  simp [step, hi, hget]

theorem threads_step_of_ne {m : Machine} {i j : Nat} (h : i ≠ j) :
    (m.step i).threads[j]? = m.threads[j]? := by
  unfold step
  split
  · rfl
  · simp [h]

/-- Each step that a thread takes in a run is one of those it needs, whatever the other threads
do. -/
theorem run_work {serves : Layout → Prop} {holds : Request → Except Fault KeyMap → Prop}
    (h : Hereditary serves holds) {m : Machine} (hm : m.Upholds serves holds) {i : Nat} {t : Thread}
    (ht : m.threads[i]? = some t) (schedule : List Nat) :
    ∃ t', (m.run schedule).threads[i]? = some t' ∧ t'.work ≤ t.work - schedule.count i ∧
      t'.script = t.script := by
  induction schedule generalizing m t with
  | nil => exact ⟨t, ht, by simp, rfl⟩
  | cons j rest ih =>
    have hnext := step_upholds h m j hm
    by_cases hj : j = i
    · subst hj
      obtain ⟨t', ht', hwork, hscript⟩ := ih hnext (threads_step_self ht)
      have := Thread.work_step (hm.threads t (List.mem_of_getElem? ht)).pending m.registry
      refine ⟨t', ht', ?_, hscript.trans (t.script_step m.registry)⟩
      rw [List.count_cons_self]
      omega
    -- a step of another thread leaves this one as it is
    · obtain ⟨t', ht', hwork, hscript⟩ := ih hnext ((threads_step_of_ne hj).trans ht)
      refine ⟨t', ht', ?_, hscript⟩
      rwa [List.count_cons_of_ne hj]

/-- A thread that has taken as many steps as its requests take at most has answered all of them, in
their order. -/
theorem run_answers {serves : Layout → Prop} {holds : Request → Except Fault KeyMap → Prop}
    (h : Hereditary serves holds) {requests : List (List Request)}
    (hq : ∀ todo ∈ requests, ∀ q ∈ todo, serves q.layout) {schedule : List Nat} {i : Nat}
    {todo : List Request} (htodo : requests[i]? = some todo)
    (hsteps : (todo.map (·.work)).sum ≤ schedule.count i) :
    ∃ t, ((start .empty requests).run schedule).threads[i]? = some t ∧ t.pending = [] ∧
      t.todo = [] ∧ t.answered.reverse.map (·.1) = todo := by
  have hstart : (start .empty requests).threads[i]? = some ⟨todo, [], [], []⟩ := by
    simp [start, htodo]
  obtain ⟨t, ht, hwork, hscript⟩ :=
    run_work h (start_upholds empty_upholds hq) hstart schedule
  have hzero : t.work = 0 := by
    simp only [Thread.work, List.map_nil, List.sum_nil] at hwork
    simp only [Thread.work]
    omega
  obtain ⟨hp, ht', hans⟩ := Thread.done_of_work hzero
  exact ⟨t, ht, hp, ht', hans.trans hscript⟩

end Machine

end RecordKeys
