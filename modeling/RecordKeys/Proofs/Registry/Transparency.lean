/-
A registry shows in nothing but the sharing of instances. If every identity belongs to one layout,
then in every run, whatever was asked for before and in whatever order the threads take their
steps, a request is answered with exactly what a build of that type alone gives: the same key map,
or the same fault.

That the answer is the one of a build is a hereditary statement. A type finds under its identity
only what was built for itself, and a build from a shared base is the build from a fresh one.
-/
import RecordKeys.Proofs.Registry.Progress
import RecordKeys.Proofs.Registry.Reached

namespace RecordKeys

namespace Machine

/-- The layouts that the requests of a machine are about: those they name, and their bases. -/
def tables (requests : List (List Request)) : List Layout :=
  requests.flatten.flatMap (·.layout.chain)

theorem mem_tables {requests : List (List Request)} {todo : List Request} (htodo : todo ∈ requests)
    {q : Request} (hq : q ∈ todo) : q.layout ∈ tables requests :=
  List.mem_flatMap.2 ⟨q, List.mem_flatten.2 ⟨todo, htodo, hq⟩, q.layout.self_mem_chain⟩

/-- With one layout for each identity, that an answer is the one of a build is hereditary. -/
theorem build_hereditary {requests : List (List Request)}
    (hone : ∀ t ∈ tables requests, ∀ u ∈ tables requests, t.id = u.id → t = u) :
    Hereditary (· ∈ tables requests) fun q a => a = KeyMap.build q.casing q.layout :=
  Layout.OneEach.build_hereditary
    { base := fun ht hb => by
        obtain ⟨q, hq, ht⟩ := List.mem_flatMap.1 ht
        exact List.mem_flatMap.2 ⟨q, hq, Layout.base_mem_chain ht hb⟩
      eq_of_id := fun ht hu hid => hone _ ht _ hu hid }

/-- Sharing is invisible: with one layout for each identity, every request that has returned, a
thread's own or one made for a base, has the outcome of a build; and a thread that has taken as many
steps as its requests take at most has answered all of them, in their order, with these outcomes. -/
theorem run_transparent (requests : List (List Request))
    (hone : ∀ t ∈ tables requests, ∀ u ∈ tables requests, t.id = u.id → t = u)
    (schedule : List Nat) :
    let m := (start .empty requests).run schedule
    (∀ q a, (q, a) ∈ m.returned → a.map (·.map) = KeyMap.build q.casing q.layout) ∧
    ∀ i todo, requests[i]? = some todo → (todo.map (·.work)).sum ≤ schedule.count i →
      ∃ t, m.threads[i]? = some t ∧ t.pending = [] ∧ t.todo = [] ∧
        t.answered.reverse.map (fun (q, a) => (q, a.map (·.map))) =
          todo.map fun q => (q, KeyMap.build q.casing q.layout) := by
  intro m
  have hserved : ∀ todo ∈ requests, ∀ q ∈ todo, q.layout ∈ tables requests :=
    fun todo htodo q hq => mem_tables htodo hq
  have hbuild := build_hereditary hone
  refine ⟨fun q a hret => run_returned hbuild hserved hret, fun i todo htodo hsteps => ?_⟩
  obtain ⟨t, ht, hp, hdone, hans⟩ := run_answers hbuild hserved htodo hsteps
  refine ⟨t, ht, hp, hdone, ?_⟩
  have hthread := (run_upholds hbuild hserved schedule).threads t (List.mem_of_getElem? ht)
  rw [← hans, List.map_map]
  refine List.map_congr_left fun x hx => ?_
  have hx' := hthread.returned x (hthread.answered x (List.mem_reverse.1 hx))
  exact Prod.ext rfl hx'

/-! ## Two types with one base -/

/-- A type that two others embed. -/
def sampleParty : Layout :=
  .root ⟨"Party", 1, .record, [⟨"name", none, {}, "alloc::string::String", .slot 0, []⟩], []⟩

/-- A type with a key of its own and the one of its base. -/
def samplePatient : Layout :=
  .embedding ⟨"Patient", 2, .record, [⟨"ward", none, {}, "u32", .slot 0, []⟩], []⟩ "party"
    sampleParty

/-- A type without a key map: it has a key of the name that its base uses. -/
def sampleNamesake : Layout :=
  .embedding ⟨"Namesake", 3, .record, [⟨"alias", some "name", {}, "u32", .slot 0, []⟩], []⟩
    "party" sampleParty

/-- The requests of two threads that meet at the base and ask for the type that fails. -/
def sampleRequests : List (List Request) :=
  [[⟨samplePatient, .exact⟩, ⟨sampleNamesake, .exact⟩], [⟨sampleNamesake, .exact⟩, ⟨sampleParty, .folded⟩]]

theorem run_transparent_siblings :
    let m := (start .empty sampleRequests).run (List.replicate 10 [0, 1]).flatten
    (∀ t ∈ tables sampleRequests, ∀ u ∈ tables sampleRequests, t.id = u.id → t = u) ∧
    KeyMap.build .exact sampleNamesake =
      .error (.sameName "Namesake" (some "name") ⟨"Party", "name"⟩ ⟨"Namesake", "alias"⟩ .exact) ∧
    ∃ t, m.threads[0]? = some t ∧ t.pending = [] ∧ t.todo = [] ∧
      t.answered.reverse.map (fun (q, a) => (q, a.map (·.map))) =
        [(⟨samplePatient, .exact⟩, KeyMap.build .exact samplePatient),
          (⟨sampleNamesake, .exact⟩, KeyMap.build .exact sampleNamesake)] := by
  have hone : ∀ t ∈ tables sampleRequests, ∀ u ∈ tables sampleRequests, t.id = u.id → t = u := by
    decide
  refine ⟨hone, rfl, (run_transparent sampleRequests hone _).2 0 _ rfl ?_⟩
  decide

end Machine

end RecordKeys
