/-
Several threads that share one registry. A request looks the type up in one step; if it is missing
it builds the key map by itself, with a whole request for the base in between, and stores the
result in one more step. Between the steps of one thread the others may take any number of steps.
-/
import RecordKeys.Registry.Basic

namespace RecordKeys

/-- A request for the key map of a type. -/
structure Request where
  layout : Layout
  casing : Casing
  deriving DecidableEq

/-- How far a request has come. -/
inductive Stage
  /-- The type is about to be looked up. -/
  | looking
  /-- The request for the base is under way. -/
  | waiting
  /-- An instance has been built and is about to be stored. -/
  | storing (own : Shared)
  deriving DecidableEq

/-- A request under way. -/
structure Pending where
  request : Request
  stage : Stage
  deriving DecidableEq

/-- A thread: the requests still to be made, those under way with the innermost one first, the
requests that have been answered, and all that have returned, which are these and the ones made for
a base in between. The latest come first. -/
structure Thread where
  todo : List Request
  pending : List Pending
  answered : List (Request × Except Fault Shared)
  returned : List (Request × Except Fault Shared)

/-- A registry and the threads that share it. -/
structure Machine where
  registry : Registry
  threads : List Thread

/-- Notes that a request has returned. -/
def Thread.note (t : Thread) (request : Request) (answer : Except Fault Shared) : Thread :=
  { t with returned := (request, answer) :: t.returned }

/-- What becomes of the requests under way when the innermost one has been answered: the one that
waits for it goes on, and an answer without anything that waits is the thread's own. -/
def Thread.answer (t : Thread) (request : Request) (answer : Except Fault Shared) :
    List Pending → Registry → Thread × Registry
  | [], r =>
    ({ t.note request answer with pending := [], answered := (request, answer) :: t.answered }, r)
  | p :: rest, r =>
    match answer with
    | .error fault => Thread.answer (t.note request answer) p.request (.error fault) rest r
    | .ok s =>
      match KeyMap.complete p.request.layout p.request.casing (some s.map) with
      | .error fault => Thread.answer (t.note request answer) p.request (.error fault) rest r
      | .ok m =>
        let (own, r) := r.mint m
        ({ t.note request answer with pending := ⟨p.request, .storing own⟩ :: rest }, r)

/-- The lookup of the innermost request, and the start of a build if the type is missing. -/
def Thread.look (t : Thread) (q : Request) (rest : List Pending) (r : Registry) :
    Thread × Registry :=
  match r.find? q.casing q.layout.id with
  | some s => t.answer q (.ok s) rest r
  | none =>
    match q.layout.refusal? q.casing with
    | some fault => t.answer q (.error fault) rest r
    | none =>
      match q.layout.base? with
      | some base => ({ t with pending := ⟨⟨base, q.casing⟩, .looking⟩ :: ⟨q, .waiting⟩ :: rest }, r)
      | none =>
        match KeyMap.complete q.layout q.casing none with
        | .error fault => t.answer q (.error fault) rest r
        | .ok m =>
          let (own, r) := r.mint m
          ({ t with pending := ⟨q, .storing own⟩ :: rest }, r)

/-- One step of a thread. A thread with nothing to do stays as it is. -/
def Thread.step (t : Thread) (r : Registry) : Thread × Registry :=
  match t.pending with
  | ⟨q, .looking⟩ :: rest => t.look q rest r
  | ⟨q, .storing own⟩ :: rest =>
    let (stored, r) := r.settle q.casing q.layout.id own
    t.answer q (.ok stored) rest r
  | ⟨_, .waiting⟩ :: _ => (t, r)
  | [] =>
    match t.todo with
    | [] => (t, r)
    | q :: todo => ({ t with todo := todo, pending := [⟨q, .looking⟩] }, r)

namespace Machine

/-- Threads that have not begun, each with the requests that it is going to make. -/
def start (r : Registry) (requests : List (List Request)) : Machine :=
  ⟨r, requests.map fun todo => ⟨todo, [], [], []⟩⟩

/-- One step of the thread at a position. -/
def step (m : Machine) (i : Nat) : Machine :=
  match m.threads[i]? with
  | none => m
  | some t =>
    let (t, r) := t.step m.registry
    ⟨r, m.threads.set i t⟩

/-- The steps of the threads in a given order. -/
def run (m : Machine) (schedule : List Nat) : Machine := schedule.foldl step m

/-- The answers given to all threads. -/
def answers (m : Machine) : List (Request × Except Fault Shared) :=
  m.threads.flatMap (·.answered)

/-- All requests that have returned, with their answers. -/
def returned (m : Machine) : List (Request × Except Fault Shared) :=
  m.threads.flatMap (·.returned)

end Machine

/-- Threads that ask for the same key map at once, one step each in turn until all have their
answer. A request takes two steps per level of the layout at most, and one to begin. -/
def Registry.race (r : Registry) (casing : Casing) (t : Layout) (threads : Nat) : Machine :=
  (Machine.start r (List.replicate threads [⟨t, casing⟩])).run
    ((List.replicate (2 * t.depth + 1) (List.range threads)).flatten)

end RecordKeys
