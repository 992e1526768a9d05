/-
Writing a record, with what is left of it. A record is written in place, so there is a record
after a request that failed, too. Here it is carried along whatever the answer is, and nothing is
put back: what a request has written by the time that it fails stays written.
-/
import RecordKeys.View.Overflow

namespace RecordKeys

/-- Exchanges a value with the content of the member. The slot is left with what the exchange leaves
in it, also when the value is handed back. A member that is not reached is not written. -/
def Entry.exchange (e : Entry) (v : Value) (d : Datum) : Replacement :=
  let swap := fun old : Datum =>
    let x := old.exchange d
    some ((x.replaced, x.returned), x.slot)
  match e.revise swap v with
  | some ((replaced, returned), after) => ⟨replaced, returned, after⟩
  | none => ⟨false, d, v⟩

namespace View

/-- What is left of a request: the answer, and the view as it is afterwards. -/
structure Attempt where
  answer : Except ViewError Datum
  after : View

/-- The outcome as a caller has it who is done with a view that a request failed on. -/
def Attempt.result (a : Attempt) : Except ViewError (Datum × View) :=
  a.answer.map fun old => (old, a.after)

/-- Puts a value under a key. The answer is the content that was there before. -/
def trySet (w : View) (key : String) (d : Datum) : Attempt :=
  match w.map.field? key with
  | none => ⟨.error (.unknownKey w.map.layout.name key), w⟩
  | some e =>
    let outcome := e.exchange w.value d
    let answer :=
      if outcome.replaced then .ok outcome.returned else .error (.wrongKind key e.member.typeName)
    ⟨answer, { w with value := outcome.after }⟩

/-- Puts a value under a key, for a caller that expects the old content to be of the same kind. It
is only looked at when the value has been put. -/
def tryInsert (w : View) (key : String) (d : Datum) : Attempt :=
  let attempt := w.trySet key d
  match attempt.answer with
  | .error e => ⟨.error e, attempt.after⟩
  | .ok old =>
    ⟨if old.kind = d.kind then .ok old else .error (.wrongKind key d.kind.name), attempt.after⟩

end View

/-- Puts a value under a key of a record that keeps what it does not know. The answer stands with
what is left of the record. -/
def OpenRecord.trySet (o : OpenRecord) (key : String) (d : Datum) :
    Except ViewError (Option Datum) × OpenRecord :=
  match o.map.field? key with
  | some e =>
    let outcome := e.exchange o.value d
    let answer :=
      if outcome.replaced then .ok (some outcome.returned)
      else .error (.wrongKind key e.member.typeName)
    (answer, { o with value := outcome.after })
  | none =>
    let normal := o.map.casing.normal key
    (.ok (o.extras.get? normal), { o with extras := o.extras.put normal d })

end RecordKeys
