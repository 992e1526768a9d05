/-
Views that are opened through a registry. What a registry stores under an identity and a casing is a
key map of a type of that identity in that casing, however requests and threads have come to it, and
also if several layouts share the identity. So the key map that a registry answers with is always one
of the type of the instance, and a view is never refused for another type: it is refused if the type
has no key map, or if the key map is the one of an enumeration, and opened otherwise.
-/
import RecordKeys.Proofs.Registry.Reached
import RecordKeys.View.Basic

namespace RecordKeys

/-! ## What is stored for a request -/

/-- A key map is of the type and in the casing that a request asks for. -/
def Request.IsMetBy (q : Request) (m : KeyMap) : Prop :=
  m.layout.id = q.layout.id ∧ m.casing = q.casing

/-- That a key map is of the type and in the casing that was asked for is hereditary: whoever shares
the identity of the type has asked for the same. -/
theorem Request.isMetBy_hereditary :
    Hereditary (fun _ => True) fun q a => ∀ m, a = .ok m → q.IsMetBy m where
  base _ _ := trivial
  refused _ _ _ h := by cases h
  failed _ _ _ _ _ h := by cases h
  alone _ _ _ _ h := by
    obtain ⟨hlayout, hcasing, -⟩ := KeyMap.complete_eq_ok_iff.1 h
    exact ⟨congrArg Layout.id hlayout, hcasing⟩
  completed _ _ _ _ _ h := by
    obtain ⟨hlayout, hcasing, -⟩ := KeyMap.complete_eq_ok_iff.1 h
    exact ⟨congrArg Layout.id hlayout, hcasing⟩
  shared _ _ hid h m hm := ⟨(h m hm).1.trans hid, (h m hm).2⟩

namespace Registry

variable {r : Registry} {casing : Casing}

/-- What is stored under an identity and a casing is a key map of such a type in that casing. -/
theorem Reached.find?_filed (hr : r.Reached fun _ => True) {id : TypeId} {s : Shared}
    (hs : r.find? casing id = some s) : s.map.layout.id = id ∧ s.map.casing = casing := by
  obtain ⟨t, -, rfl, hmet⟩ := hr.upholds Request.isMetBy_hereditary casing id s hs
  exact hmet s.map rfl

theorem Reached.answer_isMetBy (hr : r.Reached fun _ => True) {t : Layout} {s : Shared}
    (hs : (r.resolve casing t).answer = .ok s) : (Request.mk t casing).IsMetBy s.map :=
  hr.answer Request.isMetBy_hereditary trivial casing s.map (by rw [hs]; rfl)

end Registry

theorem Machine.returned_isMetBy {requests : List (List Request)} {schedule : List Nat} {q : Request}
    {s : Shared} (h : (q, .ok s) ∈ ((start .empty requests).run schedule).returned) :
    q.IsMetBy s.map :=
  run_returned Request.isMetBy_hereditary (fun _ _ _ _ => trivial) h s.map rfl

namespace View

variable {i : Instance} {answer : Except Fault Shared}

/-! ## Opening -/

/-- How a view of an instance is opened with the answer to a request: it fails as the request does,
it is refused if the key map is the one of an enumeration, and otherwise it is opened. -/
structure Opens (i : Instance) (answer : Except Fault Shared) (view : Except ViewError View) :
    Prop where
  failed : ∀ fault, view = .error (.noKeyMap fault) ↔ answer = .error fault
  notRecord : ∀ type, view = .error (.notRecord type) ↔
    type = i.layout.name ∧ ∃ s, answer = .ok s ∧ s.map.layout.isEnum
  opened : ∀ w, view = .ok w ↔
    ∃ s, answer = .ok s ∧ s.map.layout.isEnum = false ∧ w = ⟨s.map, i.value⟩
  /-- The key map is never that of another type. -/
  sameType : ∀ expected actual, view ≠ .error (.otherType expected actual)

theorem ofInstance_of_id_eq {m : KeyMap} (h : m.layout.id = i.layout.id) :
    ofInstance i m = if m.layout.isEnum then .error (.notRecord i.layout.name)
      else .ok ⟨m, i.value⟩ := by
  have hsame : m.layout.sameType i.layout = true := beq_iff_eq.2 h
  simp only [ofInstance, hsame, Bool.not_true, Bool.false_eq_true, if_false]

/-- With a key map of the type of the instance a view is not refused for another type. -/
theorem ofAnswer_opens (h : ∀ s, answer = .ok s → s.map.layout.id = i.layout.id) :
    Opens i answer (ofAnswer i answer) := by
  cases answer with
  | error fault =>
    exact {
      failed := by simp [ofAnswer]
      notRecord := by simp [ofAnswer]
      opened := by simp [ofAnswer]
      sameType := by simp [ofAnswer] }
  | ok s =>
    have hview : ofAnswer i (.ok s) = _ := ofInstance_of_id_eq (h s rfl)
    cases hform : s.map.layout.isEnum with
    | true =>
      rw [hform, if_pos rfl] at hview
      exact {
        failed := by simp [hview]
        notRecord := fun type => by simpa [hview, hform] using eq_comm
        opened := by simp [hview, hform]
        sameType := by simp [hview] }
    | false =>
      rw [hform, if_neg Bool.false_ne_true] at hview
      exact {
        failed := by simp [hview]
        notRecord := by simp [hview, hform]
        opened := fun w => by simpa [hview, hform] using eq_comm
        sameType := by simp [hview] }

/-- Whatever requests have been made to a registry, one after the other or by threads in any order of
their steps, and whatever identities their layouts share: what is stored under an identity and a
casing is of a type of that identity and in that casing, and so is what is answered. So to open a view
through the registry, or with an answer that a thread has come by, fails exactly as the request fails,
refuses exactly the key maps of enumerations, and never meets the key map of another type. -/
theorem opened_through_registry :
    (∀ r : Registry, r.Reached (fun _ => True) →
      (∀ casing id s, r.find? casing id = some s →
        s.map.layout.id = id ∧ s.map.casing = casing) ∧
      (∀ casing t s, (r.resolve casing t).answer = .ok s →
        s.map.layout.id = t.id ∧ s.map.casing = casing) ∧
      ∀ casing i, Opens i (r.resolve casing i.layout).answer (ofRegistry r casing i).view) ∧
    ∀ requests schedule q answer,
      (q, answer) ∈ ((Machine.start .empty requests).run schedule).returned →
      (∀ s, answer = .ok s → s.map.layout.id = q.layout.id ∧ s.map.casing = q.casing) ∧
      ∀ i : Instance, i.layout = q.layout → Opens i answer (ofAnswer i answer) := by
  refine ⟨fun r hr => ⟨fun casing id s hs => hr.find?_filed hs,
    fun casing t s hs => hr.answer_isMetBy hs, fun casing i => ?_⟩,
    fun requests schedule q answer hret => ?_⟩
  · exact ofAnswer_opens fun s hs => (hr.answer_isMetBy hs).1
  · have hmet : ∀ s, answer = .ok s → q.IsMetBy s.map := fun s hs =>
      Machine.returned_isMetBy (hs ▸ hret)
    refine ⟨hmet, fun i hi => ofAnswer_opens fun s hs => ?_⟩
    rw [hi]
    exact (hmet s hs).1

/-! ## Layouts that share an identity -/

/-- A record and an enumeration of one identity. -/
def sampleLamp : Layout :=
  .root ⟨"Lamp", 1, .record, [⟨"watts", none, {}, "u32", .slot 0, []⟩], []⟩

def sampleShade : Layout :=
  .root ⟨"Shade", 1, .enumeration, [⟨"Dim", none, {}, "Shade", .variant 0, []⟩], []⟩

/-- The enumeration is stored first, so a view of the record is refused as one of an enumeration; in
the other casing it is opened. So it is if threads ask for both. -/
theorem opened_through_registry_lamp :
    (ofRegistry (Registry.empty.resolve .exact sampleShade).registry .exact
      ⟨sampleLamp, .root 1 (.slots [some (.u32 5)])⟩).view = .error (.notRecord "Lamp") ∧
    (∃ w, (ofRegistry (Registry.empty.resolve .exact sampleShade).registry .folded
      ⟨sampleLamp, .root 1 (.slots [some (.u32 5)])⟩).view = .ok w) ∧
    ∃ s, (⟨sampleLamp, .exact⟩, .ok s) ∈ ((Machine.start .empty
        [[⟨sampleShade, .exact⟩], [⟨sampleLamp, .exact⟩]]).run [0, 1, 0, 1, 0, 1]).returned ∧
      s.map.layout = sampleShade ∧
      ofAnswer ⟨sampleLamp, .root 1 (.slots [some (.u32 5)])⟩ (.ok s) =
        .error (.notRecord "Lamp") := by
  obtain ⟨hregistry, hthreads⟩ := opened_through_registry
  obtain ⟨-, -, hopens⟩ := hregistry _ (.resolve (t := sampleShade) .exact .empty trivial)
  refine ⟨?_, ?_, ?_⟩
  · exact ((hopens .exact _).notRecord "Lamp").2 ⟨rfl, _, rfl, rfl⟩
  · exact ⟨_, ((hopens .folded _).opened _).2 ⟨_, rfl, rfl, rfl⟩⟩
  · have hret : (⟨sampleLamp, .exact⟩, .ok _) ∈ ((Machine.start .empty
        [[⟨sampleShade, .exact⟩], [⟨sampleLamp, .exact⟩]]).run [0, 1, 0, 1, 0, 1]).returned :=
      .tail _ List.mem_cons_self
    obtain ⟨-, hopens⟩ := hthreads _ _ _ _ hret
    exact ⟨_, hret, rfl, ((hopens ⟨sampleLamp, _⟩ rfl).notRecord "Lamp").2 ⟨rfl, _, rfl, rfl⟩⟩

end View

end RecordKeys
