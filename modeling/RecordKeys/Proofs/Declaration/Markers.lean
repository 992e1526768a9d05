/-
Which types of fields are taken for markers. Every marker is taken for one; but so is every type in
which the name stands anywhere before the first angle bracket: in what a function returns, behind a
reference or a pointer, among the bounds of a trait object, as the name of a lifetime, or as a
segment of a path that goes on. A field of such a type carries data, and is left out of the keys.

What is looked at is the sequence of trees, so each form of types adds up what its parts say: a part
matters only if no part before it opens an angle bracket.
-/
import RecordKeys.Proofs.Declaration.Fields
import RecordKeys.Proofs.Declaration.Types

namespace RecordKeys

/-! ## Types that are taken for markers -/

/-- Whether one of some segments is `PhantomData`, and none before it has angle brackets. -/
def Segment.Named (segments : List Segment) : Prop :=
  ∃ before s after, segments = before ++ s :: after ∧ s.name = "PhantomData" ∧
    ∀ x ∈ before, ¬ x.IsAngled

/-- Whether a type is taken for a marker without being one. -/
def TypeForm.Mistaken : TypeForm → Prop
  | path p => Segment.Named p.segments ∧ ¬ p.IsMarker
  | invocation p _ _ => Segment.Named p.segments
  | reference named _ target =>
    named = some "PhantomData" ∨ target.IsMarker ∨ target.Mistaken
  | pointer _ target => target.IsMarker ∨ target.Mistaken
  | returning callee result =>
    (callee.IsMarker ∨ callee.Mistaken) ∨
      Unangled callee.tokens ∧ (result.IsMarker ∨ result.Mistaken)
  | traits _ bounds => bounds.IsMarker ∨ bounds.Mistaken
  | sum first rest =>
    (first.IsMarker ∨ first.Mistaken) ∨ Unangled first.tokens ∧ (rest.IsMarker ∨ rest.Mistaken)
  | trailing bounds => bounds.IsMarker ∨ bounds.Mistaken
  | lifetime name => name = "PhantomData"
  | relaxed bound => bound.IsMarker ∨ bound.Mistaken
  | _ => False

/-! ## Names before the first angle bracket -/

@[simp] theorem isMarkerType_cons (t : Tree) (rest : List Tree) :
    isMarkerType (t :: rest) ↔
      t.isIdent "PhantomData" ∨ t.isPunct '<' = false ∧ isMarkerType rest := by
  unfold isMarkerType
  cases ht : t.isPunct '<' with
  | false => simp [ht]
  | true =>
    have hident : t.isIdent "PhantomData" = false := by
      cases t <;> simp_all [Tree.isPunct, Tree.isIdent]
    simp [ht, hident]

@[simp] theorem not_isMarkerType_nil : isMarkerType [] = false := rfl

/-- The second part of a sequence matters if the first one opens no bracket. -/
@[simp] theorem isMarkerType_append (trees more : List Tree) :
    isMarkerType (trees ++ more) ↔ isMarkerType trees ∨ Unangled trees ∧ isMarkerType more := by
  induction trees with
  | nil => simp [Unangled]
  | cons t trees ih =>
    rw [List.cons_append, isMarkerType_cons, isMarkerType_cons, ih, Unangled, Unangled,
      List.forall_mem_cons]
    tauto

/-! ### Paths -/

/-- The arguments of a segment are never taken for the name of a marker. -/
theorem isMarkerType_arguments (arguments : Segment.Arguments) :
    isMarkerType arguments.tokens = false := by
  rcases arguments with _ | ⟨marked, arguments⟩ | ⟨marked, parameters⟩
  · rfl
  · cases marked <;> rfl
  · cases marked <;> rfl

theorem unangled_tokens_iff (s : Segment) : Unangled s.tokens ↔ ¬ s.IsAngled := by
  obtain ⟨name, arguments, free⟩ := s
  rcases arguments with _ | ⟨marked, arguments⟩ | ⟨marked, parameters⟩
  · simp [Unangled, Segment.tokens, Segment.Arguments.tokens, Segment.IsAngled, Tree.isPunct]
  · refine iff_of_false (fun h => ?_) fun h => h ⟨marked, arguments, rfl⟩
    have hopen := h (.punct '<' false) (by simp [Segment.tokens, Segment.Arguments.tokens,
      Angled.tokens])
    cases hopen
  · cases marked <;>
      simp [Unangled, Segment.tokens, Segment.Arguments.tokens, Segment.IsAngled, Tree.isPunct,
        colons]

theorem isMarkerType_segment (s : Segment) :
    isMarkerType s.tokens ↔ s.name = "PhantomData" := by
  rw [Segment.tokens, isMarkerType_cons, isMarkerType_arguments]
  simp [Tree.isIdent]

theorem isMarkerType_colons_append (trees : List Tree) :
    isMarkerType (colons ++ trees) = isMarkerType trees := rfl

theorem named_cons (x : Segment) (segments : List Segment) :
    Segment.Named (x :: segments) ↔
      x.name = "PhantomData" ∨ ¬ x.IsAngled ∧ Segment.Named segments := by
  constructor
  · rintro ⟨before, s, after, hsplit, hname, hbefore⟩
    cases before with
    | nil => cases hsplit; exact .inl hname
    | cons y before =>
      cases hsplit
      obtain ⟨hx, hbefore⟩ := List.forall_mem_cons.1 hbefore
      exact .inr ⟨hx, before, s, after, rfl, hname, hbefore⟩
  · rintro (hname | ⟨hx, before, s, after, rfl, hname, hbefore⟩)
    · exact ⟨[], x, segments, rfl, hname, nofun⟩
    · exact ⟨x :: before, s, after, rfl, hname, List.forall_mem_cons.2 ⟨hx, hbefore⟩⟩

theorem isMarkerType_segments (init : List Segment) (last : Segment) :
    isMarkerType (init.flatMap (fun s => s.tokens ++ colons) ++ last.tokens) ↔
      Segment.Named (init ++ [last]) := by
  induction init with
  | nil =>
    have hnone : ¬ Segment.Named [] := by rintro ⟨before, s, after, hsplit, -⟩; simp at hsplit
    rw [List.flatMap_nil, List.nil_append, isMarkerType_segment, List.nil_append, named_cons]
    simp [hnone]
  | cons x init ih =>
    rw [List.flatMap_cons, List.append_assoc, List.append_assoc, isMarkerType_append,
      isMarkerType_segment, isMarkerType_colons_append, unangled_tokens_iff, ih, List.cons_append,
      named_cons]

/-- A path is taken for a marker if one of its segments has the name, and no angle bracket comes
before it. -/
theorem isMarkerType_path (p : Path) : isMarkerType p.tokens ↔ Segment.Named p.segments := by
  have hlead : isMarkerType p.tokens =
      isMarkerType (p.init.flatMap (fun s => s.tokens ++ colons) ++ p.last.tokens) := by
    rw [Path.tokens, List.append_assoc]
    cases p.leading <;> rfl
  rw [hlead, isMarkerType_segments, Path.segments]

/-- Every marker is taken for one. -/
theorem Path.IsMarker.named {p : Path} (h : p.IsMarker) : Segment.Named p.segments := by
  obtain ⟨hname, hplain, -⟩ := h
  refine ⟨p.init, p.last, [], rfl, hname, fun x hx => ?_⟩
  rintro ⟨marked, arguments, hangled⟩
  rw [hplain x hx] at hangled
  cases hangled

/-! ### Types -/

/-- A type is taken for a marker if it is one or is mistaken for one. -/
theorem isMarkerType_tokens (f : TypeForm) : isMarkerType f.tokens ↔ f.IsMarker ∨ f.Mistaken := by
  induction f with
  | path p =>
    have hnamed := @Path.IsMarker.named p
    rw [TypeForm.tokens, isMarkerType_path, TypeForm.IsMarker, TypeForm.Mistaken]
    tauto
  | returning callee result ihc ihr =>
    have harrow : isMarkerType (arrow ++ result.tokens) = isMarkerType result.tokens := rfl
    rw [TypeForm.tokens, List.append_assoc, isMarkerType_append, harrow, ihc, ihr]
    simp [TypeForm.IsMarker, TypeForm.Mistaken]
  | sum first rest ihf ihr =>
    simp [TypeForm.tokens, TypeForm.IsMarker, TypeForm.Mistaken, Tree.isIdent, Tree.isPunct, ihf, ihr]
  -- the words and marks before a type, or before a group of trees, are passed over
  | invocation p delimiter body =>
    simp [TypeForm.tokens, TypeForm.IsMarker, TypeForm.Mistaken, Tree.isIdent, isMarkerType_path]
  | reference named exclusive target ih =>
    cases named <;> cases exclusive <;>
      simp [TypeForm.tokens, TypeForm.IsMarker, TypeForm.Mistaken, Tree.isIdent, Tree.isPunct, ih]
  | pointer exclusive target ih =>
    cases exclusive <;>
      simp [TypeForm.tokens, TypeForm.IsMarker, TypeForm.Mistaken, Tree.isIdent, Tree.isPunct, ih]
  | traits hidden bounds ih =>
    cases hidden <;>
      simp [TypeForm.tokens, TypeForm.IsMarker, TypeForm.Mistaken, Tree.isIdent, Tree.isPunct, ih]
  | trailing bounds ih | relaxed bound ih =>
    simp [TypeForm.tokens, TypeForm.IsMarker, TypeForm.Mistaken, Tree.isIdent, Tree.isPunct, ih]
  | lifetime name =>
    simp [TypeForm.tokens, TypeForm.IsMarker, TypeForm.Mistaken, Tree.isIdent, Tree.isPunct]
  -- nothing is named before the first angle bracket of the others, if they have one
  | function guarded abi parameters =>
    rcases abi with _ | _ | text <;> cases guarded <;>
      simp [TypeForm.tokens, TypeForm.IsMarker, TypeForm.Mistaken, Tree.isIdent]
  | projection | group | never | inferred | binding | captures =>
    simp [TypeForm.tokens, TypeForm.IsMarker, TypeForm.Mistaken, Tree.isIdent, Tree.isPunct,
      Angled.tokens]

/-! ## Spacing -/

/-- Two trees that are the same but for the spacing of a mark. -/
inductive Tree.Alike : Tree → Tree → Prop
  | refl (t : Tree) : Alike t t
  | punct (mark : Char) (joint other : Bool) : Alike (.punct mark joint) (.punct mark other)

theorem isMarkerType_of_alike {trees others : List Tree}
    (h : List.Forall₂ Tree.Alike trees others) : isMarkerType trees ↔ isMarkerType others := by
  induction h with
  | nil => rfl
  | cons hab _ ih =>
    rw [isMarkerType_cons, isMarkerType_cons, ih]
    cases hab <;> rfl

/-! ## Marks of fields -/

theorem Row.synthetic_mem_marks {row : Row} : "SYNTHETIC" ∈ row.marks ↔ isMarkerType row.type := by
  cases h : isMarkerType row.type <;> simp [marks, Expansion.marks?_flags, isMarker, h]

theorem TypeForm.Mistaken.not_isMarker {f : TypeForm} (h : f.Mistaken) : ¬ f.IsMarker := by
  cases f with
  | path p => exact h.2
  | _ => exact id

/-- A field is marked as one without data exactly if its type is a marker or is mistaken for one,
however its marks are spaced. No type is both, and the trees of a type say whether it is a marker,
in whatever way they are read. -/
theorem TypeForm.marked_iff (f : TypeForm) {trees : List Tree}
    (h : List.Forall₂ Tree.Alike f.tokens trees) :
    (isMarkerType trees ↔ f.IsMarker ∨ f.Mistaken) ∧
    (∀ row : Row, row.type = trees → ("SYNTHETIC" ∈ row.marks ↔ f.IsMarker ∨ f.Mistaken)) ∧
    ¬ (f.IsMarker ∧ f.Mistaken) ∧
    ∀ g : TypeForm, g.tokens = f.tokens → (g.IsMarker ↔ f.IsMarker) := by
  have htaken : isMarkerType trees ↔ f.IsMarker ∨ f.Mistaken :=
    (isMarkerType_of_alike h).symm.trans (isMarkerType_tokens f)
  refine ⟨htaken, fun row hrow => ?_, fun hboth => hboth.2.not_isMarker hboth.1,
    fun g hg => ⟨fun hg' => hg'.of_tokens_eq hg.symm, fun hf => hf.of_tokens_eq hg⟩⟩
  rw [Row.synthetic_mem_marks, hrow, htaken]

/-- One name between angle brackets. -/
def Angled.single (name : String) : Angled where
  body := [.ident name]
  closed := rfl
  inside before h := by
    rcases List.prefix_cons_iff.1 h with rfl | ⟨rest, rfl, hrest⟩
    · decide
    · rw [List.prefix_nil.1 hrest]
      exact Nat.one_ne_zero

/-- The type `PhantomData<u8>`. -/
def sampleMarker : TypeForm :=
  .path ⟨false, [], ⟨"PhantomData", .angled false (.single "u8"), by decide⟩⟩

/-- The type `fn() -> PhantomData<u8>`, of which every value is a function. -/
def sampleMaker : TypeForm := .returning (.function false none []) sampleMarker

/-- The type `fn()->&PhantomData<u8>`, in which the second half of the arrow is a joint mark. -/
theorem TypeForm.marked_iff_lender :
    let f : TypeForm := .returning (.function false none []) (.reference none false sampleMarker)
    let type : List Tree := [.ident "fn", .group .paren [], .punct '-' true, .punct '>' true,
      .punct '&' false, .ident "PhantomData", .punct '<' false, .ident "u8", .punct '>' false]
    List.Forall₂ Tree.Alike f.tokens type ∧ isMarkerType type ∧ f.Mistaken ∧ ¬ f.IsMarker := by
  intro f type
  have halike : List.Forall₂ Tree.Alike f.tokens type :=
    .cons (.refl _) <| .cons (.refl _) <| .cons (.refl _) <| .cons (.punct '>' false true) <|
    .cons (.refl _) <| .cons (.refl _) <| .cons (.refl _) <| .cons (.refl _) <| .cons (.refl _) .nil
  obtain ⟨hiff, -, hboth, -⟩ := f.marked_iff halike
  have hmistaken : f.Mistaken :=
    .inr ⟨by decide, .inr (.inr (.inl ⟨rfl, nofun, .inr ⟨_, _, rfl⟩⟩))⟩
  exact ⟨halike, hiff.2 (.inr hmistaken), hmistaken, fun hmarker => hboth ⟨hmarker, hmistaken⟩⟩

/-- A field that holds a function which returns a marker is marked as one without data, and so are
types that point to a marker and a path that goes on behind one. -/
theorem TypeForm.marked_maker :
    ¬ sampleMaker.IsMarker ∧
    (∃ code row, Declaration.expand [.ident "struct", .ident "S", .group .brace
        (.ident "make" :: .punct ':' false :: sampleMaker.tokens)] = .ok code ∧
      Expansion.itemsOf (Expansion.value code "fields") = [Expansion.field row] ∧
      row.name = "make" ∧ row.type = sampleMaker.tokens ∧ row.marks = ["SYNTHETIC"]) ∧
    ∀ f ∈ [sampleMaker, .reference (some "static") false sampleMarker, .pointer false sampleMarker,
        .path ⟨false, [⟨"PhantomData", .angled false (.single "u8"), by decide⟩],
          ⟨"Item", .none, by decide⟩⟩],
      ¬ f.IsMarker ∧ isMarkerType f.tokens := by
  refine ⟨id, ⟨_, ⟨0, "make", (Traits.ofAttributes []).1, sampleMaker.tokens⟩, rfl, rfl, rfl, rfl,
    rfl⟩, ?_⟩
  simp only [List.forall_mem_cons]
  exact ⟨⟨id, rfl⟩, ⟨id, rfl⟩, ⟨id, rfl⟩, ⟨fun h => absurd h.1 (by decide), rfl⟩, nofun⟩

end RecordKeys
