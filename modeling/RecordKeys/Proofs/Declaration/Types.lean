/-
The types of fields as they are written. Forms are written in a way that covers all types and more:
what stands between brackets is not looked into, but angle brackets close where they should, and the
words with which other types begin are no names. A marker is a path that ends in `PhantomData`,
whatever its arguments are. That a type is a marker is settled by its trees: the first angle bracket
that is opened closes at the same place in every reading, and nothing follows it in a marker.
-/
import Mathlib.Data.List.TakeWhile
import RecordKeys.Proofs.Declaration.Splitting

namespace RecordKeys

/-! ## Paths -/

/-- What stands between two angle brackets. It closes all brackets that it opens and no other; of an
arrow, the second half is no bracket. -/
structure Angled where
  body : List Tree
  closed : Scan.through ⟨1, false⟩ body = ⟨1, false⟩
  inside : ∀ before, before <+: body → (Scan.through ⟨1, false⟩ before).depth ≠ 0

/-- Arguments between angle brackets. -/
def Angled.tokens (a : Angled) : List Tree := .punct '<' false :: a.body ++ [.punct '>' false]

/-- The mark between two segments. -/
def colons : List Tree := [.punct ':' true, .punct ':' false]

/-- The mark before what a function returns. -/
def arrow : List Tree := [.punct '-' true, .punct '>' false]

/-- The arguments of a segment: none, those of a type, or those of a function. The last two may
stand behind a mark of their own. -/
inductive Segment.Arguments
  | none
  | angled (marked : Bool) (arguments : Angled)
  | called (marked : Bool) (parameters : List Tree)

/-- The words with which types begin that are no paths. -/
def reserved : List String := ["_", "dyn", "extern", "fn", "for", "impl", "unsafe", "use"]

/-- A segment of a path. -/
structure Segment where
  name : String
  arguments : Segment.Arguments
  free : name ∉ reserved

/-- A path, with the mark at the beginning or without. -/
structure Path where
  leading : Bool
  init : List Segment
  last : Segment

namespace Segment

def Arguments.tokens : Arguments → List Tree
  | none => []
  | angled marked arguments => (if marked then colons else []) ++ arguments.tokens
  | called marked parameters => (if marked then colons else []) ++ [.group .paren parameters]

def tokens (s : Segment) : List Tree := .ident s.name :: s.arguments.tokens

/-- Whether a segment has arguments between angle brackets. -/
def IsAngled (s : Segment) : Prop := ∃ marked arguments, s.arguments = .angled marked arguments

end Segment

namespace Path

def segments (p : Path) : List Segment := p.init ++ [p.last]

def tokens (p : Path) : List Tree :=
  (if p.leading then colons else []) ++ p.init.flatMap (fun s => s.tokens ++ colons) ++ p.last.tokens

/-- Whether a path is the one of a marker: the last segment is `PhantomData`, and it alone may have
arguments, which stand between angle brackets. -/
def IsMarker (p : Path) : Prop :=
  p.last.name = "PhantomData" ∧ (∀ s ∈ p.init, s.arguments = .none) ∧
    (p.last.arguments = .none ∨ p.last.IsAngled)

end Path

/-! ## Types -/

/-- How a type is written, or a bound in one. -/
inductive TypeForm
  /-- `a::B<C>`, `Fn(A)` -/
  | path (path : Path)
  /-- `<A as B>::C` -/
  | projection (self : Angled) (path : Path)
  /-- `(A)`, `(A, B)`, `[A]`, `[A; n]`, or a group that is not to be seen -/
  | group (delimiter : Delimiter) (body : List Tree)
  /-- `!` -/
  | never
  /-- `_` -/
  | inferred
  /-- `a!(b)` -/
  | invocation (path : Path) (delimiter : Delimiter) (body : List Tree)
  /-- `&'a mut A` -/
  | reference (lifetime : Option String) (exclusive : Bool) (target : TypeForm)
  /-- `*const A`, `*mut A` -/
  | pointer (exclusive : Bool) (target : TypeForm)
  /-- `unsafe extern "C" fn(A)` -/
  | function (guarded : Bool) (abi : Option (Option String)) (parameters : List Tree)
  /-- `fn(A) -> B`, `Fn(A) -> B` -/
  | returning (callee result : TypeForm)
  /-- `for<'a> A` -/
  | binding (parameters : Angled) (body : TypeForm)
  /-- `impl A`, `dyn A` -/
  | traits (hidden : Bool) (bounds : TypeForm)
  /-- `A + B` -/
  | sum (first rest : TypeForm)
  /-- `A +` -/
  | trailing (bounds : TypeForm)
  /-- `'a` -/
  | lifetime (name : String)
  /-- `?A` -/
  | relaxed (bound : TypeForm)
  /-- `use<A>` -/
  | captures (arguments : Angled)

namespace TypeForm

/-- The trees of a type. -/
def tokens : TypeForm → List Tree
  | path p => p.tokens
  | projection self p => self.tokens ++ colons ++ p.tokens
  | group delimiter body => [.group delimiter body]
  | never => [.punct '!' false]
  | inferred => [.ident "_"]
  | invocation p delimiter body => p.tokens ++ [.punct '!' false, .group delimiter body]
  | reference none exclusive target =>
    .punct '&' false :: (if exclusive then [.ident "mut"] else []) ++ target.tokens
  | reference (some name) exclusive target =>
    .punct '&' false :: .punct '\'' true :: .ident name ::
      (if exclusive then [.ident "mut"] else []) ++ target.tokens
  | pointer exclusive target =>
    .punct '*' false :: .ident (if exclusive then "mut" else "const") :: target.tokens
  | function guarded abi parameters =>
    (if guarded then [.ident "unsafe"] else []) ++
      (match abi with
        | none => []
        | some none => [.ident "extern"]
        | some (some text) => [.ident "extern", .literal text]) ++
      [.ident "fn", .group .paren parameters]
  | returning callee result => callee.tokens ++ arrow ++ result.tokens
  | binding parameters body => .ident "for" :: parameters.tokens ++ body.tokens
  | traits hidden bounds => .ident (if hidden then "impl" else "dyn") :: bounds.tokens
  | sum first rest => first.tokens ++ .punct '+' false :: rest.tokens
  | trailing bounds => bounds.tokens ++ [.punct '+' false]
  | lifetime name => [.punct '\'' true, .ident name]
  | relaxed bound => .punct '?' false :: bound.tokens
  | captures arguments => .ident "use" :: arguments.tokens

/-- Whether a type is a marker. -/
def IsMarker : TypeForm → Prop
  | path p => p.IsMarker
  | _ => False

end TypeForm

/-- No tree of a sequence opens an angle bracket. -/
def Unangled (trees : List Tree) : Prop := ∀ t ∈ trees, t.isPunct '<' = false

instance (trees : List Tree) : Decidable (Unangled trees) := List.decidableBAll _ trees

/-! ## Reading types in one way -/

/-- A sequence opens no angle bracket, or closes the first one that it opens. -/
def Closing (trees : List Tree) : Prop :=
  Unangled trees ∨ ∃ before after, ∃ a : Angled, Unangled before ∧
    trees = before ++ a.tokens ++ after

theorem Unangled.append {trees more : List Tree} (h : Unangled trees) (h' : Unangled more) :
    Unangled (trees ++ more) :=
  List.forall_mem_append.2 ⟨h, h'⟩

theorem Closing.append {trees more : List Tree} (h : Closing trees) (h' : Closing more) :
    Closing (trees ++ more) := by
  rcases h with h | ⟨before, after, a, hbefore, rfl⟩
  · rcases h' with h' | ⟨before, after, a, hbefore, rfl⟩
    · exact .inl (h.append h')
    · exact .inr ⟨trees ++ before, after, a, h.append hbefore, by simp only [List.append_assoc]⟩
  · exact .inr ⟨before, after ++ more, a, hbefore, by simp only [List.append_assoc]⟩

theorem Angled.closing (a : Angled) : Closing a.tokens :=
  .inr ⟨[], [], a, nofun, by rw [List.nil_append, List.append_nil]⟩

theorem Closing.cons {t : Tree} {trees : List Tree} (ht : t.isPunct '<' = false)
    (h : Closing trees) : Closing (t :: trees) :=
  have hhead : Closing [t] := .inl (List.forall_mem_singleton.2 ht)
  hhead.append h

theorem closing_colons (marked : Bool) : Closing (if marked then colons else []) :=
  .inl (by cases marked <;> decide)

theorem closing_arguments (arguments : Segment.Arguments) : Closing arguments.tokens := by
  rcases arguments with _ | ⟨marked, arguments⟩ | ⟨marked, parameters⟩
  · exact .inl nofun
  · exact (closing_colons marked).append arguments.closing
  · exact (closing_colons marked).append (.inl (List.forall_mem_singleton.2 rfl))

theorem closing_segments (segments : List Segment) :
    Closing (segments.flatMap fun s => s.tokens ++ colons) := by
  induction segments with
  | nil => exact .inl nofun
  | cons s segments ih =>
    exact (((closing_arguments s.arguments).cons rfl).append (.inl (by decide))).append ih

theorem closing_path (p : Path) : Closing p.tokens :=
  ((closing_colons p.leading).append (closing_segments p.init)).append
    ((closing_arguments p.last.arguments).cons rfl)

/-- Every type closes the first angle bracket that it opens. -/
theorem closing_tokens (f : TypeForm) : Closing f.tokens := by
  induction f with
  | path p => exact closing_path p
  | projection self p => exact (self.closing.append (.inl (by decide))).append (closing_path p)
  | group | never | inferred | lifetime =>
    exact .inl (by simp [Unangled, TypeForm.tokens, Tree.isPunct])
  | invocation p delimiter body =>
    exact (closing_path p).append (.inl (by simp [Unangled, Tree.isPunct]))
  | reference named exclusive target ih =>
    have hmut : Closing ((if exclusive then [.ident "mut"] else []) ++ target.tokens) := by
      cases exclusive
      · exact ih
      · exact ih.cons rfl
    cases named with
    | none => exact hmut.cons rfl
    | some name => exact ((hmut.cons rfl).cons rfl).cons rfl
  | pointer exclusive target ih => exact (ih.cons rfl).cons rfl
  | function guarded abi parameters =>
    rcases abi with _ | _ | text <;> cases guarded <;>
      exact .inl (by simp [Unangled, TypeForm.tokens, Tree.isPunct])
  | returning callee result ihc ihr => exact (ihc.append (.inl (by decide))).append ihr
  | binding parameters body ih => exact (parameters.closing.append ih).cons rfl
  | traits hidden bounds ih => exact ih.cons rfl
  | sum first rest ihf ihr => exact ihf.append (ihr.cons rfl)
  | trailing bounds ih => exact ih.append (.inl (by decide))
  | relaxed bound ih => exact ih.cons rfl
  | captures arguments => exact arguments.closing.cons rfl

/-! ### Markers -/

/-- Whether a tree can stand in a marker outside of angle brackets. -/
def Tree.isOfPath : Tree → Bool
  | ident _ => true
  | punct mark _ => mark == ':'
  | _ => false

theorem Tree.not_isPunct_of_isOfPath {t : Tree} (h : t.isOfPath) : t.isPunct '<' = false := by
  cases t with
  | punct mark joint => rw [beq_iff_eq.1 h]; rfl
  | _ => rfl

/-- A marker has no trees but names and the marks between them, and perhaps angle brackets behind
these. -/
theorem Path.IsMarker.tokens_eq {q : Path} (h : q.IsMarker) :
    ∃ names : List Tree, (∀ t ∈ names, t.isOfPath) ∧
      (q.tokens = names ∨ ∃ a : Angled, q.tokens = names ++ a.tokens) := by
  obtain ⟨leading, init, name, arguments, free⟩ := q
  obtain ⟨-, hplain, hlast⟩ := h
  have hcolons : ∀ marked : Bool, ∀ t ∈ (if marked then colons else []), t.isOfPath := by decide
  have hinit : ∀ t ∈ init.flatMap (fun s => s.tokens ++ colons), t.isOfPath := by
    intro t ht
    obtain ⟨s, hs, ht⟩ := List.mem_flatMap.1 ht
    rw [Segment.tokens, hplain s hs] at ht
    rcases List.mem_cons.1 ht with rfl | ht
    · rfl
    · exact hcolons true t ht
  have hnames : ∀ t ∈ (if leading then colons else []) ++
      init.flatMap (fun s => s.tokens ++ colons) ++ [.ident name], t.isOfPath :=
    List.forall_mem_append.2 ⟨List.forall_mem_append.2 ⟨hcolons leading, hinit⟩,
      List.forall_mem_singleton.2 rfl⟩
  rcases hlast with hnone | ⟨marked, a, hangled⟩
  · simp only at hnone
    subst hnone
    exact ⟨_, hnames, .inl rfl⟩
  · simp only at hangled
    subst hangled
    refine ⟨_, List.forall_mem_append.2 ⟨hnames, hcolons marked⟩, .inr ⟨a, ?_⟩⟩
    simp [Path.tokens, Segment.tokens, Segment.Arguments.tokens]

/-- The bracket at which an angle bracket closes is the same in every reading. -/
theorem Angled.tail_eq_nil {a b : Angled} {rest : List Tree}
    (h : a.tokens = b.tokens ++ rest) : rest = [] := by
  rcases List.eq_nil_or_concat rest with hnil | ⟨rest, last, rfl⟩
  · exact hnil
  · have hbody : a.body = (b.body ++ [.punct '>' false]) ++ rest := by
      simp only [tokens, List.concat_eq_append, List.cons_append, ← List.append_assoc,
        List.cons.injEq, true_and] at h
      rw [(List.append_inj' h rfl).1, List.append_assoc]
    -- the other reading closes the bracket before the end of the body
    have hdepth := a.inside (b.body ++ [.punct '>' false]) ⟨rest, hbody.symm⟩
    rw [Scan.through_append, b.closed] at hdepth
    exact absurd rfl hdepth

/-- The first angle bracket is the same in every reading. -/
theorem Unangled.eq_of_append {before other rest more : List Tree} (hbefore : Unangled before)
    (hother : Unangled other)
    (h : before ++ .punct '<' false :: rest = other ++ .punct '<' false :: more) : rest = more := by
  induction before generalizing other with
  | nil =>
    cases other with
    | nil => exact (List.cons.inj h).2
    | cons t other =>
      rw [List.nil_append, List.cons_append, List.cons.injEq] at h
      have ht := hother t List.mem_cons_self
      rw [← h.1] at ht
      cases ht
  | cons t before ih =>
    obtain ⟨ht, hbefore⟩ := List.forall_mem_cons.1 hbefore
    cases other with
    | nil =>
      rw [List.nil_append, List.cons_append, List.cons.injEq] at h
      rw [h.1] at ht
      cases ht
    | cons u other =>
      rw [List.cons_append, List.cons_append, List.cons.injEq] at h
      exact ih hbefore (List.forall_mem_cons.1 hother).2 h.2

namespace Path.IsMarker

variable {q : Path} {trees rest : List Tree}

/-- Nothing follows the first angle brackets in a marker. -/
theorem unangled_or_eq_nil (h : q.IsMarker) (htrees : Closing trees)
    (heq : q.tokens = trees ++ rest) : Unangled trees ∨ rest = [] := by
  obtain ⟨names, hnames, hq⟩ := h.tokens_eq
  have hunangled : Unangled names := fun t ht => Tree.not_isPunct_of_isOfPath (hnames t ht)
  rcases htrees with htrees | ⟨before, after, b, hbefore, rfl⟩
  · exact .inl htrees
  · rcases hq with hq | ⟨a, hq⟩
    · have hopen := hunangled (.punct '<' false) (by rw [← hq, heq]; simp [Angled.tokens])
      cases hopen
    · have hbody : a.body ++ [.punct '>' false] =
          b.body ++ [.punct '>' false] ++ (after ++ rest) := by
        refine hunangled.eq_of_append hbefore ?_
        rw [hq] at heq
        simpa [Angled.tokens] using heq
      have hrest : after ++ rest = [] :=
        Angled.tail_eq_nil (a := a) (b := b) (congrArg (Tree.punct '<' false :: ·) hbody)
      exact .inr (List.append_eq_nil_iff.1 hrest).2

theorem eq_nil_of_angled (h : q.IsMarker) (htrees : Closing trees) {b : Angled}
    (heq : q.tokens = trees ++ b.tokens ++ rest) : rest = [] := by
  refine (h.unangled_or_eq_nil (htrees.append b.closing) heq).resolve_left fun hnone => ?_
  have hopen := hnone (.punct '<' false) (by simp [Angled.tokens])
  cases hopen

/-- Outside of the angle brackets stand names and the marks between them. -/
theorem isOfPath (h : q.IsMarker) (htrees : Closing trees) {t : Tree} (ht : t.isPunct '<' = false)
    (heq : q.tokens = trees ++ t :: rest) : t.isOfPath := by
  have hunangled : Unangled (trees ++ [t]) :=
    ((h.unangled_or_eq_nil htrees heq).resolve_right (List.cons_ne_nil _ _)).append
      (List.forall_mem_singleton.2 ht)
  obtain ⟨names, hnames, hq⟩ := h.tokens_eq
  refine hnames t ?_
  rcases hq with hq | ⟨a, hq⟩
  · rw [← hq, heq]; simp
  · rw [hq, ← List.singleton_append, ← List.append_assoc] at heq
    rcases List.append_eq_append_iff.1 heq with ⟨mid, hmid, ha⟩ | ⟨mid, rfl, -⟩
    · cases mid with
      | nil => rw [← List.append_nil names, ← hmid]; simp
      | cons u mid =>
        have hopen := hunangled u (by rw [hmid]; simp)
        rw [Angled.tokens, List.cons_append, List.cons_append, List.cons.injEq] at ha
        rw [← ha.1] at hopen
        cases hopen
    · simp

/-- The segments of a path that reads like a marker have the arguments of a marker. -/
theorem plain_of_tokens_eq (h : q.IsMarker) {p : Path} (heq : p.tokens = q.tokens) :
    (∀ s ∈ p.init, s.arguments = .none) ∧ (p.last.arguments = .none ∨ p.last.IsAngled) := by
  obtain ⟨leading, init, last⟩ := p
  -- what comes before the arguments of a segment, and what follows them
  have hargs : ∀ (s : Segment) (before after : List Tree), Closing before →
      q.tokens = before ++ s.tokens ++ after →
        s.arguments = .none ∨ s.IsAngled ∧ after = [] := by
    rintro ⟨name, arguments, free⟩ before after hbefore hq
    have hclosing : ∀ marked : Bool,
        Closing (before ++ .ident name :: if marked then colons else []) := fun marked =>
      hbefore.append ((closing_colons marked).cons rfl)
    rcases arguments with _ | ⟨marked, a⟩ | ⟨marked, parameters⟩
    · exact .inl rfl
    · have hsplit : q.tokens =
          (before ++ .ident name :: if marked then colons else []) ++ a.tokens ++ after := by
        rw [hq]; simp [Segment.tokens, Segment.Arguments.tokens]
      exact .inr ⟨⟨marked, a, rfl⟩, h.eq_nil_of_angled (hclosing marked) hsplit⟩
    · have hsplit : q.tokens = (before ++ .ident name :: if marked then colons else []) ++
          .group .paren parameters :: after := by
        rw [hq]; simp [Segment.tokens, Segment.Arguments.tokens]
      cases h.isOfPath (hclosing marked) rfl hsplit
  constructor
  · intro s hs
    obtain ⟨before, after, rfl⟩ := List.append_of_mem hs
    refine (hargs s ((if leading then colons else []) ++
      before.flatMap fun s => s.tokens ++ colons) (colons ++
        (after.flatMap (fun s => s.tokens ++ colons) ++ last.tokens))
      ((closing_colons leading).append (closing_segments before)) ?_).resolve_right
        fun hnil => List.cons_ne_nil _ _ hnil.2
    rw [← heq]
    simp [Path.tokens]
  · refine (hargs last _ [] ((closing_colons leading).append (closing_segments init)) ?_).imp_right
      And.left
    rw [← heq, List.append_nil]
    rfl

end Path.IsMarker

/-- The names before the first angle bracket. -/
def namesBefore (trees : List Tree) : List String :=
  (trees.takeWhile (!·.isPunct '<')).filterMap fun | .ident name => some name | _ => none

theorem namesBefore_append {trees : List Tree} (h : Unangled trees) (more : List Tree) :
    namesBefore (trees ++ more) = namesBefore trees ++ namesBefore more := by
  have hall : ∀ t ∈ trees, (!t.isPunct '<') = true := fun t ht => by rw [h t ht]; rfl
  rw [namesBefore, List.takeWhile_append_of_pos hall, List.filterMap_append, namesBefore,
    List.takeWhile_eq_self_iff.2 hall, namesBefore]

theorem namesBefore_segments {segments : List Segment} (h : ∀ s ∈ segments, s.arguments = .none) :
    Unangled (segments.flatMap fun s => s.tokens ++ colons) ∧
      namesBefore (segments.flatMap fun s => s.tokens ++ colons) = segments.map (·.name) := by
  induction segments with
  | nil => exact ⟨nofun, rfl⟩
  | cons s segments ih =>
    obtain ⟨hs, hsegments⟩ := List.forall_mem_cons.1 h
    obtain ⟨hunangled, hnames⟩ := ih hsegments
    have hhead : Unangled (s.tokens ++ colons) ∧ namesBefore (s.tokens ++ colons) = [s.name] := by
      rw [Segment.tokens, hs]
      exact ⟨by simp [Unangled, Segment.Arguments.tokens, colons, Tree.isPunct], rfl⟩
    rw [List.flatMap_cons]
    refine ⟨hhead.1.append hunangled, ?_⟩
    rw [namesBefore_append hhead.1, hhead.2, hnames]
    rfl

/-- The names in a path that reads like a marker are those of its segments. -/
theorem Path.namesBefore_tokens {p : Path} (hinit : ∀ s ∈ p.init, s.arguments = .none)
    (hlast : p.last.arguments = .none ∨ p.last.IsAngled) :
    namesBefore p.tokens = p.init.map (·.name) ++ [p.last.name] := by
  have hlead : Unangled (if p.leading then colons else []) := by cases p.leading <;> decide
  obtain ⟨hunangled, hnames⟩ := namesBefore_segments hinit
  have hend : namesBefore p.last.tokens = [p.last.name] := by
    rw [Segment.tokens]
    rcases hlast with hnone | ⟨marked, a, hangled⟩
    · rw [hnone]; rfl
    · rw [hangled]; cases marked <;> rfl
  rw [tokens, List.append_assoc, namesBefore_append hlead, namesBefore_append hunangled, hnames,
    hend]
  cases p.leading <;> rfl

/-- A path that reads like a marker is one. -/
theorem Path.IsMarker.of_tokens_eq {p q : Path} (h : q.IsMarker) (heq : p.tokens = q.tokens) :
    p.IsMarker := by
  obtain ⟨hinit, hlast⟩ := h.plain_of_tokens_eq heq
  have hnames := Path.namesBefore_tokens hinit hlast
  rw [heq, Path.namesBefore_tokens h.2.1 h.2.2] at hnames
  obtain ⟨-, hname⟩ := List.append_inj' hnames rfl
  exact ⟨(List.singleton_inj.1 hname).symm.trans h.1, hinit, hlast⟩

/-- Whether a path can begin with a tree. -/
def Tree.beginsPath : Tree → Bool
  | ident name => name ∉ reserved
  | punct mark _ => mark == ':'
  | _ => false

theorem Path.exists_tokens_eq_cons (q : Path) :
    ∃ t rest, q.tokens = t :: rest ∧ t.beginsPath := by
  obtain ⟨leading, init, last⟩ := q
  cases leading with
  | true => exact ⟨_, _, rfl, rfl⟩
  | false =>
    cases init with
    | nil => exact ⟨_, _, rfl, decide_eq_true last.free⟩
    | cons s init => exact ⟨_, _, rfl, decide_eq_true s.free⟩

/-- Of all types with the same trees, all are markers or none is. -/
theorem TypeForm.IsMarker.of_tokens_eq {f g : TypeForm} (hg : g.IsMarker)
    (heq : f.tokens = g.tokens) : f.IsMarker := by
  obtain ⟨q, rfl⟩ : ∃ q, g = .path q := by cases g <;> first | exact ⟨_, rfl⟩ | cases hg
  have hq : q.IsMarker := hg
  have heq : f.tokens = q.tokens := heq
  obtain ⟨first, rest, hfirst, hhead⟩ := q.exists_tokens_eq_cons
  cases f with
  | path p => exact hq.of_tokens_eq heq
  -- the mark after a part of one of these stands in no marker
  | invocation p delimiter body =>
    cases hq.isOfPath (closing_path p) (t := .punct '!' false) rfl heq.symm
  | returning callee result =>
    rw [tokens, arrow, List.append_assoc] at heq
    cases hq.isOfPath (closing_tokens callee) (t := .punct '-' true) rfl heq.symm
  | sum first rest => cases hq.isOfPath (closing_tokens first) (t := .punct '+' false) rfl heq.symm
  | trailing bounds => cases hq.isOfPath (closing_tokens bounds) (t := .punct '+' false) rfl heq.symm
  -- and no path begins as the others do
  | function guarded abi parameters =>
    rw [hfirst] at heq
    rcases abi with _ | _ | text <;> cases guarded <;> cases heq <;>
      simp [Tree.beginsPath, reserved] at hhead
  | reference named exclusive target =>
    rw [hfirst] at heq
    cases named <;> cases heq <;> simp [Tree.beginsPath] at hhead
  | traits hidden bounds =>
    rw [hfirst] at heq
    cases hidden <;> cases heq <;> simp [Tree.beginsPath, reserved] at hhead
  | projection | group | never | inferred | pointer | binding | lifetime | relaxed | captures =>
    rw [hfirst] at heq
    cases heq
    simp [Tree.beginsPath, reserved] at hhead

end RecordKeys
