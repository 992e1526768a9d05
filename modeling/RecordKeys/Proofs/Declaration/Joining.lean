/-
Splitting undoes joining. What is between commas is a member if, read from left to right with `<` as
an opening and `>` as a closing bracket, it closes no bracket that it has not opened, leaves none
open, and has no comma outside of brackets. However many members are written with commas between
them, they are found again.

Of any other body, whatever its brackets, nothing but commas is lost: its members come in the order
in which they stand, with commas between them, and the commas that are missing are those that stand
outside of brackets if a bracket that closes nothing is passed over.
-/
import RecordKeys.Proofs.Declaration.Splitting

namespace RecordKeys.Body

/-! ## Counting brackets -/

/-- The number of open brackets before each tree of a sequence and at its end; `arrow` says whether
the tree before is the first half of an arrow. After each tree, the number is brought into bounds by
`clip`. -/
def levels (clip : Int → Int) (level : Int) (arrow : Bool) : List Tree → List Int
  | [] => [level]
  | t :: rest => level :: levels clip (clip (level + t.turn arrow)) t.isJointDash rest

/-- The number of open brackets, below zero where more have been closed than opened. -/
def heights (trees : List Tree) : List Int := levels id 0 false trees

/-- The number of open brackets where a bracket that closes nothing is passed over. -/
def depths (trees : List Tree) : List Int := levels (max · 0) 0 false trees

/-- Whether a sequence is a member of a body: it is not empty, no more brackets are closed than have
been opened, none is open at the end, and no comma stands outside of them. -/
structure IsMember (part : List Tree) : Prop where
  ne_nil : part ≠ []
  nonneg : ∀ height ∈ heights part, 0 ≤ height
  closed : (heights part).getLast? = some 0
  inside : ∀ p ∈ part.zip (heights part), p.1.isPunct ',' → p.2 ≠ 0

instance (part : List Tree) : Decidable (IsMember part) :=
  decidable_of_iff (part ≠ [] ∧ (∀ height ∈ heights part, 0 ≤ height) ∧
      (heights part).getLast? = some 0 ∧ ∀ p ∈ part.zip (heights part), p.1.isPunct ',' → p.2 ≠ 0)
    ⟨fun ⟨hne, hnonneg, hclosed, hinside⟩ => ⟨hne, hnonneg, hclosed, hinside⟩,
      fun h => ⟨h.ne_nil, h.nonneg, h.closed, h.inside⟩⟩

/-- Parts with one comma or more between any two of them, and any number of commas at either end. -/
inductive Separated : List (List Tree) → List Tree → Prop
  | nil : Separated [] []
  | last (part : List Tree) : Separated [part] part
  | cons (part : List Tree) (joint : Bool) {parts : List (List Tree)} {body : List Tree}
    (rest : Separated parts body) : Separated (part :: parts) (part ++ .punct ',' joint :: body)
  | comma (joint : Bool) {parts : List (List Tree)} {body : List Tree}
    (rest : Separated parts body) : Separated parts (.punct ',' joint :: body)

/-- The trees of a body in their order, but for the commas outside of brackets. -/
def withoutSeparators (body : List Tree) : List Tree :=
  ((body.zip (depths body)).filter fun p => !(p.1.isPunct ',' && p.2 == 0)).map Prod.fst

/-! ## Members that are joined -/

theorem levels_ne_nil (clip : Int → Int) (level : Int) (arrow : Bool) (trees : List Tree) :
    levels clip level arrow trees ≠ [] := by
  cases trees <;> exact List.cons_ne_nil _ _

theorem level_mem_levels (clip : Int → Int) (level : Int) (arrow : Bool) (trees : List Tree) :
    level ∈ levels clip level arrow trees := by
  cases trees <;> exact List.mem_cons_self

/-- Counting with signs finds a sequence balanced where counting up and down does. -/
theorem balancedFrom_iff_levels (depth : Nat) (arrow : Bool) (part : List Tree) :
    balancedFrom depth arrow part ↔
      (∀ height ∈ levels id depth arrow part, 0 ≤ height) ∧
      (levels id depth arrow part).getLast? = some 0 ∧
      ∀ p ∈ part.zip (levels id depth arrow part), p.1.isPunct ',' → p.2 ≠ 0 := by
  induction part generalizing depth arrow with
  | nil => simp [balancedFrom, levels]
  | cons t rest ih =>
    have hlevels : levels id depth arrow (t :: rest) =
      (depth : Int) :: levels id (depth + t.turn arrow) t.isJointDash rest := rfl
    rw [balancedFrom_cons, hlevels, List.forall_mem_cons, List.zip_cons_cons, List.forall_mem_cons,
      List.getLast?_cons_of_ne_nil (levels_ne_nil _ _ _ _)]
    by_cases hnonneg : 0 ≤ depth + t.turn arrow
    · have hrest := ih (depth + t.turn arrow).toNat t.isJointDash
      rw [Int.toNat_of_nonneg hnonneg] at hrest
      rw [hrest]
      simp only [hnonneg, Int.natCast_nonneg, true_and, ne_eq, Int.natCast_eq_zero]
      tauto
    -- the tree closes a bracket that has not been opened
    · have hlevel := level_mem_levels id (depth + t.turn arrow) t.isJointDash rest
      constructor
      · exact fun h => absurd h.1 hnonneg
      · exact fun h => absurd (h.1.2 _ hlevel) hnonneg

theorem isMember_iff {part : List Tree} : IsMember part ↔ part ≠ [] ∧ balanced part := by
  have hlevels := balancedFrom_iff_levels 0 false part
  constructor
  · exact fun h => ⟨h.ne_nil, hlevels.mpr ⟨h.nonneg, h.closed, h.inside⟩⟩
  · rintro ⟨hne, hbalanced⟩
    obtain ⟨hnonneg, hclosed, hinside⟩ := hlevels.mp hbalanced
    exact ⟨hne, hnonneg, hclosed, hinside⟩

/-- A comma where a member would begin is passed over. -/
theorem members_comma (joint : Bool) (body : List Tree) :
    members (.punct ',' joint :: body) = members body := rfl

theorem members_of_separated {parts : List (List Tree)} {body : List Tree}
    (h : Separated parts body) (hmember : ∀ part ∈ parts, IsMember part) :
    members body = parts := by
  induction h with
  | nil => rfl
  | last part =>
    obtain ⟨hne, hbalanced⟩ := isMember_iff.mp (hmember part List.mem_cons_self)
    exact members_last (Scan.passes_of_balancedFrom (s := .start) hbalanced).1 hne
  | cons part joint rest ih =>
    obtain ⟨hne, hbalanced⟩ := isMember_iff.mp (hmember part List.mem_cons_self)
    obtain ⟨hpasses, hdepth⟩ := Scan.passes_of_balancedFrom (s := .start) hbalanced
    rw [members_cons hpasses hne hdepth,
      ih fun other hother => hmember other (List.mem_cons_of_mem _ hother)]
  | comma joint rest ih => rw [members_comma, ih hmember]

/-! ## Any body -/

/-- A tree that does not separate belongs to the first part. -/
theorem parts_cons {s : Scan} {t : Tree} (h : s.separates t = false) (rest : List Tree) :
    ∃ part more, parts (s.after t) rest = part :: more ∧
      parts s (t :: rest) = (t :: part) :: more := by
  obtain ⟨part, more, hrest⟩ := List.exists_cons_of_ne_nil (parts_ne_nil (s.after t) rest)
  exact ⟨part, more, hrest, by rw [parts, h, if_neg Bool.false_ne_true, hrest]⟩

/-- A body is what its parts are joined to. -/
theorem joins_parts (s : Scan) (body : List Tree) : Joins (parts s body) body := by
  induction body generalizing s with
  | nil => exact .last []
  | cons t rest ih =>
    cases h : s.separates t with
    | true =>
      obtain ⟨joint, rfl⟩ := Tree.exists_eq_punct (Bool.and_eq_true_iff.mp h).2
      rw [parts, h, if_pos rfl]
      exact .cons [] joint (ih .start)
    | false =>
      obtain ⟨part, more, hrest, hparts⟩ := parts_cons h rest
      rw [hparts]
      exact (hrest ▸ ih (s.after t)).push t

theorem Separated.of_joins {parts : List (List Tree)} {body : List Tree} (h : Joins parts body) :
    Separated (parts.filter (!·.isEmpty)) body := by
  induction h with
  | nil => exact .nil
  | last part =>
    cases part with
    | nil => exact .nil
    | cons t part => exact .last _
  | cons part joint rest ih =>
    cases part with
    | nil => exact .comma joint ih
    | cons t part => exact .cons _ joint ih

/-- What is in the parts of a body is the body without the commas that separate. -/
theorem flatten_parts (s : Scan) (body : List Tree) :
    (parts s body).flatten =
      ((body.zip (levels (max · 0) s.depth s.arrow body)).filter
        fun p => !(p.1.isPunct ',' && p.2 == 0)).map Prod.fst := by
  induction body generalizing s with
  | nil => rfl
  | cons t rest ih =>
    have hlevels : levels (max · 0) s.depth s.arrow (t :: rest) =
        (s.depth : Int) :: levels (max · 0) (s.after t).depth (s.after t).arrow rest := by
      rw [levels, Scan.after_eq, Int.ofNat_toNat]
    have hseparates : s.separates t = (t.isPunct ',' && (s.depth : Int) == 0) := by
      rw [Scan.separates, Bool.and_comm, Bool.eq_iff_iff]
      simp
    rw [hlevels, List.zip_cons_cons, List.filter_cons, ← hseparates]
    cases h : s.separates t with
    | true =>
      rw [parts, h, if_pos rfl, List.flatten_cons, List.nil_append, ← Scan.after_of_separates h, ih,
        Bool.not_true, if_neg Bool.false_ne_true]
    | false =>
      obtain ⟨part, more, hpart, hparts⟩ := parts_cons h rest
      rw [hparts, Bool.not_false, if_pos rfl, List.map_cons, ← ih, hpart]
      rfl

theorem flatten_members (body : List Tree) : (members body).flatten = withoutSeparators body := by
  rw [members, List.flatten_filter_not_isEmpty]
  exact flatten_parts .start body

/-- Members that are joined are found again, as they were written and in order, whatever commas are
between them and at the ends. The members of any body are not empty, they have commas between them
in the body, and all that is missing from them are the commas outside of brackets. -/
theorem members_invert_joining :
    (∀ {parts : List (List Tree)} {body : List Tree}, Separated parts body →
      (∀ part ∈ parts, IsMember part) → members body = parts) ∧
    ∀ body : List Tree, (∀ part ∈ members body, part ≠ []) ∧ Separated (members body) body ∧
      (members body).flatten = withoutSeparators body := by
  refine ⟨members_of_separated, fun body => ⟨fun part hpart => ?_, ?_, flatten_members body⟩⟩
  · simpa using (List.mem_filter.mp hpart).2
  · exact .of_joins (joins_parts .start body)

/-- Fields with commas in angle brackets, one of them with an arrow between these. -/
def indexParts : List (List Tree) :=
  [[.ident "entries", .punct ':' false, .ident "Map", .punct '<' false, .ident "u8",
      .punct ',' false, .ident "Vec", .punct '<' false,
      .group .paren [.ident "u8", .punct ',' false], .punct '>' true, .punct '>' true],
    [.ident "callback", .punct ':' false, .ident "Map", .punct '<' false, .ident "fn",
      .group .paren [], .punct '-' true, .punct '>' false, .ident "u8", .punct ',' false,
      .ident "u8", .punct '>' true],
    [.ident "count", .punct ':' false, .ident "u8"]]

/-- Two commas stand behind every field. -/
theorem members_invert_joining_index :
    let body := indexParts.flatMap (· ++ [.punct ',' true, .punct ',' false])
    Separated indexParts body ∧ (∀ part ∈ indexParts, IsMember part) ∧
      members body = indexParts := by
  intro body
  have hseparated : Separated indexParts body :=
    .cons _ true <| .comma false <| .cons _ true <| .comma false <| .cons _ true <|
      .comma false .nil
  have hmember : ∀ part ∈ indexParts, IsMember part := by decide
  exact ⟨hseparated, hmember, members_invert_joining.1 hseparated hmember⟩

end RecordKeys.Body
