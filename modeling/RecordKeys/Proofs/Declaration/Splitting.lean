/-
Splitting what has been joined. Members that are written one after the other with commas between
them, with or without a comma at the end, are found again when a body is split, each of them as it
was written, if they are balanced in angle brackets.

Splitting starts anew after every comma between members. So it is enough to know of one member that
no comma in it is taken for one between members, and that no bracket is open where it ends. A member
that leaves a bracket open takes up what is behind it, and then members are missing.
-/
import Mathlib.Data.List.Forall2
import RecordKeys.Declaration.Body

namespace RecordKeys

/-- What is the same for all that is related is the same for related lists. -/
theorem forall_mem_iff_of_forall₂ {α β : Type} {R : α → β → Prop} {p : α → Prop} {q : β → Prop}
    (h : ∀ a b, R a b → (p a ↔ q b)) {as : List α} {bs : List β} (hrel : List.Forall₂ R as bs) :
    (∀ a ∈ as, p a) ↔ ∀ b ∈ bs, q b := by
  induction hrel with
  | nil => simp
  | cons hab _ ih => rw [List.forall_mem_cons, List.forall_mem_cons, h _ _ hab, ih]

/-- What holds of everything that something is related to holds of a list that is related to one. -/
theorem forall_mem_right_of_forall₂ {α β : Type} {R : α → β → Prop} {q : β → Prop}
    (h : ∀ a b, R a b → q b) {as : List α} {bs : List β} (hrel : List.Forall₂ R as bs) :
    ∀ b ∈ bs, q b := by
  have hiff := forall_mem_iff_of_forall₂ (p := fun _ => True)
    (fun a b hab => iff_of_true trivial (h a b hab)) hrel
  exact hiff.mp fun _ _ => trivial

/-- Parts separated by commas, with or without a comma at the end. A comma may be a joint mark. -/
inductive Joins : List (List Tree) → List Tree → Prop
  | nil : Joins [] []
  | last (part : List Tree) : Joins [part] part
  | cons (part : List Tree) (joint : Bool) {parts : List (List Tree)} {body : List Tree}
    (rest : Joins parts body) : Joins (part :: parts) (part ++ .punct ',' joint :: body)

/-- Whether a tree is the first half of an arrow, if the second one follows. -/
def Tree.isJointDash : Tree → Bool
  | .punct '-' true => true
  | _ => false

/-- By how much a tree changes the number of open angle brackets. The second half of an arrow
changes nothing. -/
def Tree.turn (arrow : Bool) (t : Tree) : Int :=
  if t.isPunct '<' then 1 else if t.isPunct '>' && !arrow then -1 else 0

/-- Whether a sequence closes exactly the angle brackets that are open or that it opens, and no
comma stands outside of them. The second half of an arrow closes nothing. -/
def balancedFrom (depth : Nat) (arrow : Bool) : List Tree → Bool
  | [] => depth == 0
  | t :: rest =>
    if t.isPunct '<' then balancedFrom (depth + 1) false rest
    else if t.isPunct '>' && !arrow then depth != 0 && balancedFrom (depth - 1) false rest
    else (!t.isPunct ',' || depth != 0) && balancedFrom depth t.isJointDash rest

/-- Whether a sequence is balanced in angle brackets, with no comma outside of them. -/
def balanced (trees : List Tree) : Bool := balancedFrom 0 false trees

/-- Whether a tree is neither a comma nor a part of a bracket or an arrow. -/
def Tree.isPlain (t : Tree) : Bool :=
  !(t.isPunct '<' || t.isPunct '>' || t.isPunct ',' || t.isPunct '-')

theorem Tree.isPunct_of_ne {t : Tree} {mark other : Char} (h : t.isPunct mark)
    (hne : mark ≠ other) : t.isPunct other = false := by
  cases t <;> simp_all [isPunct]

theorem Tree.exists_eq_punct {t : Tree} {mark : Char} (h : t.isPunct mark) :
    ∃ joint, t = .punct mark joint := by
  cases t <;> simp_all [isPunct]

theorem Tree.isJointDash_of_isPunct {t : Tree} {mark : Char} (h : t.isPunct mark)
    (hne : mark ≠ '-') : t.isJointDash = false := by
  unfold isJointDash
  split
  · exact absurd (beq_iff_eq.mp h).symm hne
  · rfl

theorem balancedFrom_cons {depth : Nat} {arrow : Bool} {t : Tree} {rest : List Tree} :
    balancedFrom depth arrow (t :: rest) ↔
      0 ≤ depth + t.turn arrow ∧ (t.isPunct ',' → depth ≠ 0) ∧
        balancedFrom (depth + t.turn arrow).toNat t.isJointDash rest := by
  rw [balancedFrom, Tree.turn]
  by_cases hopen : t.isPunct '<'
  · have hcomma := Tree.isPunct_of_ne hopen (show '<' ≠ ',' by decide)
    have hdash := Tree.isJointDash_of_isPunct hopen (by decide)
    have hnonneg : (0 : Int) ≤ depth + 1 := by omega
    have hnat : ((depth : Int) + 1).toNat = depth + 1 := by omega
    simp [hopen, hcomma, hdash, hnonneg, hnat]
  by_cases hclose : t.isPunct '>' && !arrow
  · rw [Bool.and_eq_true] at hclose
    have hcomma := Tree.isPunct_of_ne hclose.1 (show '>' ≠ ',' by decide)
    have hdash := Tree.isJointDash_of_isPunct hclose.1 (by decide)
    have hnonneg : (0 : Int) ≤ depth + -1 ↔ depth ≠ 0 := by omega
    have hnat : ((depth : Int) + -1).toNat = depth - 1 := by omega
    simp [hopen, hclose, hcomma, hdash, hnonneg, hnat]
  · simp only [hopen, hclose, Bool.false_eq_true]
    simp [imp_iff_not_or]

/-- A tree more at the beginning belongs to the first part. -/
theorem Joins.push {part trees : List Tree} {parts : List (List Tree)}
    (h : Joins (part :: parts) trees) (t : Tree) : Joins ((t :: part) :: parts) (t :: trees) := by
  cases h with
  | last => exact .last _
  | cons _ joint rest => exact .cons _ joint rest

/-! ## Scans -/

namespace Scan

/-- What is known after some more trees. -/
def through (s : Scan) (part : List Tree) : Scan := part.foldl after s

/-- No tree of a part is a comma between members. -/
def Passes (s : Scan) : List Tree → Prop
  | [] => True
  | t :: rest => s.separates t = false ∧ (s.after t).Passes rest

@[simp] theorem through_nil (s : Scan) : s.through [] = s := rfl

@[simp] theorem through_cons (s : Scan) (t : Tree) (part : List Tree) :
    s.through (t :: part) = (s.after t).through part := rfl

theorem through_append (s : Scan) (part more : List Tree) :
    s.through (part ++ more) = (s.through part).through more := List.foldl_append

theorem passes_append {s : Scan} {part more : List Tree} :
    s.Passes (part ++ more) ↔ s.Passes part ∧ (s.through part).Passes more := by
  induction part generalizing s with
  | nil => simp [Passes]
  | cons t part ih => simp only [List.cons_append, Passes, ih, through_cons, and_assoc]

theorem separates_of_no_comma {t : Tree} (h : t.isPunct ',' = false) (s : Scan) :
    s.separates t = false := by
  rw [separates, h, Bool.and_false]

theorem separates_of_open {s : Scan} (h : s.depth ≠ 0) (t : Tree) : s.separates t = false := by
  rw [separates, beq_false_of_ne h, Bool.false_and]

/-- A comma between members leaves nothing behind. -/
theorem after_of_separates {s : Scan} {t : Tree} (h : s.separates t) : s.after t = start := by
  rw [separates, Bool.and_eq_true, beq_iff_eq] at h
  obtain ⟨joint, rfl⟩ := Tree.exists_eq_punct h.2
  rw [start, ← h.1]
  rfl

/-- A part without commas is not split. -/
theorem passes_of_no_comma {part : List Tree} (h : ∀ t ∈ part, t.isPunct ',' = false) (s : Scan) :
    s.Passes part := by
  induction part generalizing s with
  | nil => trivial
  | cons t part ih =>
    exact ⟨separates_of_no_comma (h t List.mem_cons_self) s,
      ih (fun u hu => h u (List.mem_cons_of_mem _ hu)) _⟩

theorem after_of_isPlain {t : Tree} (h : t.isPlain) (s : Scan) : s.after t = ⟨s.depth, false⟩ := by
  unfold after
  split <;> first | rfl | cases h

theorem separates_of_isPlain {t : Tree} (h : t.isPlain) (s : Scan) : s.separates t = false := by
  simp only [Tree.isPlain, Bool.not_eq_true', Bool.or_eq_false_iff] at h
  exact separates_of_no_comma h.1.2 s

/-- Trees that are no brackets and no commas change nothing. -/
theorem through_of_isPlain {part : List Tree} (h : ∀ t ∈ part, t.isPlain) :
    start.Passes part ∧ start.through part = start := by
  induction part with
  | nil => exact ⟨trivial, rfl⟩
  | cons t part ih =>
    have ht := h t List.mem_cons_self
    have hafter : start.after t = start := after_of_isPlain ht start
    rw [through_cons, Passes, hafter]
    exact ⟨⟨separates_of_isPlain ht start, (ih fun u hu => h u (List.mem_cons_of_mem _ hu)).1⟩,
      (ih fun u hu => h u (List.mem_cons_of_mem _ hu)).2⟩

/-- How a tree changes what is known. -/
theorem after_eq (s : Scan) (t : Tree) :
    s.after t = ⟨(s.depth + t.turn s.arrow).toNat, t.isJointDash⟩ := by
  cases t with
  | ident | literal | group => simp [after, Tree.turn, Tree.isPunct, Tree.isJointDash]
  | punct mark joint =>
    by_cases hopen : mark = '<'
    · subst hopen
      simp [after, Tree.turn, Tree.isPunct, Tree.isJointDash]
    by_cases hclose : mark = '>'
    · subst hclose
      have hnat : ((s.depth : Int) + -1).toNat = s.depth - 1 := by omega
      cases harrow : s.arrow <;>
        simp [after, Tree.turn, Tree.isPunct, Tree.isJointDash, harrow, hnat]
    by_cases hdash : mark = '-'
    · subst hdash
      cases joint <;> simp [after, Tree.turn, Tree.isPunct, Tree.isJointDash]
    -- no other mark is looked at
    · have hafter : s.after (.punct mark joint) = ⟨s.depth, false⟩ := by
        unfold after; split <;> simp_all
      have hjoint : (Tree.punct mark joint).isJointDash = false := by
        unfold Tree.isJointDash; split <;> simp_all
      simp [hafter, hjoint, Tree.turn, Tree.isPunct, hopen, hclose]

/-- In a balanced part no comma is taken for one between members, and at its end no bracket is
open. -/
theorem passes_of_balancedFrom {s : Scan} {part : List Tree}
    (h : balancedFrom s.depth s.arrow part) : s.Passes part ∧ (s.through part).depth = 0 := by
  induction part generalizing s with
  | nil => exact ⟨trivial, by simpa [balancedFrom] using h⟩
  | cons t part ih =>
    obtain ⟨-, hcomma, hpart⟩ := balancedFrom_cons.mp h
    rw [through_cons, Passes, and_assoc]
    refine ⟨?_, ih (by rw [after_eq]; exact hpart)⟩
    by_cases hmark : t.isPunct ','
    · exact separates_of_open (hcomma hmark) t
    · exact separates_of_no_comma (Bool.eq_false_iff.mpr hmark) s

/-! ### Open brackets -/

/-- A part that is not split is not split from deeper inside either: where more brackets are open,
at least as many stay open. -/
theorem passes_of_depth_le {part : List Tree} {s deeper : Scan} (hdepth : s.depth ≤ deeper.depth)
    (harrow : s.arrow = deeper.arrow) (h : s.Passes part) : deeper.Passes part := by
  induction part generalizing s deeper with
  | nil => trivial
  | cons t part ih =>
    obtain ⟨hseparates, hpart⟩ := h
    refine ⟨?_, ih ?_ ?_ hpart⟩
    · simp only [separates, Bool.and_eq_false_iff, beq_eq_false_iff_ne] at hseparates ⊢
      exact hseparates.imp_left fun hne => by omega
    · rw [after_eq, after_eq, harrow]
      exact Int.toNat_le_toNat (by omega)
    · rw [after_eq, after_eq]

/-- A part that is not split where nothing is open is split nowhere. -/
theorem passes_of_start {part : List Tree} (h : start.Passes part) (depth : Nat) :
    Passes ⟨depth, false⟩ part :=
  have hdepth : start.depth ≤ depth := Nat.zero_le depth
  passes_of_depth_le hdepth rfl h

end Scan

/-! ## Members -/

namespace Body

theorem parts_ne_nil (s : Scan) (body : List Tree) : parts s body ≠ [] := by
  cases body with
  | nil => exact List.cons_ne_nil _ _
  | cons t rest =>
    unfold parts
    split
    · exact List.cons_ne_nil _ _
    · split <;> exact List.cons_ne_nil _ _

/-- What passes comes before the first comma between members. -/
theorem parts_append {s : Scan} {part : List Tree} (h : s.Passes part) (body : List Tree)
    {first : List Tree} {more : List (List Tree)}
    (hrest : parts (s.through part) body = first :: more) :
    parts s (part ++ body) = (part ++ first) :: more := by
  induction part generalizing s with
  | nil => exact hrest
  | cons t part ih =>
    rw [List.cons_append, parts, if_neg (by simp [h.1]), ih h.2 hrest]
    rfl

theorem parts_of_passes {s : Scan} {part : List Tree} (h : s.Passes part) :
    parts s part = [part] := by
  have hparts := parts_append h [] rfl
  rwa [List.append_nil] at hparts

/-- Where nothing is open, a part ends at a comma behind it. -/
theorem parts_append_comma {s : Scan} {part : List Tree} (h : s.Passes part)
    (hdepth : (s.through part).depth = 0) (joint : Bool) (body : List Tree) :
    parts s (part ++ .punct ',' joint :: body) = part :: parts .start body := by
  have hcomma : parts (s.through part) (.punct ',' joint :: body) = [] :: parts .start body := by
    rw [parts, if_pos (by simp [Scan.separates, hdepth, Tree.isPunct])]
  rw [parts_append h _ hcomma, List.append_nil]

/-- Where a bracket is open, a part goes on behind a comma. -/
theorem tail_parts_append_comma {s : Scan} {part : List Tree} (h : s.Passes part)
    (hdepth : (s.through part).depth ≠ 0) (joint : Bool) (body : List Tree) :
    (parts s (part ++ .punct ',' joint :: body)).tail =
      (parts ⟨(s.through part).depth, false⟩ body).tail := by
  obtain ⟨first, more, hbody⟩ := List.exists_cons_of_ne_nil
    (parts_ne_nil ⟨(s.through part).depth, false⟩ body)
  have hafter : (s.through part).after (.punct ',' joint) = ⟨(s.through part).depth, false⟩ := rfl
  have hcomma : parts (s.through part) (.punct ',' joint :: body) =
      (.punct ',' joint :: first) :: more := by
    rw [parts, if_neg (by simp [Scan.separates_of_open hdepth]), hafter, hbody]
  rw [parts_append h _ hcomma, hbody, List.tail_cons, List.tail_cons]

/-- A body without a comma between members has one member. -/
theorem members_last {part : List Tree} (h : Scan.start.Passes part) (hne : part ≠ []) :
    members part = [part] := by
  rw [members, parts_of_passes h, List.filter_cons_of_pos (by simpa using hne), List.filter_nil]

/-- A member that ends without an open bracket is split off at the comma behind it. -/
theorem members_cons {part : List Tree} (h : Scan.start.Passes part) (hne : part ≠ [])
    (hdepth : (Scan.start.through part).depth = 0) (joint : Bool) (body : List Tree) :
    members (part ++ .punct ',' joint :: body) = part :: members body := by
  rw [members, parts_append_comma h hdepth, List.filter_cons_of_pos (by simpa using hne), members]

/-- How a part is found: as it was written, or with the comma behind it if it leaves a bracket
open. -/
def FoundAs (part member : List Tree) : Prop :=
  member = part ∨
    (Scan.start.through part).depth ≠ 0 ∧ ∃ joint, member = part ++ [.punct ',' joint]

/-- A part at the end of a body takes up a comma behind it if it leaves a bracket open. -/
theorem foundAs_members_comma {part : List Tree} (h : Scan.start.Passes part) (hne : part ≠ [])
    (joint : Bool) : ∃ member, members (part ++ [.punct ',' joint]) = [member] ∧
      FoundAs part member := by
  by_cases hdepth : (Scan.start.through part).depth = 0
  · exact ⟨part, members_cons h hne hdepth joint [], .inl rfl⟩
  · have hcomma : (Scan.start.through part).Passes [.punct ',' joint] :=
      ⟨Scan.separates_of_open hdepth _, trivial⟩
    exact ⟨part ++ [.punct ',' joint], members_last (Scan.passes_append.mpr ⟨h, hcomma⟩)
      (List.append_ne_nil_of_left_ne_nil hne _), .inr ⟨hdepth, joint, rfl⟩⟩

/-- Splitting finds the members that have been joined, if no comma in any of them is taken for one
between members and all but the last leave no bracket open. -/
theorem foundAs_members {parts : List (List Tree)} {body : List Tree} (h : Joins parts body)
    (hpasses : ∀ part ∈ parts, part ≠ [] ∧ Scan.start.Passes part)
    (hclosed : ∀ part ∈ parts.dropLast, (Scan.start.through part).depth = 0) :
    List.Forall₂ FoundAs parts (members body) := by
  induction h with
  | nil => exact .nil
  | last part =>
    obtain ⟨hne, hpart⟩ := hpasses part List.mem_cons_self
    rw [members_last hpart hne]
    exact .cons (.inl rfl) .nil
  | @cons part joint parts body rest ih =>
    obtain ⟨hne, hpart⟩ := hpasses part List.mem_cons_self
    cases rest with
    -- a comma at the end of the body
    | nil =>
      obtain ⟨member, hmembers, hfound⟩ := foundAs_members_comma hpart hne joint
      rw [hmembers]
      exact .cons hfound .nil
    | last | cons =>
      rw [List.dropLast_cons_cons] at hclosed
      rw [members_cons hpart hne (hclosed part List.mem_cons_self)]
      exact .cons (.inl rfl) (ih (fun u hu => hpasses u (List.mem_cons_of_mem _ hu))
        (fun u hu => hclosed u (List.mem_cons_of_mem _ hu)))

/-- Splitting finds the members that have been joined as they were written, if none of them leaves a
bracket open. -/
theorem members_of_joins {parts : List (List Tree)} {body : List Tree} (h : Joins parts body)
    (hpasses : ∀ part ∈ parts, part ≠ [] ∧ Scan.start.Passes part)
    (hclosed : ∀ part ∈ parts, (Scan.start.through part).depth = 0) : members body = parts := by
  have hfound := foundAs_members h hpasses fun part hpart =>
    hclosed part (List.dropLast_subset _ hpart)
  have hall := (List.forall₂_and_left parts (members body)).mpr ⟨hclosed, hfound⟩
  have heq : List.Forall₂ Eq parts (members body) := hall.imp fun part member hpart =>
    hpart.2.elim Eq.symm fun hopen => absurd hpart.1 hopen.1
  rw [List.forall₂_eq_eq_eq] at heq
  exact heq.symm

theorem length_filter_le_tail {α : Type} (p : α → Bool) (l : List α) :
    (l.filter p).length ≤ (l.tail.filter p).length + 1 := by
  cases l with
  | nil => exact Nat.zero_le _
  | cons a l =>
    rw [List.filter_cons]
    split <;> simp

/-- However many brackets are open where a body begins, no more parts are begun in it than have been
joined. -/
theorem length_tail_parts_le {joined : List (List Tree)} {body : List Tree} (h : Joins joined body)
    (hpasses : ∀ part ∈ joined, Scan.start.Passes part) (depth : Nat) :
    ((parts ⟨depth, false⟩ body).tail.filter (!·.isEmpty)).length ≤ joined.length - 1 := by
  induction h generalizing depth with
  | nil => exact Nat.zero_le _
  | last part =>
    rw [parts_of_passes (Scan.passes_of_start (hpasses part List.mem_cons_self) depth)]
    exact Nat.zero_le _
  | @cons part joint joined body rest ih =>
    have hpart := Scan.passes_of_start (hpasses part List.mem_cons_self) depth
    have ih := ih fun u hu => hpasses u (List.mem_cons_of_mem _ hu)
    rw [List.length_cons, Nat.add_sub_cancel]
    by_cases hdepth : (Scan.through ⟨depth, false⟩ part).depth = 0
    · rw [parts_append_comma hpart hdepth, List.tail_cons]
      cases rest with
      | nil => exact Nat.zero_le _
      | last | cons => exact Nat.le_trans (length_filter_le_tail _ _) (Nat.succ_le_succ (ih 0))
    · rw [tail_parts_append_comma hpart hdepth]
      exact Nat.le_trans (ih _) (Nat.sub_le _ _)

/-- If a part but the last leaves a bracket open, then fewer members are found than have been
joined. -/
theorem length_members_lt {joined : List (List Tree)} {body : List Tree} (h : Joins joined body)
    (hpasses : ∀ part ∈ joined, part ≠ [] ∧ Scan.start.Passes part)
    (hopen : ¬ ∀ part ∈ joined.dropLast, (Scan.start.through part).depth = 0) :
    (members body).length < joined.length := by
  induction h with
  | nil => simp at hopen
  | last part => simp at hopen
  | @cons part joint joined body rest ih =>
    obtain ⟨hne, hpart⟩ := hpasses part List.mem_cons_self
    have hrest := fun u hu => hpasses u (List.mem_cons_of_mem part hu)
    have hmore : joined ≠ [] ∧ ¬ ((Scan.start.through part).depth = 0 ∧
        ∀ other ∈ joined.dropLast, (Scan.start.through other).depth = 0) := by
      cases rest with
      | nil => simp at hopen
      | last | cons => simpa [List.dropLast_cons_cons] using hopen
    by_cases hdepth : (Scan.start.through part).depth = 0
    · rw [members_cons hpart hne hdepth, List.length_cons, List.length_cons]
      exact Nat.succ_lt_succ (ih hrest fun hall => hmore.2 ⟨hdepth, hall⟩)
    · have hbegun := length_tail_parts_le rest (fun u hu => (hrest u hu).2)
        (Scan.start.through part).depth
      have hfound := length_filter_le_tail (!·.isEmpty)
        (parts .start (part ++ .punct ',' joint :: body))
      have hpos := List.length_pos_iff.mpr hmore.1
      rw [tail_parts_append_comma hpart hdepth] at hfound
      rw [members, List.length_cons]
      omega

end Body

end RecordKeys
