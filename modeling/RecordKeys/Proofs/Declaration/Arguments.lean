/-
What attributes say, in one equation. Attributes are taken into account one after the other, but
what is known in the end is told from all arguments that have been given, in whatever attributes,
and what is wrong with an attribute is told from that attribute alone.

Arguments are read from a list with commas if and only if they are written so.
-/
import RecordKeys.Declaration.Traits
import RecordKeys.Proofs.Declaration.Splitting

namespace RecordKeys

/-! ## Lists of arguments -/

namespace Argument

/-- How an argument is written. -/
inductive Written : Argument → List Tree → Prop
  | rename (literal : String) (joint : Bool) :
    Written (.rename literal) [.ident "rename", .punct '=' joint, .literal literal]
  | skip : Written .skip [.ident "skip"]
  | parent : Written .parent [.ident "parent"]
  | null : Written .null [.ident "null"]

/-- Arguments with commas between them, with or without a comma at the end. -/
def Lists (arguments : List Argument) (trees : List Tree) : Prop :=
  ∃ parts, List.Forall₂ Written arguments parts ∧ Joins parts trees

theorem read?_eq_some_iff {part : List Tree} {a : Argument} :
    read? part = some a ↔ Written a part := by
  constructor
  · intro h
    unfold read? at h
    split at h <;> first
      | (obtain rfl := Option.some.inj h; constructor)
      | cases h
  · rintro (_ | _) <;> rfl

/-- An argument is not empty and has no comma. -/
theorem Written.no_comma {part : List Tree} {a : Argument} (h : Written a part) :
    part ≠ [] ∧ ∀ t ∈ part, t.isPunct ',' = false := by
  cases h <;> simp [Tree.isPunct]

theorem mapM_read?_eq_some_iff {parts : List (List Tree)} {arguments : List Argument} :
    parts.mapM read? = some arguments ↔ List.Forall₂ Written arguments parts := by
  induction parts generalizing arguments with
  | nil => simp [eq_comm]
  | cons part parts ih =>
    simp only [List.mapM_cons, Option.pure_def, Option.bind_eq_bind, Option.bind_eq_some_iff,
      Option.some.injEq, read?_eq_some_iff, ih, List.forall₂_cons_right_iff]
    constructor
    · rintro ⟨a, ha, more, hmore, rfl⟩
      exact ⟨a, more, ha, hmore, rfl⟩
    · rintro ⟨a, more, ha, hmore, rfl⟩
      exact ⟨a, ha, more, hmore, rfl⟩

theorem splitAtCommas_ne_nil (trees : List Tree) : splitAtCommas trees ≠ [] := by
  cases trees with
  | nil => exact List.cons_ne_nil _ _
  | cons t rest =>
    unfold splitAtCommas
    split
    · exact List.cons_ne_nil _ _
    · split <;> exact List.cons_ne_nil _ _

theorem dropLastEmpty_cons {parts : List (List Tree)} (h : parts ≠ []) (part : List Tree) :
    dropLastEmpty (part :: parts) = part :: dropLastEmpty parts := by
  cases part <;> cases parts <;> first | rfl | exact absurd rfl h

/-- What is split at commas was joined. -/
theorem joins_splitAtCommas (trees : List Tree) :
    Joins (dropLastEmpty (splitAtCommas trees)) trees := by
  induction trees with
  | nil => exact .nil
  | cons t rest ih =>
    have hne := splitAtCommas_ne_nil rest
    unfold splitAtCommas
    split
    · rename_i hcomma
      obtain ⟨joint, rfl⟩ := Tree.exists_eq_punct hcomma
      rw [dropLastEmpty_cons hne]
      exact .cons [] joint ih
    · obtain ⟨part, parts, hsplit⟩ := List.exists_cons_of_ne_nil hne
      simp only [hsplit] at ih ⊢
      cases parts with
      | cons next parts =>
        rw [dropLastEmpty_cons (List.cons_ne_nil _ _)] at ih ⊢
        exact ih.push t
      | nil =>
        cases part with
        | cons u part => exact ih.push t
        -- the last part was empty, and nothing is left
        | nil =>
          cases ih
          exact .last [t]

theorem splitAtCommas_append {part : List Tree} (h : ∀ t ∈ part, t.isPunct ',' = false)
    (trees : List Tree) {first : List Tree} {more : List (List Tree)}
    (hrest : splitAtCommas trees = first :: more) :
    splitAtCommas (part ++ trees) = (part ++ first) :: more := by
  induction part with
  | nil => exact hrest
  | cons t part ih =>
    rw [List.cons_append, splitAtCommas, if_neg (by simp [h t List.mem_cons_self]),
      ih fun u hu => h u (List.mem_cons_of_mem _ hu)]
    rfl

/-- What was joined is split at its commas. -/
theorem splitAtCommas_of_joins {parts : List (List Tree)} {trees : List Tree}
    (h : Joins parts trees)
    (hparts : ∀ part ∈ parts, part ≠ [] ∧ ∀ t ∈ part, t.isPunct ',' = false) :
    dropLastEmpty (splitAtCommas trees) = parts := by
  induction h with
  | nil => rfl
  | last part =>
    obtain ⟨hne, hcomma⟩ := hparts part List.mem_cons_self
    have hsplit := splitAtCommas_append hcomma [] rfl
    rw [List.append_nil] at hsplit
    rw [hsplit]
    obtain ⟨t, rest, rfl⟩ := List.exists_cons_of_ne_nil hne
    rfl
  | cons part joint rest ih =>
    rename_i body
    obtain ⟨-, hcomma⟩ := hparts part List.mem_cons_self
    have hsplit := splitAtCommas_append hcomma (.punct ',' joint :: body) rfl
    rw [hsplit, List.append_nil, dropLastEmpty_cons (splitAtCommas_ne_nil _),
      ih fun u hu => hparts u (List.mem_cons_of_mem _ hu)]

/-- Arguments are read exactly where they are listed. -/
theorem readAll?_eq_some_iff {trees : List Tree} {arguments : List Argument} :
    readAll? trees = some arguments ↔ Lists arguments trees := by
  rw [readAll?, mapM_read?_eq_some_iff]
  constructor
  · exact fun h => ⟨_, h, joins_splitAtCommas trees⟩
  · rintro ⟨parts, hwritten, hjoins⟩
    have hparts := forall_mem_right_of_forall₂ (fun _ _ h => h.no_comma) hwritten
    rwa [splitAtCommas_of_joins hjoins hparts]

/-! ## What an attribute says by itself -/

/-- The arguments that an attribute gives. -/
def ofAttribute : List Tree → List Argument
  | .ident "keyed" :: .group .paren trees :: _ => (readAll? trees).getD []
  | _ => []

/-- The arguments that all attributes of an item give together. -/
def given (attributes : List (List Tree)) : List Argument := attributes.flatMap ofAttribute

/-- The new name that an argument gives. -/
def newName? : Argument → Option String
  | rename literal => Text.literalText? literal
  | _ => none

end Argument

namespace Complaint

/-- What is wrong with an argument: a new name has to be a text. -/
def ofArgument : Argument → List Complaint
  | .rename literal => if (Text.literalText? literal).isSome then [] else [.renameNotText]
  | _ => []

/-- What is wrong with an attribute. -/
def ofAttribute : List Tree → List Complaint
  | .ident "keyed" :: .group .paren trees :: _ =>
    match Argument.readAll? trees with
    | some arguments => arguments.flatMap ofArgument
    | none => [.unknownArgument]
  | .ident "keyed" :: _ => [.argumentsExpected]
  | _ => []

/-- An attribute with which nothing is wrong lists the arguments that it gives. -/
theorem lists_of_ofAttribute_eq_nil {trees : List Tree}
    (h : ofAttribute (.ident "keyed" :: trees) = []) :
    ∃ listed rest, trees = .group .paren listed :: rest ∧
      Argument.Lists (Argument.ofAttribute (.ident "keyed" :: trees)) listed := by
  unfold ofAttribute at h
  split at h
  · rename_i listed rest heq
    obtain rfl := (List.cons.inj heq).2
    refine ⟨listed, rest, rfl, ?_⟩
    split at h
    · rename_i arguments hread
      simpa [Argument.ofAttribute, hread] using Argument.readAll?_eq_some_iff.mp hread
    · exact absurd h (List.cons_ne_nil _ _)
  · exact absurd h (List.cons_ne_nil _ _)
  · rename_i hkeyed
    exact absurd rfl (hkeyed _)

end Complaint

/-! ## What all attributes say -/

namespace Traits

/-- The line of documentation that an attribute gives. -/
def lineOf? : List Tree → Option String
  | .ident "doc" :: rest => docLine? rest
  | _ => none

/-- What is known from arguments and lines of documentation. The last one of several new names
counts. -/
def ofGiven (arguments : List Argument) (doc : List String) : Traits where
  rename := (arguments.filterMap Argument.newName?).getLast?
  skip := .skip ∈ arguments
  parent := .parent ∈ arguments
  null := .null ∈ arguments
  doc := doc

theorem give_ofGiven (arguments : List Argument) (doc : List String) (a : Argument) :
    (ofGiven arguments doc).give a = (ofGiven (arguments ++ [a]) doc, Complaint.ofArgument a) := by
  cases a with
  | rename literal =>
    cases hname : Text.literalText? literal <;>
      simp [give, ofGiven, Complaint.ofArgument, Argument.newName?, hname]
  | skip | parent | null => simp [give, ofGiven, Complaint.ofArgument, Argument.newName?]

theorem giveAll_ofGiven (arguments : List Argument) (doc : List String) (more : List Argument) :
    (ofGiven arguments doc).giveAll more =
      (ofGiven (arguments ++ more) doc, more.flatMap Complaint.ofArgument) := by
  induction more generalizing arguments with
  | nil => rw [List.append_nil]; rfl
  | cons a more ih =>
    simp only [giveAll, give_ofGiven, ih, List.append_assoc, List.singleton_append,
      List.flatMap_cons]

/-- What one attribute adds to what is known. -/
theorem note_ofGiven (arguments : List Argument) (doc : List String) (content : List Tree) :
    (ofGiven arguments doc).note content =
      (ofGiven (arguments ++ Argument.ofAttribute content) (doc ++ (lineOf? content).toList),
        Complaint.ofAttribute content) := by
  unfold note
  split
  · rename_i rest
    have hnone : Argument.ofAttribute (.ident "doc" :: rest) = [] := rfl
    cases hline : docLine? rest with
    | none => simp [lineOf?, hline, hnone, Complaint.ofAttribute]
    | some line => simp [lineOf?, hline, hnone, Complaint.ofAttribute, ofGiven]
  · rename_i trees _
    cases hread : Argument.readAll? trees with
    | none => simp [Argument.ofAttribute, Complaint.ofAttribute, lineOf?, hread]
    | some more =>
      simp [Argument.ofAttribute, Complaint.ofAttribute, lineOf?, hread, giveAll_ofGiven]
  · rename_i rest hno
    have hnone : Argument.ofAttribute (.ident "keyed" :: rest) = [] := by
      unfold Argument.ofAttribute
      split
      · rename_i heq
        exact (hno _ _ (List.cons.inj heq).2).elim
      · rfl
    simp [hnone, Complaint.ofAttribute, lineOf?]
  · simp [Argument.ofAttribute, Complaint.ofAttribute, lineOf?]

/-- What the attributes of an item say, from all the arguments that they give and from their lines
of documentation. What is wrong with each of them does not depend on the others. -/
theorem ofAttributes_eq (attributes : List (List Tree)) :
    ofAttributes attributes =
      (ofGiven (Argument.given attributes) (attributes.filterMap lineOf?),
        attributes.flatMap Complaint.ofAttribute) := by
  suffices h : ∀ arguments doc, (ofGiven arguments doc).noteAll attributes =
      (ofGiven (arguments ++ Argument.given attributes) (doc ++ attributes.filterMap lineOf?),
        attributes.flatMap Complaint.ofAttribute) from h [] []
  induction attributes with
  | nil => intro arguments doc; simp [noteAll, Argument.given]
  | cons content attributes ih =>
    intro arguments doc
    simp only [noteAll, note_ofGiven, ih, Argument.given, List.flatMap_cons, List.append_assoc]
    cases hline : lineOf? content <;> simp [hline]

end Traits

end RecordKeys
