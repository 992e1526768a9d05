/-
What attributes say does not depend on how the texts in them are written. A text that is written in
two ways is read as the same text, so a new name is the same, and so is a line of documentation.
-/
import RecordKeys.Proofs.Declaration.Arguments
import RecordKeys.Proofs.Text.Literal

namespace RecordKeys

/-- What is related to a list in two pieces is in two pieces itself. -/
theorem exists_append_of_forall₂ {α β : Type} {R : α → β → Prop} {as more : List α} {bs : List β}
    (h : List.Forall₂ R (as ++ more) bs) :
    ∃ front back, List.Forall₂ R as front ∧ List.Forall₂ R more back ∧ bs = front ++ back := by
  have hflip : List.Forall₂ (flip R) bs (as ++ more) := h.flip
  exact ⟨bs.take as.length, bs.drop as.length, (List.forall₂_take_append _ _ _ hflip).flip,
    (List.forall₂_drop_append _ _ _ hflip).flip, (List.take_append_drop _ _).symm⟩

/-- Two trees that are the same, or literals of one text. -/
inductive Tree.Respelled : Tree → Tree → Prop
  | refl (t : Tree) : Respelled t t
  | literal {s first second : String} (h : Text.Spells s.toList first.toList)
    (h' : Text.Spells s.toList second.toList) : Respelled (.literal first) (.literal second)

/-- Two attributes that are the same but for the ways in which texts are written: the line of an
attribute of documentation, or texts among the arguments of the attribute `keyed`. -/
inductive Attribute.Respelled : List Tree → List Tree → Prop
  | refl (content : List Tree) : Respelled content content
  | doc (joint : Bool) {line other : Tree} (h : line.Respelled other) :
    Respelled [.ident "doc", .punct '=' joint, line] [.ident "doc", .punct '=' joint, other]
  | keyed {trees others : List Tree} (h : List.Forall₂ Tree.Respelled trees others)
    (rest : List Tree) :
    Respelled (.ident "keyed" :: .group .paren trees :: rest)
      (.ident "keyed" :: .group .paren others :: rest)

/-- The attribute that gives a new name. -/
def Attribute.newName (joint : Bool) (literal : String) : List Tree :=
  [.ident "keyed", .group .paren [.ident "rename", .punct '=' joint, .literal literal]]

theorem Tree.Respelled.symm {t u : Tree} (h : t.Respelled u) : u.Respelled t := by
  cases h with
  | refl => exact .refl t
  | literal h h' => exact .literal h' h

/-! ## Arguments -/

namespace Argument

/-- Two arguments that say the same. -/
def Agrees (a b : Argument) : Prop := ∀ t : Traits, t.give a = t.give b

theorem agrees_rename {s first second : String} (h : Text.Spells s.toList first.toList)
    (h' : Text.Spells s.toList second.toList) : (rename first).Agrees (rename second) := by
  intro t
  rw [Traits.give, Traits.give, Text.literalText?_of_spells h, Text.literalText?_of_spells h']

theorem Written.respelled {a : Argument} {part others : List Tree} (h : Written a part)
    (hrespelled : List.Forall₂ Tree.Respelled part others) :
    ∃ b, Written b others ∧ a.Agrees b := by
  cases h with
  | rename literal joint =>
    obtain _ | ⟨hrename, _ | ⟨hmark, _ | ⟨hliteral, hnil⟩⟩⟩ := hrespelled
    cases hrename
    cases hmark
    cases hnil
    cases hliteral with
    | refl => exact ⟨_, .rename literal joint, fun _ => rfl⟩
    | literal h h' => exact ⟨_, .rename _ joint, agrees_rename h h'⟩
  | skip | parent | null =>
    obtain _ | ⟨hword, hnil⟩ := hrespelled
    cases hword
    cases hnil
    exact ⟨_, by constructor, fun _ => rfl⟩

/-- What is written in other ways is still a list of arguments, and they say the same. -/
theorem Lists.respelled {arguments : List Argument} {trees others : List Tree}
    (h : Lists arguments trees) (hrespelled : List.Forall₂ Tree.Respelled trees others) :
    ∃ more, Lists more others ∧ List.Forall₂ Agrees arguments more := by
  obtain ⟨parts, hwritten, hjoins⟩ := h
  induction hjoins generalizing arguments others with
  | nil =>
    cases hrespelled
    cases hwritten
    exact ⟨[], ⟨[], .nil, .nil⟩, .nil⟩
  | last part =>
    obtain _ | ⟨ha, hnil⟩ := hwritten
    cases hnil
    obtain ⟨b, hb, hagrees⟩ := ha.respelled hrespelled
    exact ⟨[b], ⟨[others], .cons hb .nil, .last others⟩, .cons hagrees .nil⟩
  | cons part joint rest ih =>
    obtain _ | ⟨ha, hmore⟩ := hwritten
    obtain ⟨first, behind, hfirst, hbehind, rfl⟩ := exists_append_of_forall₂ hrespelled
    obtain _ | ⟨hcomma, hbody⟩ := hbehind
    cases hcomma
    obtain ⟨b, hb, hagrees⟩ := ha.respelled hfirst
    obtain ⟨more, ⟨parts, hparts, hjoins⟩, hall⟩ := ih hbody hmore
    exact ⟨b :: more, ⟨first :: parts, .cons hb hparts, .cons first joint hjoins⟩,
      .cons hagrees hall⟩

theorem readAll?_respelled {arguments : List Argument} {trees others : List Tree}
    (hrespelled : List.Forall₂ Tree.Respelled trees others)
    (h : readAll? trees = some arguments) :
    ∃ more, readAll? others = some more ∧ List.Forall₂ Agrees arguments more := by
  obtain ⟨more, hmore, hagrees⟩ := (readAll?_eq_some_iff.mp h).respelled hrespelled
  exact ⟨more, readAll?_eq_some_iff.mpr hmore, hagrees⟩

end Argument

/-! ## Attributes -/

namespace Traits

theorem giveAll_of_agrees {arguments others : List Argument}
    (h : List.Forall₂ Argument.Agrees arguments others) (t : Traits) :
    t.giveAll arguments = t.giveAll others := by
  induction h generalizing t with
  | nil => rfl
  | cons hab _ ih => simp only [giveAll, hab t, ih]

theorem note_respelled {content other : List Tree} (h : Attribute.Respelled content other)
    (t : Traits) : t.note content = t.note other := by
  cases h with
  | refl => rfl
  | doc joint h =>
    cases h with
    | refl => rfl
    | literal h h' =>
      simp only [note, docLine?, Text.literalText?_of_spells h, Text.literalText?_of_spells h']
  | @keyed trees others h rest =>
    cases hread : Argument.readAll? trees with
    | some arguments =>
      obtain ⟨more, hmore, hagrees⟩ := Argument.readAll?_respelled h hread
      simp only [note, hread, hmore]
      exact giveAll_of_agrees hagrees t
    -- what can be read in one way of writing can be read in the other one
    | none =>
      have hnone : Argument.readAll? others = none := by
        by_contra hsome
        obtain ⟨more, hmore⟩ := Option.ne_none_iff_exists'.mp hsome
        have hback : List.Forall₂ Tree.Respelled others trees :=
          .flip (h.imp fun _ _ hrespelled => hrespelled.symm)
        obtain ⟨arguments, harguments, -⟩ := Argument.readAll?_respelled hback hmore
        rw [hread] at harguments
        cases harguments
      simp only [note, hread, hnone]

theorem ofAttributes_respelled {attributes others : List (List Tree)}
    (h : List.Forall₂ Attribute.Respelled attributes others) :
    ofAttributes attributes = ofAttributes others := by
  suffices hall : ∀ t : Traits, t.noteAll attributes = t.noteAll others from hall {}
  induction h with
  | nil => exact fun _ => rfl
  | cons hab _ ih =>
    intro t
    simp only [noteAll, note_respelled hab, ih]

/-- One attribute more is taken into account after all others. -/
theorem ofAttributes_concat (attributes : List (List Tree)) (content : List Tree) :
    ofAttributes (attributes ++ [content]) =
      (((ofAttributes attributes).1.note content).1,
        (ofAttributes attributes).2 ++ ((ofAttributes attributes).1.note content).2) := by
  rw [ofAttributes_eq, ofAttributes_eq, note_ofGiven]
  cases hline : lineOf? content <;> simp [Argument.given, hline]

/-- A new name is the text that is written, and nothing else is changed by it. -/
theorem note_newName {s literal : String} (h : Text.Spells s.toList literal.toList) (t : Traits)
    (joint : Bool) :
    t.note (Attribute.newName joint literal) = ({ t with rename := some s }, []) := by
  have hread : Argument.readAll? [.ident "rename", .punct '=' joint, .literal literal] =
    some [.rename literal] := rfl
  simp only [note, Attribute.newName, hread, giveAll, give, Text.literalText?_of_spells h,
    List.append_nil]

/-- However a text is written, plain or raw, it is read as that text, and it is the new name if it
is given as one. So attributes that are written in different ways say the same. -/
theorem spellings_agree :
    (∀ s literal : String, Text.Spells s.toList literal.toList →
      Text.literalText? literal = some s ∧
      ∀ (attributes : List (List Tree)) (joint : Bool),
        ofAttributes (attributes ++ [Attribute.newName joint literal]) =
          ({ (ofAttributes attributes).1 with rename := some s }, (ofAttributes attributes).2)) ∧
    ∀ {attributes others : List (List Tree)}, List.Forall₂ Attribute.Respelled attributes others →
      ofAttributes attributes = ofAttributes others := by
  refine ⟨fun s literal h => ⟨Text.literalText?_of_spells h, fun attributes joint => ?_⟩,
    ofAttributes_respelled⟩
  rw [ofAttributes_concat, note_newName h, List.append_nil]

/-- A text with a quotation mark before a hash, and a backslash at its end. -/
def quotedText : String := "it's\n\"#\\"

/-- The text as a plain literal. -/
def quotedPlain : String := "\"it\\'s\\n\\\"#\\\\\""

/-- The text as a raw literal. -/
def quotedRaw : String := "r##\"it's\n\"#\\\"##"

theorem spellings_agree_quoted :
    Text.Spells quotedText.toList quotedPlain.toList ∧
    Text.Spells quotedText.toList quotedRaw.toList ∧
    Text.literalText? quotedPlain = some quotedText ∧
    (ofAttributes [Attribute.newName false quotedPlain]).1.rename = some quotedText ∧
    ofAttributes [Attribute.newName false quotedPlain] =
      ofAttributes [Attribute.newName false quotedRaw] := by
  have hplain : Text.Spells quotedText.toList quotedPlain.toList :=
    .plain <| .cons (.verbatim (by decide) (by decide)) <|
      .cons (.verbatim (by decide) (by decide)) <| .cons .apostrophe <|
      .cons (.verbatim (by decide) (by decide)) <| .cons .newline <| .cons .quote <|
      .cons (.verbatim (by decide) (by decide)) <| .cons .backslash .nil
  have htext : quotedText.toList = ['i', 't', '\'', 's', '\n', '"', '#', '\\'] := rfl
  have hraw : Text.Spells quotedText.toList quotedRaw.toList := .raw 2 (by rw [htext]; decide)
  obtain ⟨hread, hrename⟩ := spellings_agree.1 quotedText quotedPlain hplain
  have hrespelled : Attribute.Respelled (Attribute.newName false quotedPlain)
      (Attribute.newName false quotedRaw) :=
    .keyed (.cons (.refl _) <| .cons (.refl _) <| .cons (.literal hplain hraw) .nil) []
  have hname := hrename [] false
  rw [List.nil_append] at hname
  exact ⟨hplain, hraw, hread, by rw [hname], spellings_agree.2 (.cons hrespelled .nil)⟩

end Traits

end RecordKeys
