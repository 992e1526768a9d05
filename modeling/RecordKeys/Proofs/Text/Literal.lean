/-
String literals as they may be written, and what is read from them. In a plain literal a character
stands for itself or is written with a backslash; in a raw literal all characters stand for
themselves, and so many hashes are put around it that its text does not end it.

Every way of writing a text is read as that text. Reading is kinder than that: whatever stands
between the marks of a literal is taken for a text.
-/
import Mathlib.Data.List.TakeWhile
import RecordKeys.Text.Literal

namespace RecordKeys.Text

/-- The ways of writing a character in a plain literal. -/
inductive SpellsChar : Char → List Char → Prop
  | verbatim {c : Char} (quote : c ≠ '"') (backslash : c ≠ '\\') : SpellsChar c [c]
  | newline : SpellsChar '\n' ['\\', 'n']
  | tab : SpellsChar '\t' ['\\', 't']
  | carriage : SpellsChar '\r' ['\\', 'r']
  | zero : SpellsChar '\x00' ['\\', '0']
  | backslash : SpellsChar '\\' ['\\', '\\']
  | quote : SpellsChar '"' ['\\', '"']
  | apostrophe : SpellsChar '\'' ['\\', '\'']

/-- The ways of writing a text between the marks of a plain literal. -/
inductive SpellsBody : List Char → List Char → Prop
  | nil : SpellsBody [] []
  | cons {c : Char} {s spelled body : List Char} (first : SpellsChar c spelled)
    (rest : SpellsBody s body) : SpellsBody (c :: s) (spelled ++ body)

/-- The ways of writing a text as a literal. A raw literal is between so many hashes that they do
not follow a quotation mark in the text. -/
inductive Spells (s : List Char) : List Char → Prop
  | plain {body : List Char} (h : SpellsBody s body) : Spells s ('"' :: (body ++ ['"']))
  | raw (hashes : Nat) (h : ¬ '"' :: List.replicate hashes '#' <:+: s) :
    Spells s ('r' :: (List.replicate hashes '#' ++ '"' :: (s ++ '"' :: List.replicate hashes '#')))

/-! ## Escapes -/

theorem unescape_cons {c : Char} (h : c ≠ '\\') (rest : List Char) :
    unescape (c :: rest) = c :: unescape rest := by
  rw [unescape]
  · exact fun hc => absurd hc h
  · exact fun _ _ hc => absurd hc h

theorem SpellsChar.unescape_append {c : Char} {spelled : List Char} (h : SpellsChar c spelled)
    (rest : List Char) : unescape (spelled ++ rest) = c :: unescape rest := by
  cases h with
  | verbatim _ hbackslash => exact unescape_cons hbackslash rest
  | newline | tab | carriage | zero | backslash | quote | apostrophe => rfl

theorem SpellsBody.unescape_eq {s body : List Char} (h : SpellsBody s body) :
    unescape body = s := by
  induction h with
  | nil => rfl
  | cons first _ ih => rw [first.unescape_append, ih]

/-! ## Reading -/

theorem dropEnding?_eq_some_iff {ending s t : List Char} :
    dropEnding? ending s = some t ↔ s = t ++ ending := by
  unfold dropEnding?
  constructor
  · intro h
    split at h
    · rename_i hsuffix
      obtain ⟨before, rfl⟩ := List.isSuffixOf_iff_suffix.mp hsuffix
      simpa using h
    · cases h
  · rintro rfl
    simp

/-- A raw literal has a text between its quotation marks if as many hashes follow as come before. -/
theorem readRaw?_eq_some_iff {s t : List Char} :
    readRaw? s = some t ↔
      ∃ n, s = List.replicate n '#' ++ '"' :: (t ++ '"' :: List.replicate n '#') := by
  unfold readRaw?
  constructor
  · intro h
    have hhashes : s.takeWhile (· == '#') = List.replicate (s.takeWhile (· == '#')).length '#' :=
      List.eq_replicate_of_mem fun c hc => by simpa using List.mem_takeWhile_imp hc
    refine ⟨(s.takeWhile (· == '#')).length, ?_⟩
    rw [← hhashes]
    split at h
    · rename_i body hrest
      obtain ⟨before, hbody, hbefore⟩ := Option.bind_eq_some_iff.mp h
      rw [dropEnding?_eq_some_iff] at hbody hbefore
      rw [hbefore, List.append_assoc, List.singleton_append] at hbody
      rw [← hbody, ← hrest, List.takeWhile_append_dropWhile]
    · cases h
  · rintro ⟨n, rfl⟩
    have hhash : ∀ c ∈ List.replicate n '#', (c == '#') = true := by simp
    rw [List.takeWhile_append_of_pos hhash, List.dropWhile_append_of_pos hhash]
    refine Option.bind_eq_some_iff.mpr ⟨t ++ ['"'], ?_, dropEnding?_eq_some_iff.mpr rfl⟩
    simp [dropEnding?_eq_some_iff]

/-- What is read from a literal. -/
theorem readLiteral?_eq_some_iff {literal s : List Char} :
    readLiteral? literal = some s ↔
      (∃ body, literal = '"' :: (body ++ ['"']) ∧ unescape body = s) ∨
      ∃ n, literal =
        'r' :: (List.replicate n '#' ++ '"' :: (s ++ '"' :: List.replicate n '#')) := by
  unfold readLiteral?
  split
  · rename_i rest
    simp [readRaw?_eq_some_iff]
  · rename_i rest
    simp [dropEnding?_eq_some_iff]
  · rename_i hraw hplain
    constructor
    · nofun
    · rintro (⟨body, h, -⟩ | ⟨n, h⟩)
      · exact (hplain _ h).elim
      · exact (hraw _ h).elim

theorem Spells.readLiteral?_eq {s literal : List Char} (h : Spells s literal) :
    readLiteral? literal = some s := by
  cases h with
  | plain hbody => exact readLiteral?_eq_some_iff.mpr (.inl ⟨_, rfl, hbody.unescape_eq⟩)
  | raw hashes => exact readLiteral?_eq_some_iff.mpr (.inr ⟨hashes, rfl⟩)

/-- Every way of writing a text is read as that text. -/
theorem literalText?_of_spells {s literal : String} (h : Spells s.toList literal.toList) :
    literalText? literal = some s := by
  rw [literalText?, h.readLiteral?_eq, Option.map_some, String.ofList_toList]

end RecordKeys.Text
