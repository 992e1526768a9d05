/-
What a written literal stands for. A plain literal is read from left to right; of an escape that has
been begun, it is known how far it has been read. The escapes are those of one letter, a byte of
ASCII by two hexadecimal digits, and a code point in braces, the digits of which are not counted.

Whatever the characters of a text are, the literal that is written for it stands for that text.
-/
import RecordKeys.Text.Literal

namespace RecordKeys.Text

/-! ## Reading -/

/-- The value of a hexadecimal digit. -/
def hexValue? (c : Char) : Option Nat :=
  if '0' ≤ c ∧ c ≤ '9' then some (c.toNat - '0'.toNat)
  else if 'a' ≤ c ∧ c ≤ 'f' then some (c.toNat - 'a'.toNat + 10)
  else if 'A' ≤ c ∧ c ≤ 'F' then some (c.toNat - 'A'.toNat + 10)
  else none

/-- How far the next character of a text has been read. -/
inductive Progress
  | fresh
  | backslash
  | byte
  | lowHalf (high : Nat)
  | opening
  | codePoint (value : Nat)

/-- The text that is read from the body of a plain literal, where the next character has been read
so far. -/
def readFrom? : Progress → List Char → Option (List Char)
  | .fresh, [] => some []
  | _, [] => none
  | .fresh, c :: rest =>
    if c = '\\' then readFrom? .backslash rest
    else if c = '"' then none
    else (readFrom? .fresh rest).map (c :: ·)
  | .backslash, c :: rest =>
    if c = 'x' then readFrom? .byte rest
    else if c = 'u' then readFrom? .opening rest
    else (escaped? c).bind fun d => (readFrom? .fresh rest).map (d :: ·)
  | .byte, c :: rest =>
    ((hexValue? c).filter (· < 8)).bind fun high => readFrom? (.lowHalf high) rest
  | .lowHalf high, c :: rest =>
    (hexValue? c).bind fun low => (readFrom? .fresh rest).map (Char.ofNat (16 * high + low) :: ·)
  | .opening, c :: rest => if c = '\x7b' then readFrom? (.codePoint 0) rest else none
  | .codePoint n, c :: rest =>
    if c = '\x7d' then
      if n.isValidChar then (readFrom? .fresh rest).map (Char.ofNat n :: ·) else none
    else (hexValue? c).bind fun digit => readFrom? (.codePoint (16 * n + digit)) rest

/-- The text that a plain literal stands for. -/
def denoted? (literal : String) : Option String :=
  match literal.toList with
  | '"' :: rest => ((dropEnding? ['"'] rest).bind (readFrom? .fresh)).map String.ofList
  | _ => none

/-! ## Code points -/

theorem hexValue?_digitChar {n : Nat} (h : n < 16) :
    hexValue? n.digitChar = some n ∧ n.digitChar ≠ '\x7d' := by
  revert n
  decide

/-- The digits of a code point are read one after the other. -/
theorem readFrom?_toDigits (n : Nat) (rest : List Char) :
    readFrom? (.codePoint 0) (Nat.toDigits 16 n ++ rest) = readFrom? (.codePoint n) rest := by
  have hdigit : ∀ high low rest, low < 16 →
      readFrom? (.codePoint high) (low.digitChar :: rest) =
        readFrom? (.codePoint (16 * high + low)) rest := by
    intro high low rest hlow
    obtain ⟨hvalue, hne⟩ := hexValue?_digitChar hlow
    rw [readFrom?, if_neg hne, hvalue, Option.bind_some]
  induction n using Nat.strongRecOn generalizing rest with
  | ind n ih =>
    rcases Nat.lt_or_ge n 16 with hlt | hge
    · rw [Nat.toDigits_of_lt_base hlt, List.singleton_append, hdigit 0 n rest hlt, Nat.mul_zero,
        Nat.zero_add]
    · rw [Nat.toDigits_of_base_le (by decide) hge, List.append_assoc, List.singleton_append,
        ih (n / 16) (by omega), hdigit _ _ rest (by omega), Nat.div_add_mod]

/-! ## Characters -/

/-- A character is read from its escape, and from itself if it has none. -/
theorem readFrom?_escapeChar (c : Char) (rest : List Char) :
    readFrom? .fresh (escapeChar ⟨true, false⟩ c ++ rest) =
      (readFrom? .fresh rest).map (c :: ·) := by
  by_cases hletter : c ∈ ['\x00', '\t', '\r', '\n', '\\', '"', '\'']
  · simp only [List.mem_cons, List.not_mem_nil, or_false] at hletter
    rcases hletter with rfl | rfl | rfl | rfl | rfl | rfl | rfl <;> rfl
  simp only [List.mem_cons, List.not_mem_nil, or_false, not_or] at hletter
  obtain ⟨hzero, htab, hreturn, hnewline, hbackslash, hquote, hapostrophe⟩ := hletter
  simp only [escapeChar, if_neg hzero, if_neg htab, if_neg hreturn, if_neg hnewline,
    if_neg hbackslash, if_neg hquote, if_neg hapostrophe]
  split
  · have hvalid : c.toNat.isValidChar := c.valid
    have hread : readFrom? .fresh (codePointEscape c ++ rest) =
        readFrom? (.codePoint 0) (Nat.toDigits 16 c.toNat ++ '\x7d' :: rest) := by
      simp [codePointEscape, readFrom?]
    rw [hread, readFrom?_toDigits, readFrom?, if_pos rfl, if_pos hvalid, Char.ofNat_toNat]
  · rw [List.singleton_append, readFrom?, if_neg hbackslash, if_neg hquote]

/-- The zero character is written in two ways. -/
theorem readFrom?_zero {zero : List Char} (h : zero = ['\\', 'x', '0', '0'] ∨ zero = ['\\', '0'])
    (rest : List Char) :
    readFrom? .fresh (zero ++ rest) = (readFrom? .fresh rest).map ('\x00' :: ·) := by
  rcases h with rfl | rfl <;> rfl

/-- What has been written is read back. -/
theorem readFrom?_literalBody (s : List Char) : readFrom? .fresh (literalBody s) = some s := by
  induction s with
  | nil => rfl
  | cons c rest ih =>
    unfold literalBody
    split
    · subst c
      rw [readFrom?_zero, ih, Option.map_some]
      split
      · split
        · exact .inl rfl
        · exact .inr rfl
      · exact .inr rfl
    · rw [readFrom?_escapeChar, ih, Option.map_some]

/-- The literal that is written for a text stands for it. -/
theorem denoted?_literal (s : String) : denoted? (literal s) = some s := by
  have hending : dropEnding? ['"'] (literalBody s.toList ++ ['"']) =
      some (literalBody s.toList) := by
    simp [dropEnding?]
  rw [denoted?, literal, String.toList_ofList, List.append_assoc, List.singleton_append]
  simp only [hending, Option.bind_some, readFrom?_literalBody, Option.map_some,
    String.ofList_toList]

end RecordKeys.Text
