/-
The bytes of texts. A text that comes before another in the order of their characters also comes
before it in the order of their bytes, since a greater character has greater bytes, compared from
the first one on, whatever follows it.
-/
import Mathlib.Data.List.Lex
import Mathlib.Data.String.Basic

namespace RecordKeys.Text

/-- The bytes that a text is stored as. -/
def bytes (s : String) : List UInt8 := s.toByteArray.data.toList

theorem bytes_eq (s : String) : bytes s = s.toList.flatMap String.utf8EncodeChar := by
  rw [bytes, ← String.utf8Encode_toList, List.utf8Encode, List.toList_data_toByteArray]

/-! ## One character -/

theorem toNat_byte {n : Nat} (h : n < 256) : (UInt8.ofNat n).toNat = n := by
  rw [UInt8.toNat_ofNat', Nat.mod_eq_of_lt h]

theorem sextet_lt {m n : Nat} (h : m < n) : m / 64 < n / 64 ∨ m / 64 = n / 64 ∧ m % 64 < n % 64 := by
  omega

/-- Code points compare as their groups of six binary digits do, from the highest group on. -/
theorem sextets_lt {m n : Nat} (h : m < n) (hn : n < 0x110000) :
    m / 262144 % 8 < n / 262144 % 8 ∨ m / 262144 % 8 = n / 262144 % 8 ∧
      (m / 4096 % 64 < n / 4096 % 64 ∨ m / 4096 % 64 = n / 4096 % 64 ∧
        (m / 64 % 64 < n / 64 % 64 ∨ m / 64 % 64 = n / 64 % 64 ∧ m % 64 < n % 64)) := by
  have e (k : Nat) : k / 4096 = k / 64 / 64 ∧ k / 262144 = k / 64 / 64 / 64 := by omega
  rw [Nat.mod_eq_of_lt (by omega : m / 262144 < 8), Nat.mod_eq_of_lt (by omega : n / 262144 < 8),
    (e m).1, (e m).2, (e n).1, (e n).2]
  rcases sextet_lt h with h | ⟨h0, h⟩
  · rcases sextet_lt h with h | ⟨h1, h⟩
    · rcases sextet_lt h with h | ⟨h2, h⟩
      · exact .inl h
      · exact .inr ⟨h2, .inl h⟩
    · exact .inr ⟨by rw [h1], .inr ⟨by rw [h1], .inl h⟩⟩
  · exact .inr ⟨by rw [h0], .inr ⟨by rw [h0], .inr ⟨by rw [h0], h⟩⟩⟩

theorem encode_append_lt {c d : Char} (h : c < d) (r s : List UInt8) :
    String.utf8EncodeChar c ++ r < String.utf8EncodeChar d ++ s := by
  have hlt : c.val.toNat < d.val.toNat := h
  have hd : d.val.toNat < 0x110000 := by
    rcases d.valid with h | h
    · omega
    · exact h.2
  have hs := sextets_lt hlt hd
  unfold String.utf8EncodeChar
  generalize c.val.toNat = m at *
  generalize d.val.toNat = n at *
  simp only
  -- one to four bytes on either side; the shorter encoding has the smaller first byte
  split_ifs <;>
    simp (disch := omega) only [List.cons_append, List.cons_lt_cons_iff, UInt8.lt_iff_toNat_lt,
      ← UInt8.toNat_inj, toNat_byte] <;> omega

/-! ## Texts -/

theorem flatMap_encode_lt : ∀ {a b : List Char}, a < b →
    a.flatMap String.utf8EncodeChar < b.flatMap String.utf8EncodeChar
  | _, [], h => by simp at h
  | [], d :: b, _ => by
    rw [List.flatMap_cons]
    obtain ⟨x, xs, hx⟩ := List.exists_cons_of_ne_nil (String.utf8EncodeChar_ne_nil (c := d))
    rw [hx]; exact List.nil_lt_cons _ _
  | c :: a, d :: b, h => by
    simp only [List.flatMap_cons]
    rcases List.cons_lt_cons_iff.1 h with h | ⟨h, h'⟩
    · exact encode_append_lt h _ _
    · rw [h]; exact List.append_left_lt (flatMap_encode_lt h')

theorem bytes_lt_of_lt {a b : String} (h : a < b) : bytes a < bytes b := by
  rw [bytes_eq, bytes_eq]; exact flatMap_encode_lt (String.lt_iff.1 h)

/-- The order of texts is that of their bytes. -/
theorem lt_iff_bytes_lt (a b : String) : a < b ↔ bytes a < bytes b := by
  refine ⟨bytes_lt_of_lt, fun h => ?_⟩
  rcases lt_trichotomy a b with hlt | rfl | hgt
  · exact hlt
  · exact absurd h (List.lt_irrefl _)
  · exact absurd (List.lt_trans h (bytes_lt_of_lt hgt)) (List.lt_irrefl _)

end RecordKeys.Text
