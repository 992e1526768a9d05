/-
Lower-casing, taken as a whole. What has been lowered is not changed by lowering it again: the
small letters are not among the characters that are lowered, and both small sigmas stay what they
are wherever they stand. The characters that are lowered although they are no capitals are the
letters in title case, such as `ǅ`, so a text without capitals is changed only if it holds one.

What the tables say about whole sets of characters is checked on numbers whose binary digits are
the code points of the sets.
-/
import RecordKeys.Text.Lowercase
import Mathlib.Data.Nat.Bitwise

namespace RecordKeys.Text

/-! ## Sets of code points -/

/-- The code points of a run, as the binary digits of a number. -/
def Run.bits (r : Run) : Nat :=
  Nat.ofBits (n := r.last + 1 - r.first) (fun i => i.val % r.step == 0) <<< r.first

/-- The code points of several runs. -/
def bits (runs : List Run) : Nat := runs.foldr (fun r n => r.bits ||| n) 0

theorem Run.testBit_bits (r : Run) (n : Nat) : r.bits.testBit n = r.covers n := by
  unfold bits covers
  rw [Nat.testBit_shiftLeft]
  by_cases hfirst : r.first ≤ n
  · by_cases hlast : n ≤ r.last
    · rw [Nat.testBit_ofBits_lt _ _ (by omega)]
      simp [hfirst, hlast]
    · rw [Nat.testBit_ofBits_ge _ _ (by omega)]
      simp [hlast]
  · simp [hfirst]

theorem testBit_bits (runs : List Run) (n : Nat) :
    (bits runs).testBit n = runs.any (·.covers n) := by
  induction runs with
  | nil => simp [bits]
  | cons r runs ih =>
    rw [bits, List.foldr_cons, ← bits, Nat.testBit_or, Run.testBit_bits, ih, List.any_cons]

/-! ## What the tables say -/

/-- The letters in title case: digraphs of which only the first letter is large, and Greek letters
with a small iota beside them. -/
def titles : List Run := [
  ⟨0x01C5, 0x01CB, 3⟩, ⟨0x01F2, 0x01F2, 1⟩, ⟨0x1F88, 0x1F8F, 1⟩, ⟨0x1F98, 0x1F9F, 1⟩,
  ⟨0x1FA8, 0x1FAF, 1⟩, ⟨0x1FBC, 0x1FBC, 1⟩, ⟨0x1FCC, 0x1FCC, 1⟩, ⟨0x1FFC, 0x1FFC, 1⟩]

/-- Whether a character is a letter in title case. -/
def isTitle (c : Char) : Bool := titles.any (·.covers c.toNat)

/-- Whether a text holds a letter in title case. -/
def hasTitle (s : String) : Bool := s.toList.any isTitle

/-- The characters that are lowered: the dotted capital I, and those that have one small letter. -/
def lowered : List Run := ⟨0x0130, 0x0130, 1⟩ :: lowerings.map (·.run)

/-- Whether lowering leaves a character as it is. -/
def isLow (c : Char) : Bool := !lowered.any (·.covers c.toNat)

/-- The small letters of a run. -/
def Lowering.target (l : Lowering) : Run :=
  ⟨l.image, l.image + (l.run.last - l.run.first), l.run.step⟩

/-- No small letter is lowered again. -/
theorem targets_and_lowered : bits (lowerings.map (·.target)) &&& bits lowered = 0 := by
  decide +kernel

/-- Apart from the capitals, those that are lowered are the letters in title case. -/
theorem lowered_or_capitals : bits lowered ||| bits capitals = bits titles ||| bits capitals := by
  decide +kernel

/-! ## One character -/

theorem isLow_iff {c : Char} : isLow c ↔ c ≠ 'İ' ∧ lowerCode c.toNat = none := by
  have hcode : lowerCode c.toNat = none ↔ ∀ l ∈ lowerings, l.run.covers c.toNat = false := by
    unfold lowerCode
    rw [Option.map_eq_none_iff, List.find?_eq_none]
    simp
  have hdotted : (⟨0x0130, 0x0130, 1⟩ : Run).covers c.toNat = false ↔ c ≠ 'İ' := by
    have hrun : (⟨0x0130, 0x0130, 1⟩ : Run).covers c.toNat = true ↔ c.toNat = 'İ'.toNat := by
      simp only [Run.covers, Nat.mod_one, Bool.and_eq_true, Nat.ble_eq, beq_iff_eq, and_true]
      show 0x0130 ≤ c.toNat ∧ c.toNat ≤ 0x0130 ↔ c.toNat = 0x0130
      omega
    rw [Ne, ← Char.toNat_inj, ← hrun, Bool.not_eq_true]
  rw [hcode, ← hdotted]
  simp [isLow, lowered]

theorem lowerChar_of_isLow {c : Char} (h : isLow c) : lowerChar c = [c] := by
  obtain ⟨hdotted, hcode⟩ := isLow_iff.1 h
  rw [lowerChar, if_neg hdotted, hcode]

theorem ne_sigma_of_isLow {c : Char} (h : isLow c) : c ≠ 'Σ' := by
  rintro rfl
  have hsigma : isLow 'Σ' = false := by decide +kernel
  rw [hsigma] at h; cases h

/-- The small letter of a code point is one of the small letters of the tables. -/
theorem target_covers_of_lowerCode {n m : Nat} (h : lowerCode n = some m) :
    (lowerings.map (·.target)).any (·.covers m) = true := by
  obtain ⟨l, hl, rfl⟩ := Option.map_eq_some_iff.1 h
  have hcovers : l.run.covers n = true := List.find?_some (p := fun l : Lowering => l.run.covers n) hl
  refine List.any_eq_true.2 ⟨l.target, List.mem_map_of_mem (List.mem_of_find?_eq_some hl), ?_⟩
  simp only [Run.covers, Lowering.target, Bool.and_eq_true, Nat.ble_eq, beq_iff_eq] at hcovers ⊢
  obtain ⟨⟨hfirst, hlast⟩, hstep⟩ := hcovers
  rw [Nat.add_sub_cancel_left]
  exact ⟨⟨Nat.le_add_right .., by omega⟩, hstep⟩

theorem isLow_ofNat_of_lowerCode {n m : Nat} (h : lowerCode n = some m) : isLow (Char.ofNat m) := by
  have hnone : (bits (lowerings.map (·.target)) &&& bits lowered).testBit m = false := by
    rw [targets_and_lowered, Nat.zero_testBit]
  rw [Nat.testBit_and, testBit_bits, testBit_bits, target_covers_of_lowerCode h,
    Bool.true_and] at hnone
  by_cases hvalid : m.isValidChar
  · have hchar : (Char.ofNat m).toNat = m := by rw [Char.ofNat, dif_pos hvalid]; rfl
    rw [isLow, hchar, hnone]; rfl
  · -- what is no character would stand for the null character
    have hchar : Char.ofNat m = Char.ofNat 0 := by rw [Char.ofNat, dif_neg hvalid]; rfl
    rw [hchar]; decide +kernel

/-- What a character is lowered to is not lowered again. -/
theorem isLow_of_mem_lowerChar {c d : Char} (hd : d ∈ lowerChar c) : isLow d := by
  unfold lowerChar at hd
  split at hd
  · have hdots : ['i', Char.ofNat 0x0307].all isLow := by decide +kernel
    exact List.all_eq_true.1 hdots d hd
  · rename_i hdotted
    cases hcode : lowerCode c.toNat with
    | some m =>
      rw [hcode] at hd
      rw [List.mem_singleton.1 hd]; exact isLow_ofNat_of_lowerCode hcode
    | none =>
      rw [hcode] at hd
      rw [List.mem_singleton.1 hd]; exact isLow_iff.2 ⟨hdotted, hcode⟩

theorem isLow_lowerSigma (before after : List Char) : isLow (lowerSigma before after) := by
  unfold lowerSigma
  split <;> decide +kernel

/-- A character that is no capital is lowered exactly if it is a letter in title case. -/
theorem isLow_eq_not_isTitle {c : Char} (h : isCapital c = false) : isLow c = !isTitle c := by
  have hboth := congrArg (·.testBit c.toNat) lowered_or_capitals
  have hcapital : capitals.any (·.covers c.toNat) = false := h
  simp only [Nat.testBit_or, testBit_bits, hcapital, Bool.or_false] at hboth
  rw [isLow, isTitle, hboth]

/-! ## Texts -/

theorem lowerFrom_of_isLow {s : List Char} (h : ∀ c ∈ s, isLow c) (before : List Char) :
    lowerFrom before s = s := by
  induction s generalizing before with
  | nil => rfl
  | cons c s ih =>
    obtain ⟨hc, hs⟩ := List.forall_mem_cons.1 h
    rw [lowerFrom, if_neg (ne_sigma_of_isLow hc), lowerChar_of_isLow hc, ih hs, List.cons_append,
      List.nil_append]

theorem isLow_of_mem_lowerFrom {before s : List Char} {d : Char} (hd : d ∈ lowerFrom before s) :
    isLow d := by
  induction s generalizing before with
  | nil => cases hd
  | cons c s ih =>
    rw [lowerFrom] at hd
    rcases List.mem_append.1 hd with hd | hd
    · split at hd
      · rw [List.mem_singleton.1 hd]; exact isLow_lowerSigma before s
      · exact isLow_of_mem_lowerChar hd
    · exact ih hd

theorem isLow_of_mem_lowercase {s : String} {d : Char} (hd : d ∈ (lowercase s).toList) :
    isLow d := by
  rw [lowercase, String.toList_ofList] at hd
  exact isLow_of_mem_lowerFrom hd

/-- A text is left as it is by lowering exactly if each of its characters is. -/
theorem lowercase_eq_self_iff {s : String} : lowercase s = s ↔ ∀ c ∈ s.toList, isLow c := by
  constructor
  · intro h c hc
    rw [← h] at hc
    exact isLow_of_mem_lowercase hc
  · intro h
    rw [lowercase, lowerFrom_of_isLow h, String.ofList_toList]

/-- What has been lowered is not changed by lowering it again. -/
theorem lowercase_lowercase (s : String) : lowercase (lowercase s) = lowercase s :=
  lowercase_eq_self_iff.2 fun _ => isLow_of_mem_lowercase

/-- A text without capitals is left as it is exactly if it holds no letter in title case. -/
theorem lowercase_eq_self_of_no_capital {s : String} (h : hasCapital s = false) :
    lowercase s = s ↔ hasTitle s = false := by
  rw [lowercase_eq_self_iff, hasTitle, List.any_eq_false]
  refine forall₂_congr fun c hc => ?_
  have hc : isCapital c = false := by
    unfold hasCapital at h
    simpa using List.any_eq_false.1 h c hc
  rw [isLow_eq_not_isTitle hc, Bool.not_eq_true', Bool.not_eq_true]

end RecordKeys.Text
