import Mathlib.Logic.Basic

/-! Letters and digits: the code points of the ASCII characters that names are made of. -/

namespace RemoteRecords

variable {c : Char}

/-- Letters are two ranges of code points. -/
theorem isAlpha_iff : c.isAlpha = true ↔
    65 ≤ c.val.toNat ∧ c.val.toNat ≤ 90 ∨ 97 ≤ c.val.toNat ∧ c.val.toNat ≤ 122 := by
  -- Comparing characters is comparing their code points, and the bounds are those of A, Z, a and z.
  change (decide ('A'.val ≤ c.val ∧ c.val ≤ 'Z'.val) ||
    decide ('a'.val ≤ c.val) && decide (c.val ≤ 'z'.val)) = true ↔ _
  simp only [Bool.or_eq_true, Bool.and_eq_true, decide_eq_true_eq, UInt32.le_iff_toNat_le]
  exact Iff.rfl

/-- Digits are one range of code points. -/
theorem isDigit_iff : c.isDigit = true ↔ 48 ≤ c.val.toNat ∧ c.val.toNat ≤ 57 := by
  -- As for letters, with the code points of 0 and 9 as bounds.
  change (decide ('0'.val ≤ c.val) && decide (c.val ≤ '9'.val)) = true ↔ _
  simp only [Bool.and_eq_true, decide_eq_true_eq, UInt32.le_iff_toNat_le]
  exact Iff.rfl

/-- No letter is a digit. -/
theorem isDigit_of_isAlpha (letter : c.isAlpha = true) : c.isDigit = false := by
  -- The range of the digits does not meet those of the letters.
  rw [← Bool.not_eq_true, isDigit_iff]
  rw [isAlpha_iff] at letter
  omega

/-- Letters and digits are ASCII characters. -/
theorem toNat_lt_of_isAlphanum (alphanumeric : c.isAlphanum = true) : c.toNat < 128 := by
  -- All three ranges end below 128.
  change c.val.toNat < 128
  rw [Char.isAlphanum, Bool.or_eq_true, isAlpha_iff, isDigit_iff] at alphanumeric
  omega

end RemoteRecords
