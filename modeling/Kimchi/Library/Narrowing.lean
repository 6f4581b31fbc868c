import Mathlib.Algebra.Ring.Int.Defs

/-!
# Narrowing casts

Casts between machine integers of different width or signedness keep the bits that
fit.  For each cast, its value as an integer and the range on which it changes
nothing.
-/

namespace Library

/-- 64 bits signed to 16 bits unsigned. -/
theorem toInt_toUInt16 (n : Int64) : (n.toUInt64.toUInt16.toNat : Int) = n.toInt % 2 ^ 16 := by
  have hbits : n.toUInt64.toUInt16.toNat = n.toBitVec.toNat % 2 ^ 16 := rfl
  have hsigned : n.toInt = n.toBitVec.toInt := rfl
  rw [hbits, hsigned, BitVec.toInt_eq_toNat_bmod, Int.bmod_def]
  split <;> omega

/-- 32 bits signed to 32 bits unsigned. -/
theorem toInt_toUInt32 (m : Int32) : (m.toUInt32.toNat : Int) = m.toInt % 2 ^ 32 := by
  have hbits : m.toUInt32.toNat = m.toBitVec.toNat := rfl
  have hsigned : m.toInt = m.toBitVec.toInt := rfl
  have hlt := m.toBitVec.isLt
  rw [hbits, hsigned, BitVec.toInt_eq_toNat_bmod, Int.bmod_def]
  split <;> omega

/-- 32 bits signed to 64 bits unsigned, by sign extension. -/
theorem toInt_toUInt64 (m : Int32) : (m.toInt64.toUInt64.toNat : Int) = m.toInt % 2 ^ 64 := by
  have hbits : m.toInt64.toUInt64.toNat = m.toInt64.toBitVec.toNat := rfl
  have hsigned : m.toInt64.toInt = m.toInt64.toBitVec.toInt := rfl
  have hlt := m.toInt64.toBitVec.isLt
  rw [← Int32.toInt_toInt64 m, hbits, hsigned, BitVec.toInt_eq_toNat_bmod, Int.bmod_def]
  split <;> omega

theorem toUInt16_exact_iff {n : Int64} :
    (n.toUInt64.toUInt16.toNat : Int) = n.toInt ↔ 0 ≤ n.toInt ∧ n.toInt < 2 ^ 16 := by
  rw [toInt_toUInt16]
  omega

theorem toInt32_exact_iff {n : Int64} :
    n.toInt32.toInt = n.toInt ↔ -2 ^ 31 ≤ n.toInt ∧ n.toInt < 2 ^ 31 := by
  rw [Int64.toInt_toInt32, Int.bmod_def]
  have hlt := n.toInt_lt
  have hle := n.le_toInt
  split <;> omega

theorem toUInt32_exact_iff {m : Int32} : (m.toUInt32.toNat : Int) = m.toInt ↔ 0 ≤ m.toInt := by
  rw [toInt_toUInt32]
  have hlt := m.toInt_lt
  omega

theorem toUInt64_exact_iff {m : Int32} : (m.toInt64.toUInt64.toNat : Int) = m.toInt ↔ 0 ≤ m.toInt := by
  rw [toInt_toUInt64]
  have hlt := m.toInt_lt
  omega

end Library
