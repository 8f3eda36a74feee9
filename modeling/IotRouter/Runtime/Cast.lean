import Mathlib.Algebra.Ring.Int.Defs
import Mathlib.Algebra.Ring.Nat
import Mathlib.Tactic.Common

/-!
# Casts from unsigned to signed integers

A cast keeps the bits. The lower half of the unsigned range keeps its value, the
upper half becomes negative, so the order of two values survives exactly if they
lie in the same half.
-/

namespace IotRouter.Runtime

variable (value other : UInt64)

theorem toInt_toInt64 :
    value.toInt64.toInt = (value.toNat : Int).bmod (2 ^ 64) := by
  rw [← Int64.toInt_toBitVec, UInt64.toBitVec_toInt64, BitVec.toInt_eq_toNat_bmod,
    UInt64.toNat_toBitVec]

variable {value other}

theorem toInt_toInt64_of_lt (lower : value.toNat < 2 ^ 63) :
    value.toInt64.toInt = value.toNat := by
  rw [toInt_toInt64, Int.bmod_eq_of_le] <;> omega

theorem toInt_toInt64_of_le (upper : 2 ^ 63 ≤ value.toNat) :
    value.toInt64.toInt = value.toNat - 2 ^ 64 := by
  have bound := value.toNat_lt
  rw [toInt_toInt64, Int.bmod_def]
  omega

theorem toInt_toInt64_neg (upper : 2 ^ 63 ≤ value.toNat) :
    value.toInt64.toInt < 0 := by
  have bound := value.toNat_lt
  rw [toInt_toInt64_of_le upper]
  omega

theorem toInt_toInt64_eq_iff :
    value.toInt64.toInt = value.toNat ↔ value.toNat < 2 ^ 63 := by
  constructor
  · intro same
    by_contra upper
    have negative := toInt_toInt64_neg (Nat.not_lt.mp upper)
    omega
  · exact toInt_toInt64_of_lt

/-- A cast keeps the order of two values exactly if they are in the same half. -/
theorem toInt64_lt_iff :
    ((value.toInt64.toInt < other.toInt64.toInt ↔ value.toNat < other.toNat) ∧
      (other.toInt64.toInt < value.toInt64.toInt ↔
        other.toNat < value.toNat)) ↔
      (value.toNat < 2 ^ 63 ↔ other.toNat < 2 ^ 63) := by
  have bound := value.toNat_lt
  have bound' := other.toNat_lt
  rcases Nat.lt_or_ge value.toNat (2 ^ 63) with lower | upper
  · rcases Nat.lt_or_ge other.toNat (2 ^ 63) with lower' | upper'
    · rw [toInt_toInt64_of_lt lower, toInt_toInt64_of_lt lower']
      omega
    · rw [toInt_toInt64_of_lt lower, toInt_toInt64_of_le upper']
      omega
  · rcases Nat.lt_or_ge other.toNat (2 ^ 63) with lower' | upper'
    · rw [toInt_toInt64_of_le upper, toInt_toInt64_of_lt lower']
      omega
    · rw [toInt_toInt64_of_le upper, toInt_toInt64_of_le upper']
      omega

end IotRouter.Runtime
