import Mathlib.Data.Fintype.Basic
import Mathlib.Data.Nat.Bitwise

/-! # Statements about one byte -/

namespace Foundations

/-- A decidable statement about a byte is settled by its 256 cases. -/
theorem forall_octet {property : UInt8 → Prop}
    (check : ∀ value : Fin 256, property (UInt8.ofFin value)) (byte : UInt8) : property byte :=
  check byte.toFin

/-! ## Masks -/

/-- A mask of lower bits takes a remainder. -/
theorem toNat_and_lowerBits {mask : UInt8} {width : Nat} (lower : mask.toNat = 2 ^ width - 1)
    (byte : UInt8) : (byte &&& mask).toNat = byte.toNat % 2 ^ width := by
  rw [UInt8.toNat_and, lower, Nat.and_two_pow_sub_one_eq_mod]

/-- A mask of one bit finds it in its place. -/
theorem toNat_and_singleBit {mask : UInt8} {index : Nat} (single : mask.toNat = 2 ^ index)
    (byte : UInt8) : (byte &&& mask).toNat = byte.toNat / 2 ^ index % 2 * 2 ^ index := by
  rw [UInt8.toNat_and, single, Nat.and_two_pow, Nat.testBit_eq_decide_div_mod_eq]
  cases Nat.mod_two_eq_zero_or_one (byte.toNat / 2 ^ index) with
  | inl clear => simp [clear]
  | inr set => simp [set]

theorem octet_and_or (byte first second : UInt8) :
    byte &&& (first ||| second) = (byte &&& first) ||| (byte &&& second) := by
  apply UInt8.toBitVec_inj.mp
  exact BitVec.and_or_distrib_left

end Foundations
