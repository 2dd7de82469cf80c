import Mathlib.Algebra.Ring.Int.Defs
import Mathlib.Algebra.Ring.Nat

/-! # Counters that wrap

Timestamps are 32-bit counters.  The step from one to another is the signed difference, the
shorter way round; `scaled` is what a step becomes that is multiplied and divided as an unsigned
number. -/

namespace Foundations

/-- The way from one value of a counter to another, the shorter one. -/
def signedStep (start stop : UInt32) : Int := (stop - start).toInt32.toInt

/-- A step times a factor, divided, as an unsigned number of 32 bits. -/
def scaled (step factor divisor : Int) : Int := step * factor % 2 ^ 32 / divisor

theorem toInt32_toInt (value : UInt32) : value.toInt32.toInt = (value.toNat : Int).bmod (2 ^ 32) :=
  BitVec.toInt_eq_toNat_bmod value.toBitVec

theorem toInt_emod (value : Int32) : value.toInt % 2 ^ 32 = value.toUInt32.toNat := by
  have below := value.toUInt32.toNat_lt
  have wraps := toInt32_toInt value.toUInt32
  rw [Int32.toInt32_toUInt32] at wraps
  have congruent : value.toInt % 2 ^ 32 = (value.toUInt32.toNat : Int) % 2 ^ 32 := by
    rw [wraps]
    exact Int.bmod_emod
  omega

theorem toInt_add_emod (first second : Int32) :
    (first + second).toInt % 2 ^ 32 = (first.toInt + second.toInt) % 2 ^ 32 := by
  rw [Int32.toInt_add]
  exact Int.bmod_emod

theorem toInt32_emod (value : UInt32) : value.toInt32.toInt % 2 ^ 32 = value.toNat := by
  rw [toInt_emod, UInt32.toUInt32_toInt32]

theorem signedStep_bounds (start stop : UInt32) :
    -2 ^ 31 ≤ signedStep start stop ∧ signedStep start stop < 2 ^ 31 :=
  ⟨Int32.le_toInt _, Int32.toInt_lt _⟩

theorem sub_toNat (start stop : UInt32) :
    ((stop - start).toNat : Int) = signedStep start stop % 2 ^ 32 :=
  (toInt32_emod (stop - start)).symm

theorem signedStep_emod (start stop : UInt32) :
    signedStep start stop % 2 ^ 32 = ((stop.toNat : Int) - start.toNat) % 2 ^ 32 := by
  have below := start.toNat_lt
  rw [← sub_toNat, UInt32.toNat_sub]
  omega

@[simp] theorem signedStep_self (value : UInt32) : signedStep value value = 0 := by
  simp [signedStep]

/-- Steps add up, but for whole turns. -/
theorem signedStep_add (first second third : UInt32) :
    signedStep first third % 2 ^ 32 =
      (signedStep first second + signedStep second third) % 2 ^ 32 := by
  have whole := signedStep_emod first third
  have toSecond := signedStep_emod first second
  have between := signedStep_emod second third
  omega

theorem tdiv_cases (value divisor : Int) :
    0 ≤ value ∧ value.tdiv divisor = value / divisor ∨
      value < 0 ∧ value.tdiv divisor = -(-value / divisor) := by
  by_cases negative : value < 0
  · refine .inr ⟨negative, ?_⟩
    rw [← Int.tdiv_eq_ediv_of_nonneg (by omega : 0 ≤ -value), Int.neg_tdiv, Int.neg_neg]
  · have nonneg : 0 ≤ value := Int.not_lt.mp negative
    exact .inl ⟨nonneg, Int.tdiv_eq_ediv_of_nonneg nonneg⟩

theorem mul_div_toNat (start stop factor divisor : UInt32) :
    (((stop - start) * factor / divisor).toNat : Int) =
      scaled (signedStep start stop) factor.toNat divisor.toNat := by
  rw [UInt32.toNat_div, UInt32.toNat_mul, Int.natCast_ediv, Int.natCast_emod, Int.natCast_mul,
    sub_toNat]
  have reduced : signedStep start stop % 2 ^ 32 * (factor.toNat : Int) % 2 ^ 32 =
      signedStep start stop * factor.toNat % 2 ^ 32 := by
    rw [Int.mul_emod, Int.emod_emod_of_dvd _ (Int.dvd_refl _), ← Int.mul_emod]
  exact congrArg (· / (divisor.toNat : Int)) reduced

end Foundations
