import RtpPlayer.Foundations.Memory

/-! # Images in memory

An image is a number of rows of `width` cells, one every `pitch` cells. -/

namespace Foundations

universe u

variable {α : Type u}

namespace Memory

/-- The cell in column `x` of row `y`. -/
def pixel (memory : Memory α) (pitch x y : Nat) : α := memory (y * pitch + x)

/-- Copy the first `rows` rows, `width` cells of each, from a stride to a pitch. -/
def copyRows (target source : Memory α) (width pitch stride : Nat) : Nat → Memory α
  | 0 => target
  | rows + 1 =>
    (copyRows target source width pitch stride rows).write (rows * pitch)
      (source.slice (rows * stride) width)

variable {target source : Memory α} {width pitch stride : Nat}

theorem pixel_copyRows {rows x y : Nat} (fits : width ≤ pitch) (inRow : x < width)
    (inImage : y < rows) :
    (target.copyRows source width pitch stride rows).pixel pitch x y = source.pixel stride x y := by
  induction rows with
  | zero => cases inImage
  | succ rows ih =>
    unfold pixel at ih ⊢
    rcases Nat.lt_succ_iff_lt_or_eq.mp inImage with earlier | rfl
    · -- The rows do not overlap, so the row written last leaves this one alone.
      have above : (y + 1) * pitch ≤ rows * pitch := Nat.mul_le_mul_right pitch earlier
      rw [copyRows, write_apply_before _ (by rw [Nat.succ_mul] at above; omega)]
      exact ih earlier
    · rw [copyRows, write_apply_inside (by simpa using inRow)]
      simp

/-- Read at a smaller pitch, an image shows the cells of the wider one in order, shifted. -/
theorem pixel_eq_pixel_div (memory : Memory α) (pitch other x y : Nat) :
    memory.pixel other x y =
      memory.pixel pitch ((y * other + x) % pitch) ((y * other + x) / pitch) := by
  unfold pixel
  rw [Nat.div_add_mod']

end Memory

end Foundations
