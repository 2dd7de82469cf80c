import Mathlib.Algebra.BigOperators.Group.List.Basic
import Mathlib.Data.List.Chain
import Mathlib.Tactic.Ring

/-! # Gaps of a sequence

The gaps between the numbers of a list, and what is lost when each gap is divided by itself. -/

namespace Foundations

def gaps : List Nat → List Nat
  | first :: second :: rest => (second - first) :: gaps (second :: rest)
  | _ => []

@[simp] theorem gaps_cons_cons (first second : Nat) (rest : List Nat) :
    gaps (first :: second :: rest) = (second - first) :: gaps (second :: rest) := rfl

theorem gaps_concat {numbers : List Nat} {last : Nat} (ends : numbers.getLast? = some last)
    (number : Nat) : gaps (numbers ++ [number]) = gaps numbers ++ [number - last] := by
  induction numbers with
  | nil => cases ends
  | cons first rest ih =>
    cases rest with
    | nil =>
      cases ends
      rfl
    | cons second rest =>
      rw [List.getLast?_cons_cons] at ends
      have tail := ih ends
      simp only [List.cons_append, gaps_cons_cons] at tail ⊢
      rw [tail]

/-- The gaps of a sequence that does not go back add up to its whole length. -/
theorem first_add_sum_gaps {numbers : List Nat} {first last : Nat}
    (ordered : numbers.IsChain (· ≤ ·)) (starts : numbers.head? = some first)
    (ends : numbers.getLast? = some last) : first + (gaps numbers).sum = last := by
  induction numbers generalizing first with
  | nil => cases starts
  | cons head rest ih =>
    cases starts
    cases rest with
    | nil =>
      cases ends
      rfl
    | cons second rest =>
      rw [List.getLast?_cons_cons] at ends
      rw [List.isChain_cons_cons] at ordered
      have step := ih ordered.2 rfl ends
      have le := ordered.1
      rw [gaps_cons_cons, List.sum_cons]
      omega

/-- Dividing every number of a list loses the sum of the remainders. -/
theorem sum_map_div_mul_add_sum_map_mod (divisor : Nat) (numbers : List Nat) :
    (numbers.map (· / divisor)).sum * divisor + (numbers.map (· % divisor)).sum =
      numbers.sum := by
  induction numbers with
  | nil => simp
  | cons number numbers ih =>
    simp only [List.map_cons, List.sum_cons]
    calc (number / divisor + (numbers.map (· / divisor)).sum) * divisor +
          (number % divisor + (numbers.map (· % divisor)).sum)
        = (number / divisor * divisor + number % divisor) +
            ((numbers.map (· / divisor)).sum * divisor + (numbers.map (· % divisor)).sum) := by ring
      _ = number + numbers.sum := by rw [Nat.div_add_mod', ih]

end Foundations
