import Mathlib.Data.List.Basic

/-! # Cell memories

A pointer is modelled by what it sees: a cell for each offset from it.  Nothing bounds the
offsets, so reading or writing past the end of the object behind the pointer is possible, and
staying inside it is something to prove. -/

namespace Foundations

universe u

/-- The cells from a pointer on. -/
abbrev Memory (α : Type u) := Nat → α

namespace Memory

variable {α : Type u}

/-- The pointer `offset` cells further on. -/
def advance (memory : Memory α) (offset : Nat) : Memory α :=
  fun index => memory (offset + index)

/-- The `length` cells from `start` on. -/
def slice (memory : Memory α) (start length : Nat) : List α :=
  (List.range length).map fun index => memory (start + index)

/-- Overwrite the cells from `start` on with `cells` and nothing else. -/
def write (memory : Memory α) (start : Nat) (cells : List α) : Memory α :=
  fun index => if start ≤ index then cells.getD (index - start) (memory index) else memory index

/-- A memory that begins with `cells`; what lies beyond them is `beyond`. -/
def ofList (cells : List α) (beyond : Memory α) : Memory α :=
  fun index => cells.getD index (beyond index)

/-! ## Slices -/

@[simp] theorem slice_length (memory : Memory α) (start length : Nat) :
    (memory.slice start length).length = length := by
  simp [slice]

@[simp] theorem slice_zero (memory : Memory α) (start : Nat) : memory.slice start 0 = [] := rfl

@[simp] theorem slice_getElem (memory : Memory α) (start length index : Nat)
    (bound : index < (memory.slice start length).length) :
    (memory.slice start length)[index] = memory (start + index) := by
  simp [slice]

theorem slice_add (memory : Memory α) (start first second : Nat) :
    memory.slice start (first + second) =
      memory.slice start first ++ memory.slice (start + first) second := by
  simp [slice, List.range_add, Nat.add_assoc]

theorem slice_one (memory : Memory α) (start : Nat) : memory.slice start 1 = [memory start] := rfl

theorem slice_succ (memory : Memory α) (start length : Nat) :
    memory.slice start (length + 1) = memory start :: memory.slice (start + 1) length := by
  rw [Nat.add_comm, slice_add, slice_one]
  rfl

theorem slice_congr {first second : Memory α} {start length : Nat}
    (agree : ∀ index, start ≤ index → index < start + length → first index = second index) :
    first.slice start length = second.slice start length := by
  apply List.map_congr_left
  intro index member
  exact agree _ (by omega) (by have := List.mem_range.mp member; omega)

theorem take_slice {memory : Memory α} {start length count : Nat} (within : count ≤ length) :
    (memory.slice start length).take count = memory.slice start count := by
  obtain ⟨rest, rfl⟩ := Nat.exists_eq_add_of_le within
  rw [slice_add, List.take_left' (slice_length ..)]

theorem drop_slice (memory : Memory α) (start length count : Nat) :
    (memory.slice start length).drop count = memory.slice (start + count) (length - count) := by
  rcases Nat.le_total count length with within | beyond
  · obtain ⟨rest, rfl⟩ := Nat.exists_eq_add_of_le within
    rw [slice_add, List.drop_left' (slice_length ..), Nat.add_sub_cancel_left]
  · rw [List.drop_eq_nil_of_le (by simpa using beyond), Nat.sub_eq_zero_of_le beyond, slice_zero]

@[simp] theorem slice_advance (memory : Memory α) (offset start length : Nat) :
    (memory.advance offset).slice start length = memory.slice (offset + start) length := by
  simp [slice, advance, Nat.add_assoc]

/-! ## Writes -/

theorem write_apply_before {memory : Memory α} {start index : Nat} (cells : List α)
    (before : index < start) : memory.write start cells index = memory index := by
  simp [write, Nat.not_le.mpr before]

theorem write_apply_inside {memory : Memory α} {start : Nat} {cells : List α} {index : Nat}
    (bound : index < cells.length) : memory.write start cells (start + index) = cells[index] := by
  simp [write, bound]

theorem write_apply_after {memory : Memory α} {start index : Nat} {cells : List α}
    (after : start + cells.length ≤ index) : memory.write start cells index = memory index := by
  rw [write, if_pos (by omega), List.getD_eq_getElem?_getD, List.getElem?_eq_none (by omega)]
  rfl

theorem slice_write_before {memory : Memory α} {start length position : Nat} (cells : List α)
    (before : start + length ≤ position) :
    (memory.write position cells).slice start length = memory.slice start length :=
  slice_congr fun _ _ above => write_apply_before cells (by omega)

theorem slice_write_self (memory : Memory α) (start : Nat) (cells : List α) :
    (memory.write start cells).slice start cells.length = cells := by
  apply List.ext_getElem
  · simp
  · intro index _ bound
    have written : memory.write start cells (start + index) = cells[index] :=
      write_apply_inside bound
    simpa using written

/-- Writing at the end of a filled prefix extends the prefix by what is written. -/
theorem slice_write_append (memory : Memory α) (length : Nat) (cells : List α) :
    (memory.write length cells).slice 0 (length + cells.length) =
      memory.slice 0 length ++ cells := by
  rw [slice_add, slice_write_before cells (by omega), Nat.zero_add, slice_write_self]

@[simp] theorem write_nil (memory : Memory α) (start : Nat) : memory.write start [] = memory := by
  funext index
  simp [write]

theorem write_write (memory : Memory α) (start : Nat) (first second : List α) :
    (memory.write start first).write (start + first.length) second =
      memory.write start (first ++ second) := by
  funext index
  simp only [write, List.getD_eq_getElem?_getD]
  by_cases below : index < start
  · simp [Nat.not_le.mpr below, show ¬ start + first.length ≤ index by omega]
  · by_cases inFirst : index < start + first.length
    · rw [if_neg (by omega), if_pos (by omega), if_pos (by omega),
        List.getElem?_append_left (by omega)]
    · rw [if_pos (by omega), if_pos (by omega), if_pos (by omega),
        List.getElem?_append_right (by omega), List.getElem?_eq_none (l := first) (by omega),
        Nat.sub_add_eq]
      rfl

/-! ## Memories that begin with a list -/

theorem ofList_apply {cells : List α} (beyond : Memory α) {index : Nat}
    (bound : index < cells.length) : ofList cells beyond index = cells[index] := by
  simp [ofList, bound]

theorem slice_ofList (cells : List α) (beyond : Memory α) :
    (ofList cells beyond).slice 0 cells.length = cells := by
  apply List.ext_getElem
  · simp
  · intro index _ bound
    simpa using ofList_apply beyond bound

theorem slice_of_append (memory : Memory α) (before block after : List α)
    (known : memory.slice 0 (before ++ block ++ after).length = before ++ block ++ after) :
    memory.slice before.length block.length = block := by
  rw [List.length_append, List.length_append, slice_add, slice_add, Nat.zero_add] at known
  have front := (List.append_inj known (by simp)).1
  exact (List.append_inj front (by simp)).2

theorem apply_of_slice {memory : Memory α} {start : Nat} {cells : List α}
    (known : memory.slice start cells.length = cells) {index : Nat} (bound : index < cells.length) :
    memory (start + index) = cells[index] := by
  have inside : index < (memory.slice start cells.length).length := by simpa using bound
  calc memory (start + index) = (memory.slice start cells.length)[index] := by simp
    _ = cells[index] := by simp only [known]

theorem apply_of_slice_eq {first second : Memory α} {length index : Nat}
    (agree : first.slice 0 length = second.slice 0 length) (inside : index < length) :
    first index = second index := by
  have cells := congrArg (fun cells => cells[index]?) agree
  simpa [slice, inside] using cells

theorem apply_of_getElem? {memory : Memory α} {cells : List α}
    (known : memory.slice 0 cells.length = cells) {index : Nat} {cell : α}
    (inside : cells[index]? = some cell) : memory index = cell := by
  obtain ⟨bound, rfl⟩ := List.getElem?_eq_some_iff.mp inside
  simpa using apply_of_slice known bound

end Memory

end Foundations
