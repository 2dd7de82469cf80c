import Mathlib.Data.List.Perm.Basic
import RtpPlayer.Foundations.Heap

/-! # The footprint of a heap

What a program needs to know of a heap: its live cells, which requests are granted and how many were
made.  Each operation turns one footprint into another, whatever the heap was that it described. -/

namespace Foundations

variable {κ α : Type}

namespace Heap

/-- The cells that were allocated and not freed. -/
def live (heap : Heap κ) : List κ := (List.range heap.cells.length).filterMap heap.cell

/-- The live cells with their addresses, and the requests for memory. -/
structure Footprint (heap : Heap κ) (grants : Nat → Bool) (requests : Nat)
    (cells : List (Nat × κ)) : Prop where
  grants : heap.grants = grants
  requests : heap.requests = requests
  distinct : (cells.map Prod.fst).Nodup
  cell_iff : ∀ address cell, heap.cell address = some cell ↔ (address, cell) ∈ cells

namespace Footprint

variable {heap : Heap κ} {grants : Nat → Bool} {requests : Nat} {cells others : List (Nat × κ)}
  {address : Nat} {cell : κ}

theorem empty (grants : Nat → Bool) : (Heap.empty grants : Heap κ).Footprint grants 0 [] where
  grants := rfl
  requests := rfl
  distinct := .nil
  cell_iff := by simp [Heap.empty, Heap.cell]

theorem perm (footprint : heap.Footprint grants requests cells) (same : cells.Perm others) :
    heap.Footprint grants requests others where
  grants := footprint.grants
  requests := footprint.requests
  distinct := (same.map Prod.fst).nodup_iff.mp footprint.distinct
  cell_iff address cell := (footprint.cell_iff address cell).trans same.mem_iff

theorem cell_of_mem (footprint : heap.Footprint grants requests cells)
    (member : (address, cell) ∈ cells) : heap.cell address = some cell :=
  (footprint.cell_iff address cell).mpr member

theorem fresh (footprint : heap.Footprint grants requests cells) :
    heap.cells.length ∉ cells.map Prod.fst := by
  intro member
  obtain ⟨⟨address, cell⟩, inside, same⟩ := List.mem_map.mp member
  have below := lt_of_cell (footprint.cell_of_mem inside)
  dsimp only at same
  omega

theorem not_mem_tail (footprint : heap.Footprint grants requests ((address, cell) :: cells)) :
    address ∉ cells.map Prod.fst :=
  (List.nodup_cons.mp footprint.distinct).1

theorem alloc (footprint : heap.Footprint grants requests cells) (cell : κ) :
    (heap.alloc cell).Footprint grants (requests + 1) ((heap.cells.length, cell) :: cells) where
  grants := footprint.grants
  requests := congrArg (· + 1) footprint.requests
  distinct := List.nodup_cons.mpr ⟨footprint.fresh, footprint.distinct⟩
  cell_iff := by
    intro address other
    rw [List.mem_cons, ← footprint.cell_iff, Prod.mk.injEq, Heap.cell, Heap.cell, Heap.alloc]
    by_cases inside : address < heap.cells.length
    · rw [List.getElem?_append_left inside]
      simp [Nat.ne_of_lt inside]
    · rw [List.getElem?_append_right (Nat.le_of_not_lt inside),
        List.getElem?_eq_none (Nat.le_of_not_lt inside)]
      by_cases same : address = heap.cells.length
      · simp [same, eq_comm]
      · have beyond : [some cell][address - heap.cells.length]? = none :=
          List.getElem?_eq_none (by simp; omega)
        simp [same, beyond]

theorem refuse (footprint : heap.Footprint grants requests cells) :
    heap.refuse.Footprint grants (requests + 1) cells :=
  ⟨footprint.grants, congrArg (· + 1) footprint.requests, footprint.distinct, footprint.cell_iff⟩

theorem write (footprint : heap.Footprint grants requests ((address, cell) :: cells))
    (written : κ) :
    (heap.write address (some written)).Footprint grants requests
      ((address, written) :: cells) where
  grants := footprint.grants
  requests := footprint.requests
  distinct := footprint.distinct
  cell_iff := by
    intro other found
    have live := footprint.cell_of_mem List.mem_cons_self
    by_cases same : address = other
    · obtain rfl := same
      have absent : (address, found) ∉ cells := fun member =>
        footprint.not_mem_tail (List.mem_map_of_mem member)
      simp [heap.cell_write live, absent, eq_comm]
    · rw [heap.cell_write_of_ne same, footprint.cell_iff]
      simp [Ne.symm same]

theorem release (footprint : heap.Footprint grants requests ((address, cell) :: cells)) :
    (heap.release address).Footprint grants requests cells where
  grants := footprint.grants
  requests := footprint.requests
  distinct := (List.nodup_cons.mp footprint.distinct).2
  cell_iff := by
    intro other found
    by_cases same : address = other
    · obtain rfl := same
      have absent : (address, found) ∉ cells := fun member =>
        footprint.not_mem_tail (List.mem_map_of_mem member)
      simp [heap.cell_release, absent]
    · rw [Heap.release]
      change (heap.write address none).cell other = some found ↔ _
      rw [heap.cell_write_of_ne same, footprint.cell_iff]
      simp [Ne.symm same]

/-- Nothing else is live. -/
theorem live_perm (footprint : heap.Footprint grants requests cells) :
    heap.live.Perm (cells.map Prod.snd) := by
  -- the live cells with their addresses are those of the footprint, in another order
  let found := (List.range heap.cells.length).filterMap fun address =>
    (heap.cell address).map fun cell => (address, cell)
  have distinct : found.Nodup := by
    refine List.Nodup.filterMap ?_ List.nodup_range
    intro first second item member again
    simp only [Option.mem_def, Option.map_eq_some_iff] at member again
    obtain ⟨_, _, rfl⟩ := member
    obtain ⟨_, _, same⟩ := again
    exact (congrArg Prod.fst same).symm
  have same : found.Perm cells := by
    refine (List.perm_ext_iff_of_nodup distinct
      (List.Nodup.of_map _ footprint.distinct)).mpr ?_
    intro ⟨address, cell⟩
    rw [← footprint.cell_iff]
    simp only [found, List.mem_filterMap, List.mem_range, Option.map_eq_some_iff, Prod.mk.injEq]
    constructor
    · rintro ⟨_, _, _, live, rfl, rfl⟩
      exact live
    · intro live
      exact ⟨address, lt_of_cell live, cell, live, rfl, rfl⟩
  have cells : heap.live = found.map Prod.snd := by
    simp [live, found, List.map_filterMap, Option.map_map, Function.comp_def]
  rw [cells]
  exact same.map Prod.snd

theorem live_eq_nil (footprint : heap.Footprint grants requests []) : heap.live = [] :=
  List.perm_nil.mp footprint.live_perm

theorem live_eq_singleton (footprint : heap.Footprint grants requests [(address, cell)]) :
    heap.live = [cell] :=
  List.perm_singleton.mp footprint.live_perm

end Footprint

end Heap

namespace HeapProgram

open Heap (Footprint)

/-- What is live where the program ends, `none` where it ends with a fault. -/
def leaves (program : HeapProgram κ α) (heap : Heap κ) : Option (List κ) :=
  match program.run heap with
  | .ok (_, after) => some after.live
  | .error _ => none

section

variable {heap after : Heap κ} {result : α}

theorem Runs.leaves {program : HeapProgram κ α} (runs : program.Runs heap result after) :
    program.leaves heap = some after.live := by
  rw [HeapProgram.leaves, runs]

theorem Runs.leaves_bind {β : Type} {first : HeapProgram κ α} {next : α → HeapProgram κ β}
    (runs : first.Runs heap result after) :
    (first >>= next).leaves heap = (next result).leaves after := by
  rw [HeapProgram.leaves, runs.run_bind, HeapProgram.leaves]

theorem leaves_of_fault {program : HeapProgram κ α} {reason : HeapFault}
    (faults : program.run heap = .error reason) : program.leaves heap = none := by
  rw [leaves, faults]

theorem leaves_bind_of_fault {β : Type} {first : HeapProgram κ α} {next : α → HeapProgram κ β}
    {reason : HeapFault} (faults : first.run heap = .error reason) :
    (first >>= next).leaves heap = none := by
  rw [leaves, run_bind, faults]

end

end HeapProgram

/-! ## Operations on a heap of known footprint -/

namespace Heap.Footprint

open HeapProgram

variable {heap : Heap κ} {grants : Nat → Bool} {requests : Nat} {cells others : List (Nat × κ)}
  {address : Nat} {cell : κ} {view : κ → Option α} {seen : α}

theorem runs_malloc (footprint : heap.Footprint grants requests cells)
    (granted : grants requests = true) (cell : κ) :
    ∃ address after, (malloc cell).Runs heap (some address) after ∧
      after.Footprint grants (requests + 1) ((address, cell) :: cells) := by
  refine ⟨heap.cells.length, heap.alloc cell, ?_, footprint.alloc cell⟩
  rw [Runs, run_malloc, footprint.grants, footprint.requests, if_pos granted]

theorem runs_malloc_refused (footprint : heap.Footprint grants requests cells)
    (refused : grants requests = false) (cell : κ) :
    ∃ after, (malloc cell).Runs heap none after ∧
      after.Footprint grants (requests + 1) cells := by
  refine ⟨heap.refuse, ?_, footprint.refuse⟩
  rw [Runs, run_malloc, footprint.grants, footprint.requests, refused, if_neg Bool.false_ne_true]

theorem runs_load (footprint : heap.Footprint grants requests cells)
    (member : (address, cell) ∈ cells) (viewed : view cell = some seen) :
    (load view (some address)).Runs heap seen heap := by
  rw [Runs, run_load, footprint.cell_of_mem member]
  simp [viewed]

theorem runs_store (footprint : heap.Footprint grants requests cells)
    (found : cells.Perm ((address, cell) :: others)) (viewed : view cell = some seen)
    (written : κ) :
    ∃ after, (store view written (some address)).Runs heap () after ∧
      after.Footprint grants requests ((address, written) :: others) := by
  refine ⟨heap.write address (some written), ?_, (footprint.perm found).write written⟩
  rw [Runs, run_store, footprint.cell_of_mem (found.mem_iff.mpr List.mem_cons_self)]
  simp [viewed]

theorem runs_free (footprint : heap.Footprint grants requests cells)
    (found : cells.Perm ((address, cell) :: others)) :
    ∃ after, (free (some address)).Runs heap () after ∧ after.Footprint grants requests others := by
  refine ⟨heap.release address, ?_, (footprint.perm found).release⟩
  rw [Runs, run_free, footprint.cell_of_mem (found.mem_iff.mpr List.mem_cons_self)]

/-- A pointer that may be null. -/
theorem runs_free_option (footprint : heap.Footprint grants requests cells) {pointer : Option Nat}
    (found : cells.Perm ((pointer.toList.map fun address => (address, cell)) ++ others)) :
    ∃ after, (free pointer).Runs heap () after ∧ after.Footprint grants requests others := by
  cases pointer with
  | none => exact ⟨heap, rfl, footprint.perm found⟩
  | some address => exact footprint.runs_free found

/-- A constructor of a library that gets its memory and succeeds. -/
theorem runs_construct (footprint : heap.Footprint grants requests cells)
    (granted : grants requests = true) (cell : κ) :
    ∃ address after, (construct cell true).Runs heap (some address) after ∧
      after.Footprint grants (requests + 1) ((address, cell) :: cells) := by
  obtain ⟨address, after, runs, next⟩ := footprint.runs_malloc granted cell
  refine ⟨address, after, ?_, next⟩
  rw [Runs, construct, runs.run_bind]
  rfl

/-- A constructor of a library that fails gives back what it got. -/
theorem runs_construct_fails (footprint : heap.Footprint grants requests cells) {succeeds : Bool}
    (fails : (grants requests && succeeds) = false) (cell : κ) :
    ∃ after, (construct cell succeeds).Runs heap none after ∧
      after.Footprint grants (requests + 1) cells := by
  cases granted : grants requests with
  | false =>
    obtain ⟨after, runs, next⟩ := footprint.runs_malloc_refused granted cell
    refine ⟨after, ?_, next⟩
    rw [Runs, construct, runs.run_bind]
    rfl
  | true =>
    obtain rfl : succeeds = false := by simpa [granted] using fails
    obtain ⟨address, between, runs, next⟩ := footprint.runs_malloc granted cell
    obtain ⟨after, freed, last⟩ := next.runs_free (.refl _)
    refine ⟨after, ?_, last⟩
    rw [Runs, construct, runs.run_bind]
    exact freed.bind_iff.mpr rfl

end Heap.Footprint

end Foundations
