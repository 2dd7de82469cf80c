import Mathlib.Data.List.Nodup

/-! # A heap of live cells

The heap maps addresses to the cells that were allocated and not freed; an address is not used
again.  A `HeapProgram` allocates, reads, writes and frees, and faults where it goes through a
pointer to no live cell.  `Runs` says how a program ends on a known heap, `Ensures` what is true
wherever it ends without a fault. -/

namespace Foundations

inductive HeapFault where
  | nullPointer
  /-- The address was freed, or never allocated. -/
  | deadCell
  /-- The cell is of another kind. -/
  | wrongKind
  /-- The pointer was never set. -/
  | unsetPointer
  | divisionByZero
  /-- A loop takes more steps than it is given. -/
  | outOfSteps
  deriving DecidableEq

structure Heap (κ : Type) where
  /-- The cell at each address that was allocated, `none` once it is freed. -/
  cells : List (Option κ)
  freed : List Nat
  /-- Which of the requests for memory are granted. -/
  grants : Nat → Bool
  requests : Nat

structure HeapProgram (κ α : Type) where
  run : Heap κ → Except HeapFault (α × Heap κ)

namespace Heap

variable {κ : Type}

def empty (grants : Nat → Bool) : Heap κ where
  cells := []
  freed := []
  grants := grants
  requests := 0

/-- The live cell at an address. -/
def cell (heap : Heap κ) (address : Nat) : Option κ := heap.cells[address]?.join

def write (heap : Heap κ) (address : Nat) (cell : Option κ) : Heap κ :=
  { heap with cells := heap.cells.set address cell }

def alloc (heap : Heap κ) (cell : κ) : Heap κ :=
  { heap with cells := heap.cells ++ [some cell], requests := heap.requests + 1 }

/-- A request that is not granted. -/
def refuse (heap : Heap κ) : Heap κ := { heap with requests := heap.requests + 1 }

def release (heap : Heap κ) (address : Nat) : Heap κ :=
  { heap.write address none with freed := heap.freed ++ [address] }

/-- Everything allocated was freed, and once. -/
def AllFreed (heap : Heap κ) : Prop :=
  ∀ address < heap.cells.length, heap.freed.count address = 1

theorem allFreed_of_perm {heap : Heap κ}
    (perm : heap.freed.Perm (List.range heap.cells.length)) : heap.AllFreed := by
  intro address below
  rw [perm.count_eq]
  exact List.count_eq_one_of_mem List.nodup_range (List.mem_range.mpr below)

/-- An address that was not freed. -/
theorem not_allFreed {heap : Heap κ} {address : Nat} (below : address < heap.cells.length)
    (kept : address ∉ heap.freed) : ¬ heap.AllFreed := by
  intro all
  have once := all address below
  rw [List.count_eq_zero_of_not_mem kept] at once
  cases once

theorem lt_of_cell {heap : Heap κ} {address : Nat} {old : κ} (live : heap.cell address = some old) :
    address < heap.cells.length := by
  rw [Heap.cell, Option.join_eq_some_iff] at live
  exact (List.getElem?_eq_some_iff.mp live).1

theorem cell_write (heap : Heap κ) {address : Nat} {old : κ} (live : heap.cell address = some old)
    (cell : κ) : (heap.write address (some cell)).cell address = some cell := by
  rw [Heap.cell, write, List.getElem?_set_self (lt_of_cell live)]
  rfl

/-- A cell is replaced by itself. -/
theorem write_self {heap : Heap κ} {address : Nat} {old : κ} (live : heap.cell address = some old) :
    heap.write address (some old) = heap := by
  obtain ⟨below, found⟩ := List.getElem?_eq_some_iff.mp (Option.join_eq_some_iff.mp live)
  rw [write, ← found, List.set_getElem_self]

theorem cell_write_of_ne (heap : Heap κ) {address other : Nat} (distinct : address ≠ other)
    (cell : Option κ) : (heap.write address cell).cell other = heap.cell other := by
  rw [Heap.cell, write, List.getElem?_set_ne distinct, Heap.cell]

theorem cell_alloc (heap : Heap κ) {address : Nat} {old : κ} (live : heap.cell address = some old)
    (cell : κ) : (heap.alloc cell).cell address = some old := by
  rw [← live, Heap.cell, alloc, List.getElem?_append_left (lt_of_cell live), Heap.cell]

theorem cell_release (heap : Heap κ) (address : Nat) :
    (heap.release address).cell address = none := by
  rw [Heap.cell, release, write, List.getElem?_set, if_pos rfl]
  split
  · rfl
  · rfl

/-- Of the other cells nothing changes. -/
theorem cell_release_or (heap : Heap κ) (address other : Nat) :
    (heap.release address).cell other = none ∨
      (heap.release address).cell other = heap.cell other := by
  by_cases same : address = other
  case pos => exact .inl (same ▸ heap.cell_release address)
  case neg => exact .inr (heap.cell_write_of_ne same none)

end Heap

namespace HeapProgram

variable {κ α β : Type}

instance : Monad (HeapProgram κ) where
  pure result := ⟨fun heap => .ok (result, heap)⟩
  bind first next := ⟨fun heap =>
    match first.run heap with
    | .ok (result, after) => (next result).run after
    | .error fault => .error fault⟩

def fault (fault : HeapFault) : HeapProgram κ α := ⟨fun _ => .error fault⟩

/-- The address of a new cell, `none` where the request is not granted. -/
def malloc (cell : κ) : HeapProgram κ (Option Nat) := ⟨fun heap =>
  if heap.grants heap.requests then .ok (some heap.cells.length, heap.alloc cell)
  else .ok (none, heap.refuse)⟩

/-- The cell behind a pointer, seen as what the pointer points to. -/
def load (view : κ → Option α) : Option Nat → HeapProgram κ α
  | none => fault .nullPointer
  | some address => ⟨fun heap =>
    match heap.cell address with
    | none => .error .deadCell
    | some cell =>
      match view cell with
      | none => .error .wrongKind
      | some seen => .ok (seen, heap)⟩

/-- A cell is replaced by another of the kind that the pointer points to. -/
def store (view : κ → Option α) (cell : κ) : Option Nat → HeapProgram κ Unit
  | none => fault .nullPointer
  | some address => ⟨fun heap =>
    match heap.cell address with
    | none => .error .deadCell
    | some old =>
      match view old with
      | none => .error .wrongKind
      | some _ => .ok ((), heap.write address (some cell))⟩

/-- Nothing is freed through a null pointer. -/
def free : Option Nat → HeapProgram κ Unit
  | none => pure ()
  | some address => ⟨fun heap =>
    match heap.cell address with
    | none => .error .deadCell
    | some _ => .ok ((), heap.release address)⟩

/-- A constructor of a library, which frees the cell where it fails. -/
def construct (cell : κ) (succeeds : Bool) : HeapProgram κ (Option Nat) := do
  match ← malloc cell with
  | none => pure none
  | some address =>
    if succeeds then pure (some address)
    else do
      free (some address)
      pure none

/-- A program for each of the items, in order. -/
def forEach {ι : Type} (program : ι → HeapProgram κ α) : List ι → HeapProgram κ Unit
  | [] => pure ()
  | item :: items => do
    let _ ← program item
    forEach program items

/-! ## Runs -/

/-- From the heap the program ends without a fault, in `after` and with `result`. -/
def Runs (program : HeapProgram κ α) (heap : Heap κ) (result : α) (after : Heap κ) : Prop :=
  program.run heap = .ok (result, after)

/-- Wherever the program ends without a fault from a heap in `pre`, `post` holds. -/
def Ensures (pre : Heap κ → Prop) (program : HeapProgram κ α) (post : α → Heap κ → Prop) : Prop :=
  ∀ heap, pre heap → ∀ result after, program.Runs heap result after → post result after

/-- The program ends without a fault, and everything that was allocated is freed. -/
def Clean (program : HeapProgram κ Unit) (heap : Heap κ) : Prop :=
  ∃ after, program.Runs heap () after ∧ after.AllFreed

/-- Given enough steps for its loops, the program frees all that it allocates, and once. -/
def FreesAll (program : Nat → HeapProgram κ Unit) (grants : Nat → Bool) : Prop :=
  ∃ enough, ∀ steps ≥ enough, (program steps).Clean (Heap.empty grants)

section

variable {heap : Heap κ}

@[simp] theorem run_pure (result : α) :
    (pure result : HeapProgram κ α).run heap = .ok (result, heap) := rfl

@[simp] theorem run_bind (first : HeapProgram κ α) (next : α → HeapProgram κ β) :
    (first >>= next).run heap =
      match first.run heap with
      | .ok (result, after) => (next result).run after
      | .error fault => .error fault := rfl

@[simp] theorem run_fault (reason : HeapFault) :
    (fault reason : HeapProgram κ α).run heap = .error reason := rfl

@[simp] theorem run_malloc (cell : κ) :
    (malloc cell).run heap =
      if heap.grants heap.requests then .ok (some heap.cells.length, heap.alloc cell)
      else .ok (none, heap.refuse) := rfl

@[simp] theorem run_load_none (view : κ → Option α) :
    (load view none).run heap = .error .nullPointer := rfl

@[simp] theorem run_load (view : κ → Option α) (address : Nat) :
    (load view (some address)).run heap =
      match heap.cell address with
      | none => .error .deadCell
      | some cell =>
        match view cell with
        | none => .error .wrongKind
        | some seen => .ok (seen, heap) := rfl

@[simp] theorem run_store_none (view : κ → Option α) (cell : κ) :
    (store view cell none).run heap = .error .nullPointer := rfl

@[simp] theorem run_store (view : κ → Option α) (cell : κ) (address : Nat) :
    (store view cell (some address)).run heap =
      match heap.cell address with
      | none => .error .deadCell
      | some old =>
        match view old with
        | none => .error .wrongKind
        | some _ => .ok ((), heap.write address (some cell)) := rfl

@[simp] theorem run_free_none : (free none).run heap = .ok ((), heap) := rfl

@[simp] theorem run_free (address : Nat) :
    (free (some address)).run heap =
      match heap.cell address with
      | none => .error .deadCell
      | some _ => .ok ((), heap.release address) := rfl

variable {first : HeapProgram κ α} {next : α → HeapProgram κ β} {middle after : Heap κ}
  {result : α} {final : β}

theorem runs_bind_iff :
    (first >>= next).Runs heap final after ↔
      ∃ result middle, first.Runs heap result middle ∧ (next result).Runs middle final after := by
  rw [Runs, run_bind]
  constructor
  case mp =>
    intro runs
    split at runs
    case h_1 result middle ran => exact ⟨result, middle, ran, runs⟩
    case h_2 => cases runs
  case mpr =>
    rintro ⟨result, middle, ran, runs⟩
    rw [ran]
    exact runs

theorem Runs.run_bind (runs : first.Runs heap result middle) :
    (first >>= next).run heap = (next result).run middle := by
  rw [HeapProgram.run_bind, runs]

theorem Runs.bind_iff (runs : first.Runs heap result middle) :
    (first >>= next).Runs heap final after ↔ (next result).Runs middle final after := by
  rw [Runs, runs.run_bind, Runs]

/-- Each of the programs leaves the heap as it is, or faults. -/
theorem forEach_runs_iff {ι : Type} {program : ι → HeapProgram κ α} {passes : ι → Prop}
    (unchanged : ∀ item, passes item → ∃ result, (program item).Runs heap result heap)
    (faults : ∀ item, ¬ passes item → ∃ reason, (program item).run heap = .error reason)
    (items : List ι) :
    (forEach program items).Runs heap () after ↔ after = heap ∧ ∀ item ∈ items, passes item := by
  induction items with
  | nil => simp [forEach, Runs, eq_comm]
  | cons item items ih =>
    rw [forEach, List.forall_mem_cons]
    by_cases passed : passes item
    case pos =>
      obtain ⟨result, runs⟩ := unchanged item passed
      rw [runs.bind_iff, ih, and_iff_right passed]
    case neg =>
      obtain ⟨reason, faulted⟩ := faults item passed
      simp [Runs, faulted, passed]

theorem forEach_unchanged {ι : Type} {program : ι → HeapProgram κ α}
    (unchanged : ∀ item, ∃ result, (program item).Runs heap result heap) (items : List ι) :
    (forEach program items).Runs heap () heap := by
  induction items with
  | nil => rfl
  | cons item items ih =>
    obtain ⟨result, runs⟩ := unchanged item
    rw [forEach, runs.bind_iff]
    exact ih

theorem Runs.ensures_bind (runs : first.Runs heap result middle) {post : β → Heap κ → Prop}
    (rest : Ensures (· = middle) (next result) post) :
    Ensures (· = heap) (first >>= next) post := by
  rintro _ rfl found final ran
  exact rest middle rfl found final (runs.bind_iff.mp ran)

theorem Runs.clean_iff {next : α → HeapProgram κ Unit} (runs : first.Runs heap result middle) :
    (first >>= next).Clean heap ↔ (next result).Clean middle := by
  simp only [Clean, runs.bind_iff]

theorem Runs.clean_iff_allFreed {program : HeapProgram κ Unit} (runs : program.Runs heap () after) :
    program.Clean heap ↔ after.AllFreed := by
  constructor
  case mp =>
    rintro ⟨found, ran, all⟩
    cases runs.symm.trans ran
    exact all
  case mpr => exact fun all => ⟨after, runs, all⟩

theorem not_clean_of_fault {next : α → HeapProgram κ Unit} {reason : HeapFault}
    (faults : first.run heap = .error reason) : ¬ (first >>= next).Clean heap := by
  rintro ⟨after, runs, -⟩
  rw [Runs, run_bind, faults] at runs
  cases runs

theorem freesAll_iff {program : Nat → HeapProgram κ Unit} {grants : Nat → Bool} {condition : Prop}
    (clean_iff : ∀ steps, (program (steps + 1)).Clean (Heap.empty grants) ↔ condition) :
    FreesAll program grants ↔ condition := by
  constructor
  case mp =>
    rintro ⟨enough, clean⟩
    exact (clean_iff enough).mp (clean (enough + 1) (Nat.le_succ enough))
  case mpr =>
    intro met
    refine ⟨1, fun steps positive => ?_⟩
    obtain ⟨fewer, rfl⟩ := Nat.exists_eq_add_of_le' positive
    exact (clean_iff fewer).mpr met

end

/-! ## What a program ensures -/

namespace Ensures

variable {pre pre' : Heap κ → Prop} {post post' : α → Heap κ → Prop} {program : HeapProgram κ α}

theorem mono (ensures : Ensures pre program post) (before : ∀ heap, pre' heap → pre heap)
    (after : ∀ result heap, post result heap → post' result heap) :
    Ensures pre' program post' := by
  intro heap met result final runs
  exact after result final (ensures heap (before heap met) result final runs)

theorem not_clean {program : HeapProgram κ Unit}
    (ensures : Ensures pre program fun _ after => ¬ after.AllFreed) {heap : Heap κ}
    (met : pre heap) : ¬ program.Clean heap := by
  rintro ⟨after, runs, all⟩
  exact ensures heap met () after runs all

theorem pure {result : α} (holds : ∀ heap, pre heap → post result heap) :
    Ensures pre (pure result) post := by
  intro heap met found after runs
  rw [Runs, run_pure, Except.ok.injEq, Prod.mk.injEq] at runs
  obtain ⟨rfl, rfl⟩ := runs
  exact holds heap met

theorem bind {middle : α → Heap κ → Prop} {next : α → HeapProgram κ β}
    {post : β → Heap κ → Prop} (first : Ensures pre program middle)
    (rest : ∀ result, Ensures (middle result) (next result) post) :
    Ensures pre (program >>= next) post := by
  intro heap met found final runs
  obtain ⟨result, between, ran, runs⟩ := runs_bind_iff.mp runs
  exact rest result between (first heap met result between ran) found final runs

/-- `bind`, through what is named. -/
theorem through (middle : α → Heap κ → Prop) {next : α → HeapProgram κ β}
    {post : β → Heap κ → Prop} (first : Ensures pre program middle)
    (rest : ∀ result, Ensures (middle result) (next result) post) :
    Ensures pre (program >>= next) post := bind first rest

theorem ite {condition : Prop} [Decidable condition] {other : HeapProgram κ α}
    (yes : condition → Ensures pre program post) (no : ¬ condition → Ensures pre other post) :
    Ensures pre (if condition then program else other) post := by
  split
  case isTrue met => exact yes met
  case isFalse unmet => exact no unmet

/-- What holds of more than the heap. -/
theorem assuming {condition : Prop} (ensures : condition → Ensures pre program post) :
    Ensures (fun heap => condition ∧ pre heap) program post := by
  intro heap met
  exact ensures met.1 heap met.2

theorem forEach {ι : Type} {program : ι → HeapProgram κ α}
    (keeps : ∀ item, Ensures pre (program item) fun _ => pre) (items : List ι) :
    Ensures pre (forEach program items) fun _ => pre := by
  induction items with
  | nil => exact pure fun _ met => met
  | cons item items ih => exact bind (keeps item) fun _ => ih

/-- Nothing comes after a fault. -/
theorem fault {reason : HeapFault} : Ensures pre (fault reason) post := by
  intro heap met result after runs
  cases runs

theorem malloc {cell : κ} {post : Option Nat → Heap κ → Prop}
    (granted : ∀ heap, pre heap → post (some heap.cells.length) (heap.alloc cell))
    (refused : ∀ heap, pre heap → post none heap.refuse) :
    Ensures pre (malloc cell) post := by
  intro heap met result after runs
  rw [Runs, run_malloc] at runs
  split at runs
  case isTrue =>
    cases runs
    exact granted heap met
  case isFalse =>
    cases runs
    exact refused heap met

theorem load {view : κ → Option α} {pointer : Option Nat}
    (found : ∀ heap address cell seen, pre heap → pointer = some address →
      heap.cell address = some cell → view cell = some seen → post seen heap) :
    Ensures pre (load view pointer) post := by
  intro heap met result after runs
  cases pointer with
  | none => cases runs
  | some address =>
    rw [Runs, run_load] at runs
    split at runs
    case h_1 => cases runs
    case h_2 cell live =>
      split at runs
      case h_1 => cases runs
      case h_2 seen viewed =>
        cases runs
        exact found heap address cell _ met rfl live viewed

theorem read {view : κ → Option α} {pointer : Option Nat} :
    Ensures pre (HeapProgram.load view pointer) fun _ => pre :=
  load fun _ _ _ _ met _ _ _ => met

theorem store {view : κ → Option β} {cell : κ} {pointer : Option Nat}
    {post : Unit → Heap κ → Prop}
    (stored : ∀ heap address old seen, pre heap → pointer = some address →
      heap.cell address = some old → view old = some seen →
        post () (heap.write address (some cell))) :
    Ensures pre (store view cell pointer) post := by
  intro heap met result after runs
  cases pointer with
  | none => cases runs
  | some address =>
    rw [Runs, run_store] at runs
    split at runs
    case h_1 => cases runs
    case h_2 old live =>
      split at runs
      case h_1 => cases runs
      case h_2 seen viewed =>
        cases runs
        exact stored heap address old seen met rfl live viewed

theorem free {pointer : Option Nat} {post : Unit → Heap κ → Prop}
    (released : ∀ heap address old, pre heap → pointer = some address →
      heap.cell address = some old → post () (heap.release address))
    (null : ∀ heap, pre heap → pointer = none → post () heap) :
    Ensures pre (free pointer) post := by
  intro heap met result after runs
  cases pointer with
  | none =>
    rw [Runs, run_free_none] at runs
    cases runs
    exact null heap met rfl
  | some address =>
    rw [Runs, run_free] at runs
    split at runs
    case h_1 => cases runs
    case h_2 old live =>
      cases runs
      exact released heap address old met rfl live

end Ensures

end HeapProgram

end Foundations
