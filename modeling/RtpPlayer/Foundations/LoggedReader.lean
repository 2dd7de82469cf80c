import RtpPlayer.Foundations.Memory

/-! # Computations that log what they read

A `LoggedReader` is a computation over a memory that hands back, besides its value, the offsets
it has read, in order.  One definition of a parser then serves both questions about it: what it
returns (`value`) and which cells it touches (`reads`). -/

namespace Foundations

/-- A computation that reads cells of type `α` and returns a `β`. -/
structure LoggedReader (α β : Type) where
  run : Memory α → β × List Nat

namespace LoggedReader

variable {α β γ : Type}

instance : Monad (LoggedReader α) where
  pure result := ⟨fun _ => (result, [])⟩
  bind first next := ⟨fun memory =>
    let read := first.run memory
    let rest := (next read.1).run memory
    (rest.1, read.2 ++ rest.2)⟩

def read (offset : Nat) : LoggedReader α α := ⟨fun memory => (memory offset, [offset])⟩

/-- Read `length` cells from `start` on, as a block copy does. -/
def readSlice (start length : Nat) : LoggedReader α (List α) :=
  ⟨fun memory => (memory.slice start length, List.range' start length)⟩

def value (reader : LoggedReader α β) (memory : Memory α) : β := (reader.run memory).1

/-- The offsets the computation reads. -/
def reads (reader : LoggedReader α β) (memory : Memory α) : List Nat := (reader.run memory).2

/-! ## Values -/

@[simp] theorem value_pure (result : β) (memory : Memory α) :
    (pure result : LoggedReader α β).value memory = result := rfl

@[simp] theorem value_bind (first : LoggedReader α β) (next : β → LoggedReader α γ)
    (memory : Memory α) :
    (first >>= next).value memory = (next (first.value memory)).value memory := rfl

@[simp] theorem value_read (offset : Nat) (memory : Memory α) :
    (read offset).value memory = memory offset := rfl

@[simp] theorem value_readSlice (start length : Nat) (memory : Memory α) :
    (readSlice start length).value memory = memory.slice start length := rfl

@[simp] theorem value_ite (condition : Prop) [Decidable condition]
    (positive negative : LoggedReader α β) (memory : Memory α) :
    (if condition then positive else negative).value memory =
      if condition then positive.value memory else negative.value memory := by
  split <;> rfl

/-! ## Footprints -/

/-- Every read stays below `limit`. -/
def ReadsBelow (reader : LoggedReader α β) (memory : Memory α) (limit : Nat) : Prop :=
  ∀ offset ∈ reader.reads memory, offset < limit

theorem readsBelow_pure (result : β) (memory : Memory α) (limit : Nat) :
    (pure result : LoggedReader α β).ReadsBelow memory limit := by
  intro offset member
  cases member

theorem readsBelow_read {offset limit : Nat} (memory : Memory α) (below : offset < limit) :
    (read offset).ReadsBelow memory limit := by
  intro index member
  rw [List.mem_singleton.mp member]
  exact below

theorem readsBelow_readSlice {start length limit : Nat} (memory : Memory α)
    (within : start + length ≤ limit) : (readSlice start length).ReadsBelow memory limit := by
  intro offset member
  have := List.mem_range'_1.mp member
  omega

theorem ReadsBelow.bind {first : LoggedReader α β} {next : β → LoggedReader α γ}
    {memory : Memory α} {limit : Nat} (head : first.ReadsBelow memory limit)
    (tail : (next (first.value memory)).ReadsBelow memory limit) :
    (first >>= next).ReadsBelow memory limit := by
  intro offset member
  rcases List.mem_append.mp member with inHead | inTail
  · exact head offset inHead
  · exact tail offset inTail

theorem ReadsBelow.ite {condition : Prop} [Decidable condition]
    {positive negative : LoggedReader α β} {memory : Memory α} {limit : Nat}
    (whenTrue : condition → positive.ReadsBelow memory limit)
    (whenFalse : ¬ condition → negative.ReadsBelow memory limit) :
    (if condition then positive else negative).ReadsBelow memory limit := by
  split
  next holds => exact whenTrue holds
  next fails => exact whenFalse fails

/-! ### Exactly the footprint -/

theorem readsBelow_read_iff {offset limit : Nat} (memory : Memory α) :
    (read offset).ReadsBelow memory limit ↔ offset < limit :=
  ⟨fun below => below offset (List.mem_singleton.mpr rfl), readsBelow_read memory⟩

theorem readsBelow_bind_iff {first : LoggedReader α β} {next : β → LoggedReader α γ}
    {memory : Memory α} {limit : Nat} :
    (first >>= next).ReadsBelow memory limit ↔
      first.ReadsBelow memory limit ∧ (next (first.value memory)).ReadsBelow memory limit := by
  constructor
  · intro both
    exact ⟨fun offset member => both offset (List.mem_append_left _ member),
      fun offset member => both offset (List.mem_append_right _ member)⟩
  · rintro ⟨head, tail⟩
    exact head.bind tail

end LoggedReader

end Foundations
