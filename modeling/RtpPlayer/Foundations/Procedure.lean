import Mathlib.Data.List.Basic

/-! # Procedures and the states they pass

A `Procedure` is a computation over one state that hands back, besides its result and the state it
leaves, every state it passes on the way.  `Ensures` is a rule of pre- and postconditions with a
third part for the states in between: other threads may look at any of them. -/

namespace Foundations

/-- A computation over a state of type `σ` that returns an `α`. -/
structure Procedure (σ α : Type) where
  run : σ → α × σ × List σ

namespace Procedure

variable {σ α β : Type}

instance : Monad (Procedure σ) where
  pure result := ⟨fun state => (result, state, [])⟩
  bind first next := ⟨fun state =>
    let before := first.run state
    let after := (next before.1).run before.2.1
    (after.1, after.2.1, before.2.2 ++ after.2.2)⟩

def get : Procedure σ σ := ⟨fun state => (state, state, [])⟩

/-- One step of the computation. -/
def modify (change : σ → σ) : Procedure σ Unit := ⟨fun state => ((), change state, [change state])⟩

def value (procedure : Procedure σ α) (state : σ) : α := (procedure.run state).1

def final (procedure : Procedure σ α) (state : σ) : σ := (procedure.run state).2.1

/-- The states after each step, in order. -/
def passed (procedure : Procedure σ α) (state : σ) : List σ := (procedure.run state).2.2

section Equations

variable (state : σ)

@[simp] theorem value_pure (result : α) : (pure result : Procedure σ α).value state = result := rfl

@[simp] theorem final_pure (result : α) : (pure result : Procedure σ α).final state = state := rfl

@[simp] theorem passed_pure (result : α) : (pure result : Procedure σ α).passed state = [] := rfl

@[simp] theorem value_bind (first : Procedure σ α) (next : α → Procedure σ β) :
    (first >>= next).value state = (next (first.value state)).value (first.final state) := rfl

@[simp] theorem final_bind (first : Procedure σ α) (next : α → Procedure σ β) :
    (first >>= next).final state = (next (first.value state)).final (first.final state) := rfl

@[simp] theorem passed_bind (first : Procedure σ α) (next : α → Procedure σ β) :
    (first >>= next).passed state =
      first.passed state ++ (next (first.value state)).passed (first.final state) := rfl

@[simp] theorem value_get : (get : Procedure σ σ).value state = state := rfl

@[simp] theorem final_get : (get : Procedure σ σ).final state = state := rfl

@[simp] theorem final_modify (change : σ → σ) : (modify change).final state = change state := rfl

@[simp] theorem passed_modify (change : σ → σ) :
    (modify change).passed state = [change state] := rfl

end Equations

/-! ## Pre- and postconditions -/

/-- From a state with `pre` the procedure passes only states with `during`, and what it returns and
leaves is in `post`. -/
def Ensures (pre : σ → Prop) (procedure : Procedure σ α) (during : σ → Prop)
    (post : α → σ → Prop) : Prop :=
  ∀ state, pre state → (∀ moment ∈ procedure.passed state, during moment) ∧
    post (procedure.value state) (procedure.final state)

namespace Ensures

variable {pre pre' during during' : σ → Prop} {post post' : α → σ → Prop}
  {procedure : Procedure σ α}

theorem pure {result : α} (leaves : ∀ state, pre state → post result state) :
    Ensures pre (pure result) during post := by
  intro state met
  refine ⟨?_, leaves state met⟩
  intro moment member
  cases member

/-- What is known about the state may be used about what is read. -/
theorem read {next : σ → Procedure σ α}
    (tail : ∀ state, pre state → Ensures (fun same => same = state) (next state) during post) :
    Ensures pre (Procedure.get >>= next) during post :=
  fun state met => tail state met state rfl

/-- A part of the precondition that is not about the state. -/
theorem assume {fact : Prop} (rest : fact → Ensures pre procedure during post) :
    Ensures (fun state => fact ∧ pre state) procedure during post :=
  fun state met => rest met.1 state met.2

theorem modify {change : σ → σ} {post : Unit → σ → Prop}
    (passes : ∀ state, pre state → during (change state))
    (leaves : ∀ state, pre state → post () (change state)) :
    Ensures pre (Procedure.modify change) during post := by
  intro state met
  refine ⟨?_, leaves state met⟩
  intro moment member
  rw [passed_modify, List.mem_singleton] at member
  exact member ▸ passes state met

theorem bind {first : Procedure σ α} {next : α → Procedure σ β} {post : β → σ → Prop}
    (between : α → σ → Prop) (head : Ensures pre first during between)
    (tail : ∀ result, Ensures (between result) (next result) during post) :
    Ensures pre (first >>= next) during post := by
  intro state met
  obtain ⟨passes_head, reached⟩ := head state met
  obtain ⟨passes_tail, leaves⟩ := tail _ _ reached
  refine ⟨?_, leaves⟩
  intro moment member
  rw [passed_bind, List.mem_append] at member
  cases member with
  | inl inHead => exact passes_head moment inHead
  | inr inTail => exact passes_tail moment inTail

theorem ite {condition : Prop} [Decidable condition] {positive negative : Procedure σ α}
    (whenTrue : condition → Ensures pre positive during post)
    (whenFalse : ¬ condition → Ensures pre negative during post) :
    Ensures pre (if condition then positive else negative) during post := by
  split
  next holds => exact whenTrue holds
  next fails => exact whenFalse fails

theorem mono (ensures : Ensures pre procedure during post)
    (stronger : ∀ state, pre' state → pre state) (wider : ∀ state, during state → during' state)
    (weaker : ∀ result state, post result state → post' result state) :
    Ensures pre' procedure during' post' := by
  intro state met
  obtain ⟨passes, leaves⟩ := ensures state (stronger state met)
  exact ⟨fun moment member => wider moment (passes moment member), weaker _ _ leaves⟩

/-- A rule for every single state is a rule. -/
theorem of_each (each : ∀ state, pre state →
    Ensures (fun same => same = state) procedure during post) : Ensures pre procedure during post :=
  fun state met => each state met state rfl

/-- What the procedure does not touch. -/
theorem frame {fact : σ → Prop} (ensures : Ensures pre procedure during post)
    (keeps : ∀ state, fact state → fact (procedure.final state)) :
    Ensures (fun state => pre state ∧ fact state) procedure during
      (fun result state => post result state ∧ fact state) := by
  intro state met
  obtain ⟨passes, leaves⟩ := ensures state met.1
  exact ⟨passes, leaves, keeps state met.2⟩

end Ensures

end Procedure

end Foundations
