import Mathlib.Data.List.Basic
import Mathlib.Data.List.Induction

/-! # Transitions

A system whose actions are not possible in every state: the actors that share it take their actions
in any order, and a run is one such order.  `Always` speaks about every state that a run passes,
`Guarded` about every action it takes. -/

namespace Foundations

/-! ## Results that are related -/

section

variable {α β γ δ : Type} {related : α → β → Prop} {first : Option α} {second : Option β}
  {after : γ → δ → Prop}

theorem rel_bind (both : Option.Rel related first second) {next : α → Option γ}
    {other : β → Option δ}
    (keeps : ∀ result twin, related result twin → Option.Rel after (next result) (other twin)) :
    Option.Rel after (first.bind next) (second.bind other) := by
  cases both with
  | some same => exact keeps _ _ same
  | none => exact .none

theorem rel_map (both : Option.Rel related first second) {next : α → γ} {other : β → δ}
    (keeps : ∀ result twin, related result twin → after (next result) (other twin)) :
    Option.Rel after (first.map next) (second.map other) := by
  cases both with
  | some same => exact .some (keeps _ _ same)
  | none => exact .none

end

/-! ## Systems -/

/-- A partial transition function, `none` where the action is not possible. -/
structure Transitions (σ α : Type) where
  step : σ → α → Option σ

namespace Transitions

variable {σ α : Type} (system : Transitions σ α)

def run : σ → List α → Option σ
  | state, [] => some state
  | state, action :: actions => (system.step state action).bind fun next => run next actions

@[simp] theorem run_nil (state : σ) : system.run state [] = some state := rfl

@[simp] theorem run_cons (state : σ) (action : α) (actions : List α) :
    system.run state (action :: actions) =
      (system.step state action).bind fun next => system.run next actions := rfl

theorem run_append (state : σ) (first second : List α) :
    system.run state (first ++ second) =
      (system.run state first).bind fun next => system.run next second := by
  induction first generalizing state with
  | nil => rfl
  | cons action first ih =>
    simp only [List.cons_append, run_cons, Option.bind_assoc, ih]

theorem run_trans {start middle final : σ} {first second : List α}
    (ran : system.run start first = some middle) (goes : system.run middle second = some final) :
    system.run start (first ++ second) = some final := by
  rw [run_append, ran, Option.bind_some, goes]

/-! ## Invariants -/

/-- What every step keeps, every run keeps. -/
theorem run_invariant {invariant : σ → Prop}
    (keeps : ∀ state action next, invariant state → system.step state action = some next →
      invariant next)
    {start final : σ} (holds : invariant start) {actions : List α}
    (ran : system.run start actions = some final) : invariant final := by
  induction actions generalizing start with
  | nil =>
    rw [run_nil, Option.some.injEq] at ran
    exact ran ▸ holds
  | cons action actions ih =>
    rw [run_cons, Option.bind_eq_some_iff] at ran
    obtain ⟨next, stepped, ran⟩ := ran
    exact ih (keeps start action next holds stepped) ran

/-- What every step keeps of the actions so far and the state, every run keeps. -/
theorem run_history {property : List α → σ → Prop} {start : σ} (holds : property [] start)
    (keeps : ∀ past state action next, property past state →
      system.step state action = some next → property (past ++ [action]) next)
    {actions : List α} {final : σ} (ran : system.run start actions = some final) :
    property actions final := by
  induction actions using List.reverseRecOn generalizing final with
  | nil =>
    rw [run_nil, Option.some.injEq] at ran
    exact ran ▸ holds
  | append_singleton past action ih =>
    rw [run_append, Option.bind_eq_some_iff] at ran
    obtain ⟨state, ran, stepped⟩ := ran
    rw [run_cons, Option.bind_eq_some_iff] at stepped
    obtain ⟨next, stepped, last⟩ := stepped
    rw [run_nil, Option.some.injEq] at last
    exact last ▸ keeps past state action next (ih ran) stepped

/-- Where related actions are possible in related states alike, and lead to related states, so do
related runs. -/
theorem run_related {states : σ → σ → Prop} {alike : α → α → Prop}
    (keeps : ∀ (state twin : σ) (action other : α), states state twin → alike action other →
      Option.Rel states (system.step state action) (system.step twin other))
    {start twin : σ} (related : states start twin) {actions others : List α}
    (pairs : List.Forall₂ alike actions others) :
    Option.Rel states (system.run start actions) (system.run twin others) := by
  induction pairs generalizing start twin with
  | nil => exact .some related
  | cons pair pairs ih => exact rel_bind (keeps _ _ _ _ related pair) fun _ _ same => ih same

/-! ## What some of the actions can do -/

/-- Actions that are allowed lead from the one state to the other. -/
def Leads (allowed : α → Prop) (start final : σ) : Prop :=
  ∃ actions, (∀ action ∈ actions, allowed action) ∧ system.run start actions = some final

namespace Leads

variable {system} {allowed : α → Prop} {start middle final : σ}

theorem refl : system.Leads allowed start start := ⟨[], by simp, rfl⟩

theorem head {action : α} (may : allowed action) (stepped : system.step start action = some middle)
    (rest : system.Leads allowed middle final) : system.Leads allowed start final := by
  obtain ⟨actions, all, ran⟩ := rest
  refine ⟨action :: actions, List.forall_mem_cons.mpr ⟨may, all⟩, ?_⟩
  rw [run_cons, stepped, Option.bind_some, ran]

theorem trans (first : system.Leads allowed start middle)
    (second : system.Leads allowed middle final) : system.Leads allowed start final := by
  obtain ⟨actions, all, ran⟩ := first
  obtain ⟨others, allOthers, ranOthers⟩ := second
  refine ⟨actions ++ others, List.forall_mem_append.mpr ⟨all, allOthers⟩, ?_⟩
  rw [run_append, ran, Option.bind_some, ranOthers]

end Leads

/-- Where some allowed action always comes closer to the goal, the goal can be reached. -/
theorem leads_of_measure {allowed : α → Prop} {invariant goal : σ → Prop} (measure : σ → Nat)
    (progress : ∀ state, invariant state → ¬ goal state → ∃ action next, allowed action ∧
      system.step state action = some next ∧ invariant next ∧ measure next < measure state)
    {start : σ} (holds : invariant start) :
    ∃ final, system.Leads allowed start final ∧ invariant final ∧ goal final := by
  induction size : measure start using Nat.strongRecOn generalizing start with
  | ind bound ih =>
    by_cases reached : goal start
    · exact ⟨start, .refl, holds, reached⟩
    · obtain ⟨action, next, may, stepped, still, smaller⟩ := progress start holds reached
      obtain ⟨final, leads, ends, reached⟩ := ih _ (size ▸ smaller) still rfl
      exact ⟨final, .head may stepped leads, ends, reached⟩

/-! ## Every state and every action of a run -/

/-- The property holds in every state that the run passes, the first and the last included. -/
def Always (property : σ → Prop) (start : σ) (actions : List α) : Prop :=
  ∀ past, past <+: actions → ∀ state, system.run start past = some state → property state

theorem always_nil {property : σ → Prop} {start : σ} :
    system.Always property start [] ↔ property start := by
  constructor
  · intro always
    exact always [] List.prefix_rfl start rfl
  · intro holds past isPrefix state ran
    rw [List.prefix_nil.mp isPrefix, run_nil, Option.some.injEq] at ran
    exact ran ▸ holds

theorem always_cons {property : σ → Prop} {start : σ} {action : α} {actions : List α} :
    system.Always property start (action :: actions) ↔
      property start ∧ ∀ next, system.step start action = some next →
        system.Always property next actions := by
  constructor
  · intro always
    refine ⟨always [] (List.nil_prefix) start rfl, ?_⟩
    intro next stepped past isPrefix state ran
    apply always (action :: past) (List.cons_prefix_cons.mpr ⟨rfl, isPrefix⟩) state
    simp [stepped, ran]
  · rintro ⟨holds, rest⟩ past isPrefix state ran
    cases past with
    | nil =>
      rw [run_nil, Option.some.injEq] at ran
      exact ran ▸ holds
    | cons first past =>
      obtain ⟨same, shorter⟩ := List.cons_prefix_cons.mp isPrefix
      subst same
      rw [run_cons, Option.bind_eq_some_iff] at ran
      obtain ⟨next, stepped, ran⟩ := ran
      exact rest next stepped past shorter state ran

/-- Every action that the run takes meets `condition`, which sees the state before it. -/
def Guarded (condition : σ → α → Prop) : σ → List α → Prop
  | _, [] => True
  | state, action :: actions =>
    ∀ next, system.step state action = some next →
      condition state action ∧ Guarded condition next actions

/-- Where the condition on a step is exactly what keeps the property, the condition on a run is
exactly what keeps it in every state. -/
theorem always_iff_guarded {property invariant : σ → Prop} {condition : σ → α → Prop}
    (keeps : ∀ state action next, invariant state → system.step state action = some next →
      invariant next)
    (exactly : ∀ state action next, invariant state → property state →
      system.step state action = some next → (property next ↔ condition state action))
    {start : σ} (invariant_start : invariant start) (holds : property start) (actions : List α) :
    system.Always property start actions ↔ system.Guarded condition start actions := by
  induction actions generalizing start with
  | nil =>
    rw [always_nil]
    exact ⟨fun _ => trivial, fun _ => holds⟩
  | cons action actions ih =>
    rw [always_cons]
    constructor
    · rintro ⟨-, rest⟩ next stepped
      have always := rest next stepped
      have holds_next : property next := always [] List.nil_prefix next rfl
      refine ⟨(exactly start action next invariant_start holds stepped).mp holds_next, ?_⟩
      exact (ih (keeps start action next invariant_start stepped) holds_next).mp always
    · intro guarded
      refine ⟨holds, ?_⟩
      intro next stepped
      obtain ⟨met, guarded⟩ := guarded next stepped
      have holds_next := (exactly start action next invariant_start holds stepped).mpr met
      exact (ih (keeps start action next invariant_start stepped) holds_next).mpr guarded

end Transitions

end Foundations
