import Mathlib.Data.List.Basic
import Mathlib.Data.List.Induction

/-! # Machines

A component that reacts to one input at a time: what a whole run leaves and puts out, and the rules
that lift a fact about one step to every run.  `Guarded` speaks about runs whose steps all meet a
condition on the state before the step and the input, `AtEachStep` about the inputs alone. -/

namespace Foundations

/-- A deterministic transition function with outputs. -/
structure Machine (σ ι ο : Type) where
  step : σ → ι → σ × ο

namespace Machine

variable {σ ι ο : Type} (machine : Machine σ ι ο)

def run : σ → List ι → σ
  | state, [] => state
  | state, input :: inputs => run (machine.step state input).1 inputs

/-- What the inputs put out, one output each. -/
def outputs : σ → List ι → List ο
  | _, [] => []
  | state, input :: inputs =>
    (machine.step state input).2 :: outputs (machine.step state input).1 inputs

@[simp] theorem run_nil (state : σ) : machine.run state [] = state := rfl

@[simp] theorem run_cons (state : σ) (input : ι) (inputs : List ι) :
    machine.run state (input :: inputs) = machine.run (machine.step state input).1 inputs := rfl

@[simp] theorem outputs_nil (state : σ) : machine.outputs state [] = [] := rfl

@[simp] theorem outputs_cons (state : σ) (input : ι) (inputs : List ι) :
    machine.outputs state (input :: inputs) =
      (machine.step state input).2 :: machine.outputs (machine.step state input).1 inputs := rfl

theorem run_append (state : σ) (first second : List ι) :
    machine.run state (first ++ second) = machine.run (machine.run state first) second := by
  induction first generalizing state with
  | nil => rfl
  | cons input first ih => exact ih _

/-! ## Invariants -/

/-- What every step keeps, every run keeps. -/
theorem run_invariant {invariant : σ → Prop}
    (keeps : ∀ state input, invariant state → invariant (machine.step state input).1)
    {state : σ} (holds : invariant state) (inputs : List ι) :
    invariant (machine.run state inputs) := by
  induction inputs generalizing state with
  | nil => exact holds
  | cons input inputs ih => exact ih (keeps state input holds)

/-- What every step puts out from a state with the invariant, every step of a run puts out. -/
theorem forall_outputs {invariant : σ → Prop} {property : ο → Prop}
    (keeps : ∀ state input, invariant state → invariant (machine.step state input).1)
    (emits : ∀ state input, invariant state → property (machine.step state input).2)
    {state : σ} (holds : invariant state) (inputs : List ι) :
    ∀ output ∈ machine.outputs state inputs, property output := by
  induction inputs generalizing state with
  | nil =>
    intro output member
    cases member
  | cons input inputs ih =>
    rw [outputs_cons, List.forall_mem_cons]
    exact ⟨emits state input holds, ih (keeps state input holds)⟩

/-- Every step of the run meets `condition`, which sees the state before the step and the input. -/
def Guarded (condition : σ → ι → Prop) : σ → List ι → Prop
  | _, [] => True
  | state, input :: inputs =>
    condition state input ∧ Guarded condition (machine.step state input).1 inputs

instance decidableGuarded (condition : σ → ι → Prop)
    [∀ state input, Decidable (condition state input)] :
    ∀ (state : σ) (inputs : List ι), Decidable (machine.Guarded condition state inputs)
  | _, [] => .isTrue trivial
  | state, input :: inputs =>
    have := decidableGuarded condition (machine.step state input).1 inputs
    inferInstanceAs (Decidable (condition state input ∧ _))

theorem guarded_append {condition : σ → ι → Prop} (state : σ) (first second : List ι) :
    machine.Guarded condition state (first ++ second) ↔
      machine.Guarded condition state first ∧
        machine.Guarded condition (machine.run state first) second := by
  induction first generalizing state with
  | nil => simp [Guarded]
  | cons input first ih => simp only [List.cons_append, Guarded, ih, run_cons, and_assoc]

/-- The condition on a run is the condition on each of its steps. -/
theorem guarded_iff {condition : σ → ι → Prop} (state : σ) (inputs : List ι) :
    machine.Guarded condition state inputs ↔
      ∀ past input after, inputs = past ++ input :: after →
        condition (machine.run state past) input := by
  constructor
  · rintro guarded past input after rfl
    exact ((machine.guarded_append ..).mp guarded).2.1
  · intro every
    induction inputs generalizing state with
    | nil => trivial
    | cons input inputs ih =>
      refine ⟨every [] input inputs rfl, ih _ fun past later after split => ?_⟩
      exact every (input :: past) later after (by rw [split, List.cons_append])

/-- What every step meeting the condition keeps, every run of such steps keeps. -/
theorem run_invariant_of_guarded {condition : σ → ι → Prop} {invariant : σ → Prop}
    (keeps : ∀ state input, invariant state → condition state input →
      invariant (machine.step state input).1)
    {state : σ} (holds : invariant state) {inputs : List ι}
    (guarded : machine.Guarded condition state inputs) : invariant (machine.run state inputs) := by
  induction inputs generalizing state with
  | nil => exact holds
  | cons input inputs ih => exact ih (keeps state input holds guarded.1) guarded.2

/-- One input over and over: every step meets the condition and reaches what comes next. -/
theorem run_replicate {condition : σ → ι → Prop} {reached : Nat → σ → Prop} {input : ι} {limit : Nat}
    (steps : ∀ count < limit, ∀ state, reached count state →
      condition state input ∧ reached (count + 1) (machine.step state input).1)
    {state : σ} (starts : reached 0 state) :
    machine.Guarded condition state (List.replicate limit input) ∧
      reached limit (machine.run state (List.replicate limit input)) := by
  induction limit with
  | zero => exact ⟨trivial, starts⟩
  | succ limit ih =>
    obtain ⟨guarded, before⟩ := ih fun count less => steps count (Nat.lt_succ_of_lt less)
    obtain ⟨met, after⟩ := steps limit (Nat.lt_succ_self limit) _ before
    rw [List.replicate_succ', guarded_append, run_append]
    exact ⟨⟨guarded, met, trivial⟩, after⟩

/-- Where the condition on a step is exactly what gives its output the property, and such an output
keeps `good`, the condition on a run is exactly what gives every output the property. -/
theorem forall_outputs_iff_guarded {invariant good : σ → Prop} {property : ο → Prop}
    {condition : σ → ι → Prop}
    (keeps : ∀ state input, invariant state → invariant (machine.step state input).1)
    (exactly : ∀ state input, invariant state → good state →
      (property (machine.step state input).2 ↔ condition state input))
    (leaves : ∀ state input, invariant state → property (machine.step state input).2 →
      good (machine.step state input).1)
    {state : σ} (holds : invariant state) (starts : good state) (inputs : List ι) :
    (∀ output ∈ machine.outputs state inputs, property output) ↔
      machine.Guarded condition state inputs := by
  induction inputs generalizing state with
  | nil => simp [Guarded]
  | cons input inputs ih =>
    have kept := keeps state input holds
    rw [outputs_cons, List.forall_mem_cons, Guarded, ← exactly state input holds starts]
    constructor
    · rintro ⟨first, rest⟩
      exact ⟨first, (ih kept (leaves state input holds first)).mp rest⟩
    · rintro ⟨first, rest⟩
      exact ⟨first, (ih kept (leaves state input holds first)).mpr rest⟩

/-! ## Projections -/

/-- `project` forgets a part of the state that the transitions do not look at. -/
def Projects {τ ο' : Type} (machine : Machine σ ι ο) (machine' : Machine τ ι ο')
    (project : σ → τ) : Prop :=
  ∀ state input, project (machine.step state input).1 = (machine'.step (project state) input).1

variable {machine} {τ ο' : Type} {machine' : Machine τ ι ο'} {project : σ → τ}

theorem Projects.run (projects : machine.Projects machine' project) (state : σ)
    (inputs : List ι) :
    project (machine.run state inputs) = machine'.run (project state) inputs := by
  induction inputs generalizing state with
  | nil => rfl
  | cons input inputs ih => rw [run_cons, run_cons, ih, projects]

theorem Projects.guarded (projects : machine.Projects machine' project)
    {condition : τ → ι → Prop} {state : σ} {inputs : List ι}
    (guarded : machine'.Guarded condition (project state) inputs) :
    machine.Guarded (fun state => condition (project state)) state inputs := by
  induction inputs generalizing state with
  | nil => trivial
  | cons input inputs ih => exact ⟨guarded.1, ih (by rw [projects]; exact guarded.2)⟩

/-! ## Observers -/

/-- The machine beside an observer, who sees the state before each step. -/
def observed (machine : Machine σ ι ο) (observe : ι → σ → τ → τ) : Machine (σ × τ) ι ο where
  step state input :=
    (((machine.step state.1 input).1, observe input state.1 state.2),
      (machine.step state.1 input).2)

/-- The observer does not get in the way. -/
theorem run_observed_fst (machine : Machine σ ι ο) (observe : ι → σ → τ → τ) (state : σ × τ)
    (inputs : List ι) :
    ((machine.observed observe).run state inputs).1 = machine.run state.1 inputs := by
  have projects : (machine.observed observe).Projects machine Prod.fst := fun _ _ => rfl
  exact projects.run state inputs

end Machine

/-! ## Histories -/

section Histories

variable {ι : Type}

/-- Each of the inputs is as `holds` says, which sees the inputs before it. -/
def AtEachStep (holds : List ι → ι → Prop) (inputs : List ι) : Prop :=
  ∀ past input after, inputs = past ++ input :: after → holds past input

theorem atEachStep_nil (holds : List ι → ι → Prop) : AtEachStep holds [] := by
  intro past input after split
  simp at split

theorem atEachStep_concat {holds : List ι → ι → Prop} (inputs : List ι) (input : ι) :
    AtEachStep holds (inputs ++ [input]) ↔ AtEachStep holds inputs ∧ holds inputs input := by
  constructor
  · intro every
    refine ⟨fun past earlier after split => ?_, every inputs input [] rfl⟩
    exact every past earlier (after ++ [input]) (by rw [split, List.append_assoc, List.cons_append])
  · intro ⟨every, last⟩ past earlier after split
    cases after using List.reverseRecOn with
    | nil =>
      obtain ⟨rfl, same⟩ := List.append_inj' split rfl
      cases same
      exact last
    | append_singleton after _ =>
      rw [← List.cons_append, ← List.append_assoc] at split
      exact every past earlier after (List.append_inj' split rfl).1

/-- Where, after a good history, an input is as `holds` says exactly under the condition, and leaves
a good history then, all inputs are as `holds` says exactly under the condition. -/
theorem atEachStep_iff {assumed holds condition : List ι → ι → Prop} {good : List ι → Prop}
    (begins : good [])
    (exactly : ∀ past input, good past → assumed past input →
      (holds past input ↔ condition past input))
    (leaves : ∀ past input, good past → assumed past input → holds past input →
      good (past ++ [input]))
    {inputs : List ι} (given : AtEachStep assumed inputs) :
    AtEachStep holds inputs ↔ AtEachStep condition inputs := by
  have both : (AtEachStep holds inputs ↔ AtEachStep condition inputs) ∧
      (AtEachStep holds inputs → good inputs) := by
    induction inputs using List.reverseRecOn with
    | nil => exact ⟨iff_of_true (atEachStep_nil _) (atEachStep_nil _), fun _ => begins⟩
    | append_singleton inputs input ih =>
      simp only [atEachStep_concat] at given ⊢
      obtain ⟨same, goes⟩ := ih given.1
      refine ⟨?_, fun every => leaves inputs input (goes every.1) given.2 every.2⟩
      rw [← same]
      exact and_congr_right fun every => exactly inputs input (goes every) given.2
  exact both.1

end Histories

end Foundations
