import Mathlib.Data.List.Basic

/-! # Scripts

A script is a list of operations over one state.  An operation either hands its state on to the
next one or ends the script with the state it leaves. -/

namespace Foundations

namespace Script

variable {σ τ ι : Type}

/-- Perform the operations in order, up to the first that ends the script. -/
def execute (perform : ι → σ → Except σ σ) : List ι → σ → σ
  | [], state => state
  | operation :: operations, state =>
    match perform operation state with
    | .ok next => execute perform operations next
    | .error final => final

variable {perform : ι → σ → Except σ σ}

@[simp] theorem execute_nil (state : σ) : execute perform [] state = state := rfl

theorem execute_cons_ok {operation : ι} {state next : σ} (operations : List ι)
    (continues : perform operation state = .ok next) :
    execute perform (operation :: operations) state = execute perform operations next := by
  simp only [execute, continues]

theorem execute_cons_error {operation : ι} {state final : σ} (operations : List ι)
    (ends : perform operation state = .error final) :
    execute perform (operation :: operations) state = final := by
  simp only [execute, ends]

/-- The state an operation leaves, whether or not it ends the script. -/
def after (outcome : Except σ σ) : σ :=
  match outcome with
  | .ok next => next
  | .error final => final

@[simp] theorem after_ok (next : σ) : after (.ok next) = next := rfl

@[simp] theorem after_error (final : σ) : after (.error final) = final := rfl

theorem execute_singleton (operation : ι) (state : σ) :
    execute perform [operation] state = after (perform operation state) := by
  cases outcome : perform operation state with
  | ok next => rw [execute_cons_ok _ outcome, execute_nil, after_ok]
  | error final => rw [execute_cons_error _ outcome, after_error]

/-! ## Invariants -/

/-- What the first operation makes true and the others keep holds in the end. -/
theorem execute_cons_invariant {invariant : σ → Prop} {operation : ι} {operations : List ι}
    {state : σ} (first : invariant (after (perform operation state)))
    (rest : ∀ next, invariant next → invariant (execute perform operations next)) :
    invariant (execute perform (operation :: operations) state) := by
  cases outcome : perform operation state with
  | ok next =>
    rw [execute_cons_ok operations outcome]
    exact rest next (by simpa only [outcome, after_ok] using first)
  | error final =>
    rw [execute_cons_error operations outcome]
    simpa only [outcome, after_error] using first

/-- What every operation of a script keeps, the script keeps. -/
theorem execute_invariant {invariant : σ → Prop} {operations : List ι}
    (keeps : ∀ operation ∈ operations, ∀ state, invariant state →
      invariant (after (perform operation state))) {state : σ} (holds : invariant state) :
    invariant (execute perform operations state) := by
  induction operations generalizing state with
  | nil => exact holds
  | cons operation operations ih =>
    refine execute_cons_invariant (keeps operation List.mem_cons_self state holds) ?_
    intro next kept
    exact ih (fun later member => keeps later (List.mem_cons_of_mem _ member)) kept

/-- The last operation has the last word, unless one before it ends the script. -/
theorem execute_concat {invariant : σ → Prop} {operations : List ι} {last : ι}
    (ends : ∀ operation state final, perform operation state = .error final → invariant final)
    (finishes : ∀ state, invariant (after (perform last state))) (state : σ) :
    invariant (execute perform (operations ++ [last]) state) := by
  induction operations generalizing state with
  | nil => exact execute_cons_invariant (finishes state) fun _ kept => kept
  | cons operation operations ih =>
    rw [List.cons_append]
    cases outcome : perform operation state with
    | ok next =>
      rw [execute_cons_ok _ outcome]
      exact ih next
    | error final =>
      rw [execute_cons_error _ outcome]
      exact ends operation state final outcome

/-- Every operation that is reached meets `condition`, which also sees what would come after it. -/
def Guarded (perform : ι → σ → Except σ σ) (condition : ι → List ι → σ → Prop) :
    List ι → σ → Prop
  | [], _ => True
  | operation :: operations, state =>
    condition operation operations state ∧
      match perform operation state with
      | .ok next => Guarded perform condition operations next
      | .error _ => True

instance decidableGuarded (condition : ι → List ι → σ → Prop)
    [∀ operation operations state, Decidable (condition operation operations state)] :
    ∀ (operations : List ι) (state : σ), Decidable (Guarded perform condition operations state)
  | [], _ => .isTrue trivial
  | operation :: operations, state =>
    have : Decidable (match perform operation state with
        | .ok next => Guarded perform condition operations next
        | .error _ => True) :=
      match perform operation state with
      | .ok next => decidableGuarded condition operations next
      | .error _ => .isTrue trivial
    inferInstanceAs (Decidable (condition operation operations state ∧ _))

theorem guarded_cons_ok {condition : ι → List ι → σ → Prop} {operation : ι} {state next : σ}
    (operations : List ι) (continues : perform operation state = .ok next) :
    Guarded perform condition (operation :: operations) state ↔
      condition operation operations state ∧ Guarded perform condition operations next := by
  simp only [Guarded, continues]

theorem guarded_cons_error {condition : ι → List ι → σ → Prop} {operation : ι} {state final : σ}
    (operations : List ι) (ends : perform operation state = .error final) :
    Guarded perform condition (operation :: operations) state ↔
      condition operation operations state := by
  simp only [Guarded, ends, and_true]

theorem guarded_singleton {condition : ι → List ι → σ → Prop} (operation : ι) (state : σ) :
    Guarded perform condition [operation] state ↔ condition operation [] state := by
  rw [Guarded]
  cases perform operation state <;> simp [Guarded]

/-- Where every operation meets the condition in any state, the script does. -/
theorem guarded_of_forall {condition : ι → List ι → σ → Prop} {operations : List ι}
    (met : ∀ operation ∈ operations, ∀ later state, condition operation later state) (state : σ) :
    Guarded perform condition operations state := by
  induction operations generalizing state with
  | nil => trivial
  | cons operation operations ih =>
    rw [List.forall_mem_cons] at met
    refine ⟨met.1 operations state, ?_⟩
    split
    next => exact ih met.2 _
    next => trivial

/-- Where two conditions agree on what is assumed of each operation that is reached, they agree on
the script. -/
theorem guarded_congr {assumed condition condition' : ι → List ι → σ → Prop} {invariant : σ → Prop}
    (keeps : ∀ operation state next, invariant state → perform operation state = .ok next →
      invariant next)
    (agree : ∀ operation later state, invariant state → assumed operation later state →
      (condition operation later state ↔ condition' operation later state))
    (operations : List ι) {state : σ} (holds : invariant state)
    (assumes : Guarded perform assumed operations state) :
    Guarded perform condition operations state ↔ Guarded perform condition' operations state := by
  induction operations generalizing state with
  | nil => rfl
  | cons operation operations ih =>
    have here := agree operation operations state holds assumes.1
    cases outcome : perform operation state with
    | ok next =>
      rw [guarded_cons_ok _ outcome] at assumes ⊢
      rw [guarded_cons_ok _ outcome]
      exact and_congr here (ih (keeps operation state next holds outcome) assumes.2)
    | error final =>
      rw [guarded_cons_error _ outcome, guarded_cons_error _ outcome]
      exact here

/-- What every operation meeting the condition keeps, every script of such operations keeps. -/
theorem execute_invariant_of_guarded {condition : ι → List ι → σ → Prop}
    {invariant : List ι → σ → Prop}
    (keeps : ∀ operation operations state next, invariant (operation :: operations) state →
      condition operation operations state → perform operation state = .ok next →
      invariant operations next)
    (ends : ∀ operation operations state final, invariant (operation :: operations) state →
      condition operation operations state → perform operation state = .error final →
      invariant [] final)
    (operations : List ι) {state : σ} (holds : invariant operations state)
    (guarded : Guarded perform condition operations state) :
    invariant [] (execute perform operations state) := by
  induction operations generalizing state with
  | nil => exact holds
  | cons operation operations ih =>
    obtain ⟨met, rest⟩ := guarded
    cases outcome : perform operation state with
    | ok next =>
      rw [execute_cons_ok operations outcome]
      simp only [outcome] at rest
      exact ih (keeps operation operations state next holds met outcome) rest
    | error final =>
      rw [execute_cons_error operations outcome]
      exact ends operation operations state final holds met outcome

/-- Where only the last operation is under a condition, which is exactly what gives the state it
leaves the property, and one that ends the script early gives it anyway, the condition on the script
is exactly what gives the state in the end the property. -/
theorem execute_concat_iff_guarded {invariant property : σ → Prop}
    {condition : ι → List ι → σ → Prop} {last : ι}
    (keeps : ∀ operation state next, invariant state → perform operation state = .ok next →
      invariant next)
    (ends : ∀ operation state final, perform operation state = .error final → property final)
    (free : ∀ operation later state, later ≠ [] → condition operation later state)
    (exactly : ∀ state, invariant state →
      (property (after (perform last state)) ↔ condition last [] state))
    (earlier : List ι) {state : σ} (holds : invariant state) :
    property (execute perform (earlier ++ [last]) state) ↔
      Guarded perform condition (earlier ++ [last]) state := by
  induction earlier generalizing state with
  | nil =>
    rw [List.nil_append, execute_singleton, guarded_singleton]
    exact exactly state holds
  | cons operation earlier ih =>
    have early : condition operation (earlier ++ [last]) state := free _ _ _ (by simp)
    rw [List.cons_append]
    cases outcome : perform operation state with
    | ok next =>
      rw [execute_cons_ok _ outcome, guarded_cons_ok _ outcome, and_iff_right early]
      exact ih (keeps operation state next holds outcome)
    | error final =>
      rw [execute_cons_error _ outcome, guarded_cons_error _ outcome]
      exact iff_of_true (ends operation state final outcome) early

/-! ## Observers -/

/-- Perform an operation beside an observer, who sees the state before it. -/
def observed (perform : ι → σ → Except σ σ) (observe : ι → σ → τ → τ) (operation : ι)
    (state : σ × τ) : Except (σ × τ) (σ × τ) :=
  match perform operation state.1 with
  | .ok next => .ok (next, observe operation state.1 state.2)
  | .error final => .error (final, observe operation state.1 state.2)

variable {observe : ι → σ → τ → τ}

theorem observed_of_ok {operation : ι} {state : σ × τ} {next : σ}
    (continues : perform operation state.1 = .ok next) :
    observed perform observe operation state =
      .ok (next, observe operation state.1 state.2) := by
  rw [observed, continues]

theorem observed_of_error {operation : ι} {state : σ × τ} {final : σ}
    (ends : perform operation state.1 = .error final) :
    observed perform observe operation state =
      .error (final, observe operation state.1 state.2) := by
  rw [observed, ends]

theorem of_observed_ok {operation : ι} {state next : σ × τ}
    (continues : observed perform observe operation state = .ok next) :
    perform operation state.1 = .ok next.1 ∧ next.2 = observe operation state.1 state.2 := by
  cases outcome : perform operation state.1 with
  | ok left =>
    rw [observed_of_ok outcome] at continues
    cases continues
    exact ⟨rfl, rfl⟩
  | error left =>
    rw [observed_of_error outcome] at continues
    cases continues

theorem of_observed_error {operation : ι} {state final : σ × τ}
    (ends : observed perform observe operation state = .error final) :
    perform operation state.1 = .error final.1 ∧ final.2 = observe operation state.1 state.2 := by
  cases outcome : perform operation state.1 with
  | ok left =>
    rw [observed_of_ok outcome] at ends
    cases ends
  | error left =>
    rw [observed_of_error outcome] at ends
    cases ends
    exact ⟨rfl, rfl⟩

theorem after_observed (operation : ι) (state : σ × τ) :
    after (observed perform observe operation state) =
      (after (perform operation state.1), observe operation state.1 state.2) := by
  cases outcome : perform operation state.1 with
  | ok next => rw [observed_of_ok outcome, after_ok, after_ok]
  | error final => rw [observed_of_error outcome, after_error, after_error]

/-- The observer does not get in the way. -/
theorem execute_observed_fst (operations : List ι) (state : σ × τ) :
    (execute (observed perform observe) operations state).1 =
      execute perform operations state.1 := by
  induction operations generalizing state with
  | nil => rfl
  | cons operation operations ih =>
    cases outcome : perform operation state.1 with
    | ok next =>
      rw [execute_cons_ok _ outcome, execute_cons_ok _ (observed_of_ok outcome), ih]
    | error final =>
      rw [execute_cons_error _ outcome, execute_cons_error _ (observed_of_error outcome)]

/-! ## Emissions -/

section Emissions

variable {ω : Type}

/-- What the operations that are reached put out, each from the state before it. -/
def emitted (perform : ι → σ → Except σ σ) (emit : ι → σ → List ω) : List ι → σ → List ω
  | [], _ => []
  | operation :: operations, state =>
    emit operation state ++
      match perform operation state with
      | .ok next => emitted perform emit operations next
      | .error _ => []

variable {emit : ι → σ → List ω}

@[simp] theorem emitted_nil (state : σ) : emitted perform emit [] state = [] := rfl

theorem emitted_cons_ok {operation : ι} {state next : σ} (operations : List ι)
    (continues : perform operation state = .ok next) :
    emitted perform emit (operation :: operations) state =
      emit operation state ++ emitted perform emit operations next := by
  simp only [emitted, continues]

theorem emitted_cons_error {operation : ι} {state final : σ} (operations : List ι)
    (ends : perform operation state = .error final) :
    emitted perform emit (operation :: operations) state = emit operation state := by
  simp only [emitted, ends, List.append_nil]

end Emissions
/-! ## Simulation -/

/-- Both outcomes go on or both end, in related states. -/
def Agree (related : σ → τ → Prop) : Except σ σ → Except τ τ → Prop
  | .ok next, .ok next' => related next next'
  | .error final, .error final' => related final final'
  | _, _ => False

/-- Two ways to perform the operations that agree on each leave related states. -/
theorem execute_related (related : σ → τ → Prop) {perform : ι → σ → Except σ σ}
    {perform' : ι → τ → Except τ τ}
    (agree : ∀ operation state state', related state state' →
      Agree related (perform operation state) (perform' operation state'))
    (operations : List ι) {state : σ} {state' : τ} (holds : related state state') :
    related (execute perform operations state) (execute perform' operations state') := by
  induction operations generalizing state state' with
  | nil => exact holds
  | cons operation operations ih =>
    have agreed := agree operation state state' holds
    simp only [execute]
    generalize perform operation state = outcome at agreed
    generalize perform' operation state' = outcome' at agreed
    cases outcome with
    | ok next =>
      cases outcome' with
      | ok next' => exact ih agreed
      | error final' => exact agreed.elim
    | error final =>
      cases outcome' with
      | ok next' => exact agreed.elim
      | error final' => exact agreed

end Script

end Foundations
