import RtpPlayer.Foundations.References
import RtpPlayer.Events.EventDispatch

/-! # The life of a module

A module registers itself when it is constructed.  The thread that gives its last reference back
runs its destructor, which deregisters it at its end; until then the thread of the bus still finds
it among the modules.  The count is under the lock of the module, the list under the lock of the
bus. -/

namespace RtpPlayer

open Foundations

structure ModuleLifetime (κ : Type) where
  dispatch : EventDispatch κ
  refCount : References κ
  constructed : List κ
  /-- The references of the owners. -/
  owned : List κ
  /-- The modules whose destructor an owner runs, up to `deregister_module`. -/
  destroying : List κ
  /-- The module whose destructor the thread of the bus runs. -/
  svcDestroying : Option κ
  /-- The modules on which `delete this` was run. -/
  deleted : List κ
  /-- The modules that got a reference after their count had been 0. -/
  revived : List κ
  /-- The modules whose `on_event` was called after their count had been 0. -/
  calledLate : List κ

namespace ModuleLifetime

variable {κ : Type} [DecidableEq κ]

def create : ModuleLifetime κ where
  dispatch := .create
  refCount := fun _ => 0
  constructed := []
  owned := []
  destroying := []
  svcDestroying := none
  deleted := []
  revived := []
  calledLate := []

inductive Action (κ : Type) where
  | construct (module : κ) (evtMask : UInt32)
  | addRef (module : κ)
  | release (module : κ)
  /-- The end of the destructor that an owner runs. -/
  | deregisterModule (module : κ)
  /-- The end of the destructor that the thread of the bus runs. -/
  | svcDeregisterModule
  | post (now : Int) (sender : κ) (location : String) (type : UInt32) (name : String)
      (data : Option Nat) (needResponse : Bool)
  | wait
  | wake
  | dequeue
  | collect
  | unlock
  | onEvent
  | onEventDispatched
  | svcRelease
  | deleteEvent

/-- The module of which this round of the loop over `m_modules` takes a reference. -/
def wanted (state : ModuleLifetime κ) : Option κ :=
  match state.dispatch.svc with
  | .collecting event (evtModule :: _) _ =>
    if evtModule.Wants event.type then some evtModule.module else none
  | _ => none

/-- The thread of the bus takes the step, where it runs no destructor. -/
def svcStep (state : ModuleLifetime κ) (action : EventDispatch.Action κ) :
    Option (ModuleLifetime κ) :=
  if state.svcDestroying = none then
    (state.dispatch.step action).map fun dispatch => { state with dispatch }
  else none

def step (state : ModuleLifetime κ) : Action κ → Option (ModuleLifetime κ)
  | .construct module evtMask =>
    if module ∉ state.constructed then
      (state.dispatch.step (.registerModule module evtMask)).map fun dispatch =>
        { state with
          dispatch
          refCount := state.refCount.addRef module
          constructed := module :: state.constructed
          owned := module :: state.owned }
    else none
  | .addRef module =>
    if module ∈ state.owned then
      some { state with
        refCount := state.refCount.addRef module
        owned := module :: state.owned }
    else none
  | .release module =>
    if module ∈ state.owned then
      if state.refCount.release module module = 0 then
        some { state with
          refCount := state.refCount.release module
          owned := state.owned.erase module
          destroying := module :: state.destroying
          deleted := state.deleted ++ [module] }
      else
        some { state with
          refCount := state.refCount.release module
          owned := state.owned.erase module }
    else none
  | .deregisterModule module =>
    if module ∈ state.destroying then
      (state.dispatch.step (.deregisterModule module)).map fun dispatch =>
        { state with dispatch, destroying := state.destroying.erase module }
    else none
  | .svcDeregisterModule =>
    match state.svcDestroying with
    | some module =>
      (state.dispatch.step (.deregisterModule module)).map fun dispatch =>
        { state with dispatch, svcDestroying := none }
    | none => none
  | .post now sender location type name data needResponse =>
    (state.dispatch.step (.post now sender location type name data needResponse)).map
      fun dispatch => { state with dispatch }
  | .wait => state.svcStep .wait
  | .wake => state.svcStep .wake
  | .dequeue => state.svcStep .dequeue
  | .collect =>
    (state.svcStep .collect).map fun next =>
      match state.wanted with
      | some module =>
        { next with
          refCount := state.refCount.addRef module
          revived := if module ∈ state.deleted then state.revived ++ [module] else state.revived }
      | none => next
  | .unlock => state.svcStep .unlock
  | .onEvent =>
    match state.dispatch.svc with
    | .dispatching _ (module :: _) =>
      (state.svcStep .onEvent).map fun next =>
        { next with
          calledLate :=
            if module ∈ state.deleted then state.calledLate ++ [module] else state.calledLate }
    | _ => none
  | .onEventDispatched => state.svcStep .onEventDispatched
  | .svcRelease =>
    match state.dispatch.svc with
    | .informed _ module _ =>
      (state.svcStep .release).map fun next =>
        if state.refCount.release module module = 0 then
          { next with
            refCount := state.refCount.release module
            svcDestroying := some module
            deleted := state.deleted ++ [module] }
        else { next with refCount := state.refCount.release module }
    | _ => none
  | .deleteEvent => state.svcStep .deleteEvent

def system : Transitions (ModuleLifetime κ) (Action κ) where
  step := step

/-! ## What a step can be -/

/-- The step of the bus behind the action, where the action moves no reference. -/
def Action.silent : Action κ → Option (EventDispatch.Action κ)
  | .post now sender location type name data needResponse =>
    some (.post now sender location type name data needResponse)
  | .wait => some .wait
  | .wake => some .wake
  | .dequeue => some .dequeue
  | .unlock => some .unlock
  | .onEventDispatched => some .onEventDispatched
  | .deleteEvent => some .deleteEvent
  | _ => none

inductive Stepped (state : ModuleLifetime κ) : Action κ → ModuleLifetime κ → Prop where
  | construct (module : κ) (evtMask : UInt32) (dispatch : EventDispatch κ)
      (fresh : module ∉ state.constructed)
      (registers : EventDispatch.Stepped state.dispatch (.registerModule module evtMask) dispatch) :
    Stepped state (.construct module evtMask)
      { state with
        dispatch
        refCount := state.refCount.addRef module
        constructed := module :: state.constructed
        owned := module :: state.owned }
  | addRef (module : κ) (holds : module ∈ state.owned) :
    Stepped state (.addRef module)
      { state with
        refCount := state.refCount.addRef module
        owned := module :: state.owned }
  | releaseLast (module : κ) (holds : module ∈ state.owned)
      (last : state.refCount.release module module = 0) :
    Stepped state (.release module)
      { state with
        refCount := state.refCount.release module
        owned := state.owned.erase module
        destroying := module :: state.destroying
        deleted := state.deleted ++ [module] }
  | release (module : κ) (holds : module ∈ state.owned)
      (left : state.refCount.release module module ≠ 0) :
    Stepped state (.release module)
      { state with
        refCount := state.refCount.release module
        owned := state.owned.erase module }
  | deregisterModule (module : κ) (dispatch : EventDispatch κ)
      (runs : module ∈ state.destroying)
      (deregisters : EventDispatch.Stepped state.dispatch (.deregisterModule module) dispatch) :
    Stepped state (.deregisterModule module)
      { state with dispatch, destroying := state.destroying.erase module }
  | svcDeregisterModule (module : κ) (dispatch : EventDispatch κ)
      (runs : state.svcDestroying = some module)
      (deregisters : EventDispatch.Stepped state.dispatch (.deregisterModule module) dispatch) :
    Stepped state .svcDeregisterModule { state with dispatch, svcDestroying := none }
  | silent (action : Action κ) (inner : EventDispatch.Action κ) (dispatch : EventDispatch κ)
      (same : action.silent = some inner)
      (moves : EventDispatch.Stepped state.dispatch inner dispatch) :
    Stepped state action { state with dispatch }
  | pass (dispatch : EventDispatch κ) (indifferent : state.wanted = none)
      (collects : EventDispatch.Stepped state.dispatch .collect dispatch) :
    Stepped state .collect { state with dispatch }
  | collect (module : κ) (dispatch : EventDispatch κ) (alone : state.svcDestroying = none)
      (wants : state.wanted = some module)
      (collects : EventDispatch.Stepped state.dispatch .collect dispatch) :
    Stepped state .collect
      { state with
        dispatch
        refCount := state.refCount.addRef module
        revived := if module ∈ state.deleted then state.revived ++ [module] else state.revived }
  | onEvent (event : Event κ) (module : κ) (rest : List κ) (dispatch : EventDispatch κ)
      (dispatching : state.dispatch.svc = .dispatching event (module :: rest))
      (calls : EventDispatch.Stepped state.dispatch .onEvent dispatch) :
    Stepped state .onEvent
      { state with
        dispatch
        calledLate :=
          if module ∈ state.deleted then state.calledLate ++ [module] else state.calledLate }
  | svcReleaseLast (event : Event κ) (module : κ) (rest : List κ) (dispatch : EventDispatch κ)
      (alone : state.svcDestroying = none)
      (holds : state.dispatch.svc = .informed event module rest)
      (releases : EventDispatch.Stepped state.dispatch .release dispatch)
      (last : state.refCount.release module module = 0) :
    Stepped state .svcRelease
      { state with
        dispatch
        refCount := state.refCount.release module
        svcDestroying := some module
        deleted := state.deleted ++ [module] }
  | svcRelease (event : Event κ) (module : κ) (rest : List κ) (dispatch : EventDispatch κ)
      (holds : state.dispatch.svc = .informed event module rest)
      (releases : EventDispatch.Stepped state.dispatch .release dispatch)
      (left : state.refCount.release module module ≠ 0) :
    Stepped state .svcRelease
      { state with
        dispatch
        refCount := state.refCount.release module }

theorem svcStep_eq_some {state next : ModuleLifetime κ} {action : EventDispatch.Action κ}
    (stepped : state.svcStep action = some next) :
    ∃ dispatch, state.svcDestroying = none ∧
      EventDispatch.Stepped state.dispatch action dispatch ∧ next = { state with dispatch } := by
  simp only [svcStep, Option.ite_none_right_eq_some, Option.map_eq_some_iff] at stepped
  obtain ⟨alone, dispatch, moves, rfl⟩ := stepped
  exact ⟨dispatch, alone, EventDispatch.step_iff.mp moves, rfl⟩

theorem stepped_of_step {state next : ModuleLifetime κ} {action : Action κ}
    (stepped : state.step action = some next) : Stepped state action next := by
  -- most steps of the service thread touch no reference
  have silently : ∀ {inner}, action.silent = some inner → state.svcStep inner = some next →
      Stepped state action next := by
    intro inner same moved
    obtain ⟨dispatch, -, moves, rfl⟩ := svcStep_eq_some moved
    exact .silent action inner dispatch same moves
  cases action with
  | construct module evtMask =>
    simp only [step, Option.ite_none_right_eq_some, Option.map_eq_some_iff] at stepped
    obtain ⟨fresh, dispatch, registers, rfl⟩ := stepped
    exact .construct module evtMask dispatch fresh (EventDispatch.step_iff.mp registers)
  | addRef module =>
    simp only [step, Option.ite_none_right_eq_some, Option.some.injEq] at stepped
    obtain ⟨holds, rfl⟩ := stepped
    exact .addRef module holds
  | release module =>
    simp only [step, Option.ite_none_right_eq_some] at stepped
    obtain ⟨holds, stepped⟩ := stepped
    by_cases last : state.refCount.release module module = 0
    · rw [if_pos last, Option.some.injEq] at stepped
      exact stepped ▸ .releaseLast module holds last
    · rw [if_neg last, Option.some.injEq] at stepped
      exact stepped ▸ .release module holds last
  | deregisterModule module =>
    simp only [step, Option.ite_none_right_eq_some, Option.map_eq_some_iff] at stepped
    obtain ⟨runs, dispatch, deregisters, rfl⟩ := stepped
    exact .deregisterModule module dispatch runs (EventDispatch.step_iff.mp deregisters)
  | svcDeregisterModule =>
    simp only [step] at stepped
    split at stepped
    case h_1 module runs =>
      obtain ⟨dispatch, deregisters, rfl⟩ := Option.map_eq_some_iff.mp stepped
      exact .svcDeregisterModule module dispatch runs (EventDispatch.step_iff.mp deregisters)
    case h_2 => exact absurd stepped (Option.some_ne_none _).symm
  | post now sender location type name data needResponse =>
    obtain ⟨dispatch, moves, rfl⟩ := Option.map_eq_some_iff.mp stepped
    exact .silent _ _ dispatch rfl (EventDispatch.step_iff.mp moves)
  | wait => exact silently rfl stepped
  | wake => exact silently rfl stepped
  | dequeue => exact silently rfl stepped
  | unlock => exact silently rfl stepped
  | onEventDispatched => exact silently rfl stepped
  | deleteEvent => exact silently rfl stepped
  | collect =>
    obtain ⟨middle, moved, rest⟩ := Option.map_eq_some_iff.mp stepped
    obtain ⟨dispatch, alone, collects, rfl⟩ := svcStep_eq_some moved
    split at rest
    case h_1 module wants => exact rest ▸ .collect module dispatch alone wants collects
    case h_2 indifferent => exact rest ▸ .pass dispatch indifferent collects
  | onEvent =>
    simp only [step] at stepped
    split at stepped
    case h_1 event module rest dispatching =>
      obtain ⟨middle, moved, rfl⟩ := Option.map_eq_some_iff.mp stepped
      obtain ⟨dispatch, -, calls, rfl⟩ := svcStep_eq_some moved
      exact .onEvent event module rest dispatch dispatching calls
    case h_2 => exact absurd stepped (Option.some_ne_none _).symm
  | svcRelease =>
    simp only [step] at stepped
    split at stepped
    case h_1 event module rest holds =>
      obtain ⟨middle, moved, after⟩ := Option.map_eq_some_iff.mp stepped
      obtain ⟨dispatch, alone, releases, rfl⟩ := svcStep_eq_some moved
      by_cases last : state.refCount.release module module = 0
      · rw [if_pos last] at after
        exact after ▸ .svcReleaseLast event module rest dispatch alone holds releases last
      · rw [if_neg last] at after
        exact after ▸ .svcRelease event module rest dispatch holds releases last
    case h_2 => exact absurd stepped (Option.some_ne_none _).symm

end ModuleLifetime

end RtpPlayer
