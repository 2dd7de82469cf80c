import RtpPlayer.Foundations.Transitions
import RtpPlayer.Events.EventBus

/-! # The bus and its threads

Any thread registers and deregisters modules and posts events, each under the lock of the bus.  The
thread of the bus holds the lock while it takes an event and collects the modules that want it, and
notifies them without it.  Nothing destroys the bus, so `m_exit` stays false. -/

namespace RtpPlayer

open Foundations

variable {κ : Type}

/-- Where the thread of the bus is in `Svc`. -/
inductive Svc (κ : Type) where
  /-- Before the lock is taken. -/
  | entering
  /-- Inside `m_cond.Wait`. -/
  | waiting (signalled : Bool)
  /-- In the loop over `m_modules`, with the lock held. -/
  | collecting (event : Event κ) (unchecked : List (EvtModule κ)) (modules : List κ)
  | dispatching (event : Event κ) (rest : List κ)
  /-- After `on_event`. -/
  | notified (event : Event κ) (module : κ) (rest : List κ)
  /-- After `on_event_dispatched`. -/
  | informed (event : Event κ) (module : κ) (rest : List κ)
  deriving DecidableEq

namespace Svc

/-- The thread does not hold the lock of the bus. -/
def Unlocked : Svc κ → Prop
  | .collecting .. => False
  | _ => True

instance : (svc : Svc κ) → Decidable svc.Unlocked
  | .entering => inferInstanceAs (Decidable True)
  | .waiting _ => inferInstanceAs (Decidable True)
  | .collecting .. => inferInstanceAs (Decidable False)
  | .dispatching .. => inferInstanceAs (Decidable True)
  | .notified .. => inferInstanceAs (Decidable True)
  | .informed .. => inferInstanceAs (Decidable True)

/-- The event that the thread holds. -/
def event : Svc κ → Option (Event κ)
  | .entering => none
  | .waiting _ => none
  | .collecting event _ _ => some event
  | .dispatching event _ => some event
  | .notified event _ _ => some event
  | .informed event _ _ => some event

/-- The modules whose reference the thread has still to take. -/
def toTake : Svc κ → List κ
  | .collecting event unchecked _ => EventBus.recipients unchecked event
  | _ => []

/-- The entries of `m_modules` that the loop has not reached. -/
def unchecked : Svc κ → List (EvtModule κ)
  | .collecting _ unchecked _ => unchecked
  | _ => []

theorem unchecked_of_unlocked {svc : Svc κ} (unlocked : svc.Unlocked) : svc.unchecked = [] := by
  cases svc with
  | collecting => exact unlocked.elim
  | _ => rfl

/-- The calls of `on_event` that the thread has still to make for its event. -/
def toCall : Svc κ → List (Event κ × κ)
  | .entering => []
  | .waiting _ => []
  | .collecting event unchecked modules =>
    (modules ++ EventBus.recipients unchecked event).map fun module => (event, module)
  | .dispatching event rest => rest.map fun module => (event, module)
  | .notified event _ rest => rest.map fun module => (event, module)
  | .informed event _ rest => rest.map fun module => (event, module)

/-- The references that the thread holds. -/
def held : Svc κ → List κ
  | .entering => []
  | .waiting _ => []
  | .collecting _ _ modules => modules
  | .dispatching _ rest => rest
  | .notified _ module rest => module :: rest
  | .informed _ module rest => module :: rest

/-- What `m_cond.Signal()` does to the thread. -/
def signal : Svc κ → Svc κ
  | .waiting _ => .waiting true
  | svc => svc

@[simp] theorem event_signal (svc : Svc κ) : svc.signal.event = svc.event := by
  cases svc <;> rfl

@[simp] theorem toTake_signal (svc : Svc κ) : svc.signal.toTake = svc.toTake := by
  cases svc <;> rfl

@[simp] theorem toCall_signal (svc : Svc κ) : svc.signal.toCall = svc.toCall := by
  cases svc <;> rfl

@[simp] theorem held_signal (svc : Svc κ) : svc.signal.held = svc.held := by
  cases svc <;> rfl

@[simp] theorem unchecked_signal (svc : Svc κ) : svc.signal.unchecked = svc.unchecked := by
  cases svc <;> rfl

theorem signal_waiting {svc : Svc κ} {signalled : Bool} (waits : svc.signal = .waiting signalled) :
    signalled = true := by
  cases svc <;> simp_all [signal]

end Svc

/-- The state and, in their order, the calls made, the events freed and the references taken and
given back. -/
structure EventDispatch (κ : Type) where
  bus : EventBus κ
  svc : Svc κ
  allocated : Nat
  calls : List (Event κ × κ)
  deleted : List (Event κ)
  taken : List κ
  given : List κ
  deriving DecidableEq

namespace EventDispatch

def create : EventDispatch κ where
  bus := .create
  svc := .entering
  allocated := 0
  calls := []
  deleted := []
  taken := []
  given := []

inductive Action (κ : Type) where
  | registerModule (module : κ) (evtMask : UInt32)
  | deregisterModule (module : κ)
  | post (now : Int) (sender : κ) (location : String) (type : UInt32) (name : String)
      (data : Option Nat) (needResponse : Bool)
  /-- The queue is empty. -/
  | wait
  /-- `m_cond.Wait` returns, signalled or not. -/
  | wake
  | dequeue
  /-- One round of the loop over `m_modules`. -/
  | collect
  | unlock
  | onEvent
  | onEventDispatched
  | release
  | deleteEvent
  deriving DecidableEq

variable [DecidableEq κ]

def step (state : EventDispatch κ) : Action κ → Option (EventDispatch κ)
  | .registerModule module evtMask =>
    if state.svc.Unlocked then
      some { state with bus := state.bus.registerModule module evtMask }
    else none
  | .deregisterModule module =>
    if state.svc.Unlocked then
      some { state with bus := state.bus.deregisterModule module }
    else none
  | .post now sender location type name data needResponse =>
    if state.svc.Unlocked then
      some { state with
        bus := state.bus.post state.allocated now sender location type name data needResponse
        svc := state.svc.signal
        allocated := state.allocated + 1 }
    else none
  | .wait =>
    match state.svc, state.bus.events.get with
    | .entering, none => some { state with svc := .waiting false }
    | _, _ => none
  | .wake =>
    match state.svc with
    | .waiting _ => some { state with svc := .entering }
    | _ => none
  | .dequeue =>
    match state.svc, state.bus.events.get with
    | .entering, some (event, events) =>
      some { state with
        bus := { state.bus with events }
        svc := .collecting event state.bus.modules [] }
    | _, _ => none
  | .collect =>
    match state.svc with
    | .collecting event (evtModule :: unchecked) modules =>
      if evtModule.Wants event.type then
        some { state with
          svc := .collecting event unchecked (modules ++ [evtModule.module])
          taken := state.taken ++ [evtModule.module] }
      else some { state with svc := .collecting event unchecked modules }
    | _ => none
  | .unlock =>
    match state.svc with
    | .collecting event [] modules => some { state with svc := .dispatching event modules }
    | _ => none
  | .onEvent =>
    match state.svc with
    | .dispatching event (module :: rest) =>
      some { state with
        svc := .notified event module rest
        calls := state.calls ++ [(event, module)] }
    | _ => none
  | .onEventDispatched =>
    match state.svc with
    | .notified event module rest => some { state with svc := .informed event module rest }
    | _ => none
  | .release =>
    match state.svc with
    | .informed event module rest =>
      some { state with
        svc := .dispatching event rest
        given := state.given ++ [module] }
    | _ => none
  | .deleteEvent =>
    match state.svc with
    | .dispatching event [] =>
      some { state with
        svc := .entering
        deleted := state.deleted ++ [event] }
    | _ => none

def system : Transitions (EventDispatch κ) (Action κ) where
  step := step

/-- The actions of the thread of the bus. -/
def Action.BySvc : Action κ → Prop
  | .registerModule .. => False
  | .deregisterModule .. => False
  | .post .. => False
  | _ => True

/-! ## What a step can be -/

inductive Stepped (state : EventDispatch κ) : Action κ → EventDispatch κ → Prop where
  | registerModule (unlocked : state.svc.Unlocked) (module : κ) (evtMask : UInt32) :
    Stepped state (.registerModule module evtMask)
      { state with bus := state.bus.registerModule module evtMask }
  | deregisterModule (unlocked : state.svc.Unlocked) (module : κ) :
    Stepped state (.deregisterModule module)
      { state with bus := state.bus.deregisterModule module }
  | post (unlocked : state.svc.Unlocked) (now : Int) (sender : κ) (location : String)
      (type : UInt32) (name : String) (data : Option Nat) (needResponse : Bool) :
    Stepped state (.post now sender location type name data needResponse)
      { state with
        bus := state.bus.post state.allocated now sender location type name data needResponse
        svc := state.svc.signal
        allocated := state.allocated + 1 }
  | wait (enters : state.svc = .entering) (empty : state.bus.events = []) :
    Stepped state .wait { state with svc := .waiting false }
  | wake (signalled : Bool) (waits : state.svc = .waiting signalled) :
    Stepped state .wake { state with svc := .entering }
  | dequeue (event : Event κ) (events : EventQueue κ) (enters : state.svc = .entering)
      (queued : state.bus.events = event :: events) :
    Stepped state .dequeue
      { state with
        bus := { state.bus with events }
        svc := .collecting event state.bus.modules [] }
  | collect (event : Event κ) (evtModule : EvtModule κ) (unchecked : List (EvtModule κ))
      (modules : List κ) (collects : state.svc = .collecting event (evtModule :: unchecked) modules)
      (wants : evtModule.Wants event.type) :
    Stepped state .collect
      { state with
        svc := .collecting event unchecked (modules ++ [evtModule.module])
        taken := state.taken ++ [evtModule.module] }
  | pass (event : Event κ) (evtModule : EvtModule κ) (unchecked : List (EvtModule κ))
      (modules : List κ) (collects : state.svc = .collecting event (evtModule :: unchecked) modules)
      (indifferent : ¬ evtModule.Wants event.type) :
    Stepped state .collect { state with svc := .collecting event unchecked modules }
  | unlock (event : Event κ) (modules : List κ)
      (collected : state.svc = .collecting event [] modules) :
    Stepped state .unlock { state with svc := .dispatching event modules }
  | onEvent (event : Event κ) (module : κ) (rest : List κ)
      (calls : state.svc = .dispatching event (module :: rest)) :
    Stepped state .onEvent
      { state with
        svc := .notified event module rest
        calls := state.calls ++ [(event, module)] }
  | onEventDispatched (event : Event κ) (module : κ) (rest : List κ)
      (called : state.svc = .notified event module rest) :
    Stepped state .onEventDispatched { state with svc := .informed event module rest }
  | release (event : Event κ) (module : κ) (rest : List κ)
      (holds : state.svc = .informed event module rest) :
    Stepped state .release
      { state with
        svc := .dispatching event rest
        given := state.given ++ [module] }
  | deleteEvent (event : Event κ) (done : state.svc = .dispatching event []) :
    Stepped state .deleteEvent
      { state with
        svc := .entering
        deleted := state.deleted ++ [event] }

theorem step_iff {state next : EventDispatch κ} {action : Action κ} :
    state.step action = some next ↔ Stepped state action next := by
  constructor
  · intro stepped
    cases action with
    | registerModule module evtMask =>
      simp only [step, Option.ite_none_right_eq_some, Option.some.injEq] at stepped
      obtain ⟨unlocked, rfl⟩ := stepped
      exact .registerModule unlocked module evtMask
    | deregisterModule module =>
      simp only [step, Option.ite_none_right_eq_some, Option.some.injEq] at stepped
      obtain ⟨unlocked, rfl⟩ := stepped
      exact .deregisterModule unlocked module
    | post now sender location type name data needResponse =>
      simp only [step, Option.ite_none_right_eq_some, Option.some.injEq] at stepped
      obtain ⟨unlocked, rfl⟩ := stepped
      exact .post unlocked ..
    -- the service thread goes on only from the place in its loop that the action is for
    | wait =>
      simp only [step] at stepped
      split at stepped
      · obtain rfl := Option.some.inj stepped
        exact .wait ‹_› (EventQueue.get_eq_none.mp ‹_›)
      · exact absurd stepped (Option.some_ne_none _).symm
    | wake =>
      simp only [step] at stepped
      split at stepped
      · obtain rfl := Option.some.inj stepped
        exact .wake _ ‹_›
      · exact absurd stepped (Option.some_ne_none _).symm
    | dequeue =>
      simp only [step] at stepped
      split at stepped
      · obtain rfl := Option.some.inj stepped
        exact .dequeue _ _ ‹_› (EventQueue.get_eq_some.mp ‹_›)
      · exact absurd stepped (Option.some_ne_none _).symm
    | collect =>
      simp only [step] at stepped
      split at stepped
      case h_2 => exact absurd stepped (Option.some_ne_none _).symm
      case h_1 event evtModule unchecked modules collects =>
        by_cases wants : evtModule.Wants event.type
        · rw [if_pos wants, Option.some.injEq] at stepped
          exact stepped ▸ .collect event evtModule unchecked modules collects wants
        · rw [if_neg wants, Option.some.injEq] at stepped
          exact stepped ▸ .pass event evtModule unchecked modules collects wants
    | unlock =>
      simp only [step] at stepped
      split at stepped
      · obtain rfl := Option.some.inj stepped
        exact .unlock _ _ ‹_›
      · exact absurd stepped (Option.some_ne_none _).symm
    | onEvent =>
      simp only [step] at stepped
      split at stepped
      · obtain rfl := Option.some.inj stepped
        exact .onEvent _ _ _ ‹_›
      · exact absurd stepped (Option.some_ne_none _).symm
    | onEventDispatched =>
      simp only [step] at stepped
      split at stepped
      · obtain rfl := Option.some.inj stepped
        exact .onEventDispatched _ _ _ ‹_›
      · exact absurd stepped (Option.some_ne_none _).symm
    | release =>
      simp only [step] at stepped
      split at stepped
      · obtain rfl := Option.some.inj stepped
        exact .release _ _ _ ‹_›
      · exact absurd stepped (Option.some_ne_none _).symm
    | deleteEvent =>
      simp only [step] at stepped
      split at stepped
      · obtain rfl := Option.some.inj stepped
        exact .deleteEvent _ ‹_›
      · exact absurd stepped (Option.some_ne_none _).symm
  · intro stepped
    cases stepped with
    | registerModule unlocked | deregisterModule unlocked | post unlocked =>
      simp [step, unlocked]
    | wait enters empty => simp [step, enters, empty, EventQueue.get]
    | wake signalled waits => simp [step, waits]
    | dequeue event events enters queued => simp [step, enters, queued, EventQueue.get]
    | collect event evtModule unchecked modules collects wants => simp [step, collects, wants]
    | pass event evtModule unchecked modules collects indifferent =>
      simp [step, collects, indifferent]
    | unlock event modules collected => simp [step, collected]
    | onEvent event module rest calls => simp [step, calls]
    | onEventDispatched event module rest called => simp [step, called]
    | release event module rest holds => simp [step, holds]
    | deleteEvent event done => simp [step, done]

/-! ## The modules and the loop over them -/

/-- No module is registered twice, and what the loop has not reached is registered. -/
structure Consistent (state : EventDispatch κ) : Prop where
  distinct : state.bus.Distinct
  unchecked : state.svc.unchecked ⊆ state.bus.modules

omit [DecidableEq κ] in
theorem consistent_create : (create : EventDispatch κ).Consistent where
  distinct := EventBus.distinct_create
  unchecked := List.nil_subset _

theorem Stepped.consistent {state next : EventDispatch κ} {action : Action κ}
    (stepped : Stepped state action next) (consistent : state.Consistent) : next.Consistent := by
  have unchecked := consistent.unchecked
  cases stepped with
  | registerModule unlocked module evtMask =>
    refine ⟨consistent.distinct.registerModule module evtMask, ?_⟩
    rw [Svc.unchecked_of_unlocked unlocked]
    exact List.nil_subset _
  | deregisterModule unlocked module =>
    refine ⟨consistent.distinct.deregisterModule module, ?_⟩
    rw [Svc.unchecked_of_unlocked unlocked]
    exact List.nil_subset _
  | post unlocked =>
    refine ⟨consistent.distinct, ?_⟩
    rw [Svc.unchecked_signal]
    exact unchecked
  | dequeue event events enters queued => exact ⟨consistent.distinct, fun _ mem => mem⟩
  | collect event evtModule rest modules collects wants =>
    rw [collects] at unchecked
    exact ⟨consistent.distinct, List.Subset.trans (List.subset_cons_self _ _) unchecked⟩
  | pass event evtModule rest modules collects indifferent =>
    rw [collects] at unchecked
    exact ⟨consistent.distinct, List.Subset.trans (List.subset_cons_self _ _) unchecked⟩
  | _ => exact ⟨consistent.distinct, List.nil_subset _⟩

/-- Only registrations and deregistrations move the modules. -/
theorem Stepped.modules {state next : EventDispatch κ} {action : Action κ}
    (stepped : Stepped state action next)
    (notRegister : ∀ module evtMask, action ≠ .registerModule module evtMask)
    (notDeregister : ∀ module, action ≠ .deregisterModule module) :
    next.bus.modules = state.bus.modules := by
  cases stepped with
  | registerModule unlocked module evtMask => exact absurd rfl (notRegister module evtMask)
  | deregisterModule unlocked module => exact absurd rfl (notDeregister module)
  | _ => rfl

end EventDispatch

end RtpPlayer
