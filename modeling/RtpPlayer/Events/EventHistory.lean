import RtpPlayer.Events.EventDispatch

/-! # What a history of the bus asks for

The actions taken so far tell which events were posted, which modules were registered when an event
was dequeued, and so which calls are due: for each event in the order of the posts, one call for
each module then registered whose mask meets its type.  No step of any thread makes another call,
leaves one out or takes two in another order. -/

namespace RtpPlayer

open Foundations

namespace EventDispatch

variable {κ : Type}

/-! ## Registrations that stand -/

/-- The entry that the action asks for. -/
def Action.registration : Action κ → Option (EvtModule κ)
  | .registerModule module evtMask => some ⟨module, evtMask⟩
  | _ => none

/-- The last registration of the module is followed by no deregistration of it. -/
def RegisteredAfter (module : κ) : List (Action κ) → Prop
  | [] => False
  | action :: later =>
    (∃ entry ∈ action.registration, entry.module = module) ∧ .deregisterModule module ∉ later ∨
      RegisteredAfter module later

theorem registeredAfter_concat (module : κ) (past : List (Action κ)) (action : Action κ) :
    RegisteredAfter module (past ++ [action]) ↔
      (∃ entry ∈ action.registration, entry.module = module) ∨
        RegisteredAfter module past ∧ action ≠ .deregisterModule module := by
  induction past with
  | nil => simp [RegisteredAfter]
  | cons first past ih =>
    simp only [List.cons_append, RegisteredAfter, ih, List.mem_append, List.mem_singleton, not_or,
      ne_comm (a := action), ne_eq, or_and_right, and_assoc]
    exact or_left_comm

variable [DecidableEq κ]

instance decidableRegisteredAfter (module : κ) :
    (actions : List (Action κ)) → Decidable (RegisteredAfter module actions)
  | [] => inferInstanceAs (Decidable False)
  | action :: later =>
    have := decidableRegisteredAfter module later
    inferInstanceAs (Decidable
      ((∃ entry ∈ action.registration, entry.module = module) ∧
        .deregisterModule module ∉ later ∨ RegisteredAfter module later))

/-- The entries that the later actions add and leave: each is asked for when its module is not
registered, and its module is not deregistered afterwards. -/
def registrations (before : List (Action κ)) : List (Action κ) → List (EvtModule κ)
  | [] => []
  | action :: later =>
    (action.registration.toList.filter fun entry =>
      ¬ RegisteredAfter entry.module before ∧ .deregisterModule entry.module ∉ later) ++
    registrations (before ++ [action]) later

theorem registrations_concat (before later : List (Action κ)) (action : Action κ) :
    registrations before (later ++ [action]) =
      ((registrations before later).filter fun entry =>
        action ≠ .deregisterModule entry.module) ++
      (action.registration.toList.filter fun entry =>
        ¬ RegisteredAfter entry.module (before ++ later)) := by
  induction later generalizing before with
  | nil => simp [registrations]
  | cons first later ih =>
    simp only [List.cons_append, registrations, ih, List.filter_append, List.append_assoc,
      List.filter_filter, List.nil_append]
    congr 1
    apply List.filter_congr
    intro entry _
    simp only [List.mem_append, List.mem_singleton, not_or, ne_comm (a := action), ne_eq,
      Bool.decide_and]
    ac_rfl

/-! ## Events and their batches -/

/-- The event that the action posts, once its allocation has a number. -/
def Action.event : Action κ → Option (Nat → Event κ)
  | .post now sender location type name data needResponse =>
    some fun allocation =>
      { allocation, sender, location, sendTime := now, doneTime := 0, type, data, name,
        needResponse }
  | _ => none

/-- The events in the order of their posts. -/
def posted (actions : List (Action κ)) : List (Event κ) :=
  (actions.filterMap Action.event).mapIdx fun allocation event => event allocation

/-- For each dequeue, what was done before it. -/
def beforeDequeues (before : List (Action κ)) : List (Action κ) → List (List (Action κ))
  | [] => []
  | action :: later =>
    (if action = .dequeue then [before] else []) ++ beforeDequeues (before ++ [action]) later

/-- Each event that was dequeued, with the modules to notify of it: those registered at that moment
whose mask meets its type, in the order of their registrations. -/
def batches (actions : List (Action κ)) : List (Event κ × List κ) :=
  ((posted actions).zip (beforeDequeues [] actions)).map fun (event, before) =>
    (event, EventBus.recipients (registrations [] before) event)

/-- The calls that a batch asks for. -/
def callsDue (batch : Event κ × List κ) : List (Event κ × κ) :=
  batch.2.map fun module => (batch.1, module)

omit [DecidableEq κ] in
theorem posted_concat (past : List (Action κ)) (action : Action κ) :
    posted (past ++ [action]) =
      posted past ++ (action.event.map fun event => event (posted past).length).toList := by
  unfold posted
  cases posts : action.event with
  | none => simp [posts]
  | some event => simp [posts, List.mapIdx_concat]

omit [DecidableEq κ] in
/-- The thread of the bus posts nothing. -/
theorem posted_append_bySvc (past : List (Action κ)) {more : List (Action κ)}
    (bySvc : ∀ action ∈ more, action.BySvc) : posted (past ++ more) = posted past := by
  have silent : more.filterMap Action.event = [] := by
    apply List.filterMap_eq_nil_iff.mpr
    intro action mem
    have own := bySvc action mem
    cases action with
    | post => exact own.elim
    | _ => rfl
  rw [posted, List.filterMap_append, silent, List.append_nil, posted]

omit [DecidableEq κ] in
theorem allocation_posted (actions : List (Action κ)) :
    (posted actions).map Event.allocation = List.range (posted actions).length := by
  induction actions using List.reverseRecOn with
  | nil => rfl
  | append_singleton past action ih =>
    rw [posted_concat]
    cases action with
    | post => simp [Action.event, ih, List.range_succ]
    | _ => simpa [Action.event] using ih

theorem beforeDequeues_concat (before later : List (Action κ)) (action : Action κ) :
    beforeDequeues before (later ++ [action]) =
      beforeDequeues before later ++
        (if action = .dequeue then [before ++ later] else []) := by
  induction later generalizing before with
  | nil => simp [beforeDequeues]
  | cons first later ih => simp [beforeDequeues, ih]

/-- The batches are those of the events that as many dequeues took. -/
theorem batches_eq {actions : List (Action κ)} {dequeued queued : List (Event κ)}
    (events : dequeued ++ queued = posted actions)
    (dequeues : (beforeDequeues [] actions).length = dequeued.length) :
    batches actions = (dequeued.zip (beforeDequeues [] actions)).map fun (event, before) =>
      (event, EventBus.recipients (registrations [] before) event) := by
  unfold batches
  rw [← events]
  have all : beforeDequeues [] actions ++ [] = beforeDequeues [] actions := List.append_nil _
  rw [← all, List.zip_append dequeues.symm, List.zip_nil_right, List.append_nil, all]

/-! ## What every step keeps -/

structure Accounted (past : List (Action κ)) (state : EventDispatch κ) : Prop where
  modules : state.bus.modules = registrations [] past
  registered : ∀ module, state.bus.Registered module ↔ RegisteredAfter module past
  distinct : state.bus.Distinct
  allocated : state.allocated = (posted past).length
  events : (state.deleted ++ state.svc.event.toList) ++ state.bus.events = posted past
  dequeues : (beforeDequeues [] past).length = (state.deleted ++ state.svc.event.toList).length
  calls : state.calls ++ state.svc.toCall = (batches past).flatMap callsDue
  once : ∀ batch ∈ batches past, batch.2.Nodup
  taken : state.taken ++ state.svc.toTake = (batches past).flatMap Prod.snd
  given : state.given ++ state.svc.held = state.taken
  idle : state.svc = .waiting false → state.bus.events = []

theorem accounted_create : Accounted [] (create : EventDispatch κ) where
  modules := rfl
  registered := by simp [create, EventBus.create, EventBus.Registered, RegisteredAfter]
  distinct := EventBus.distinct_create
  allocated := rfl
  events := rfl
  dequeues := rfl
  calls := rfl
  once := by simp [batches, posted]
  taken := rfl
  given := rfl
  idle := fun _ => rfl

namespace Accounted

variable {past : List (Action κ)} {state next : EventDispatch κ}

/-- A step that dequeues nothing adds no batch. -/
theorem batches_concat (accounted : Accounted past state) {action : Action κ}
    (other : action ≠ .dequeue) : batches (past ++ [action]) = batches past := by
  have dequeues : beforeDequeues [] (past ++ [action]) = beforeDequeues [] past := by
    simp [beforeDequeues_concat, other]
  rw [batches_eq accounted.events accounted.dequeues]
  have events := posted_concat past action
  rw [← accounted.events, List.append_assoc] at events
  rw [batches_eq events.symm (by rw [dequeues, accounted.dequeues]), dequeues]

/-- A dequeue adds the batch of the first event of the queue. -/
theorem batches_dequeue (accounted : Accounted past state) (enters : state.svc = .entering)
    {event : Event κ} {events : EventQueue κ} (queued : state.bus.events = event :: events) :
    batches (past ++ [.dequeue]) =
      batches past ++ [(event, EventBus.recipients state.bus.modules event)] := by
  have dequeues : beforeDequeues [] (past ++ [.dequeue]) = beforeDequeues [] past ++ [past] := by
    simp [beforeDequeues_concat]
  have all : (state.deleted ++ [event]) ++ events = posted (past ++ [.dequeue]) := by
    have before := accounted.events
    simpa [posted_concat, Action.event, enters, Svc.event, queued] using before
  have taken := accounted.dequeues
  rw [enters] at taken
  rw [batches_eq all (by simp [dequeues, taken, Svc.event]),
    batches_eq accounted.events accounted.dequeues, dequeues, enters]
  simp only [Svc.event, Option.toList_none, List.append_nil]
  rw [List.zip_append (by simpa [Svc.event] using taken.symm)]
  simp [accounted.modules]

/-- A step that posts and dequeues nothing, where what it moves keeps its sum. -/
theorem keeps (accounted : Accounted past state) {action : Action κ}
    (noEvent : action.event = none) (other : action ≠ .dequeue)
    (modules : next.bus.modules = registrations [] (past ++ [action]))
    (registered : ∀ module, next.bus.Registered module ↔ RegisteredAfter module (past ++ [action]))
    (distinct : next.bus.Distinct) (queue : next.bus.events = state.bus.events)
    (allocated : next.allocated = state.allocated)
    (taken : next.taken ++ next.svc.toTake = state.taken ++ state.svc.toTake)
    (events : next.deleted ++ next.svc.event.toList = state.deleted ++ state.svc.event.toList)
    (calls : next.calls ++ next.svc.toCall = state.calls ++ state.svc.toCall)
    (given : next.given ++ next.svc.held = next.taken)
    (idle : next.svc = .waiting false → state.bus.events = []) :
    Accounted (past ++ [action]) next where
  modules := modules
  registered := registered
  distinct := distinct
  allocated := by simpa [allocated, posted_concat, noEvent] using accounted.allocated
  events := by simpa [events, queue, posted_concat, noEvent] using accounted.events
  dequeues := by simpa [events, beforeDequeues_concat, other] using accounted.dequeues
  calls := by rw [calls, accounted.batches_concat other, accounted.calls]
  once := accounted.batches_concat other ▸ accounted.once
  taken := by rw [taken, accounted.batches_concat other, accounted.taken]
  given := given
  idle := fun waits => queue ▸ idle waits

theorem registerModule (accounted : Accounted past state) (module : κ) (evtMask : UInt32) :
    Accounted (past ++ [.registerModule module evtMask])
      { state with bus := state.bus.registerModule module evtMask } := by
  have queue : (state.bus.registerModule module evtMask).events = state.bus.events := by
    unfold EventBus.registerModule
    split <;> rfl
  apply accounted.keeps
  · rfl
  · simp
  · rw [registrations_concat, ← accounted.modules]
    simp only [EventBus.registerModule, accounted.registered module]
    by_cases registered : RegisteredAfter module past <;>
      simp [registered, Action.registration]
  · intro other
    simp [registeredAfter_concat, EventBus.registered_registerModule, accounted.registered,
      Action.registration]
  · exact accounted.distinct.registerModule module evtMask
  · exact queue
  · rfl
  · rfl
  · rfl
  · rfl
  · exact accounted.given
  · exact accounted.idle

theorem deregisterModule (accounted : Accounted past state) (module : κ) :
    Accounted (past ++ [.deregisterModule module])
      { state with bus := state.bus.deregisterModule module } := by
  apply accounted.keeps
  · rfl
  · simp
  · rw [registrations_concat, ← accounted.modules]
    simp [accounted.distinct.modules_deregisterModule, Action.registration, eq_comm]
  · intro other
    simp [registeredAfter_concat, accounted.distinct.registered_deregisterModule,
      accounted.registered, Action.registration]
  · exact accounted.distinct.deregisterModule module
  · rfl
  · rfl
  · rfl
  · rfl
  · rfl
  · exact accounted.given
  · exact accounted.idle

/-- A step of the thread of the bus that dequeues nothing. -/
theorem ofSvc (accounted : Accounted past state) {action : Action κ} (bySvc : action.BySvc)
    (other : action ≠ .dequeue) (bus : next.bus = state.bus)
    (allocated : next.allocated = state.allocated)
    (taken : next.taken ++ next.svc.toTake = state.taken ++ state.svc.toTake)
    (events : next.deleted ++ next.svc.event.toList = state.deleted ++ state.svc.event.toList)
    (calls : next.calls ++ next.svc.toCall = state.calls ++ state.svc.toCall)
    (given : next.given ++ next.svc.held = next.taken)
    (idle : next.svc = .waiting false → state.bus.events = []) :
    Accounted (past ++ [action]) next := by
  have quiet : action.registration = none ∧ action.event = none ∧
      ∀ module, action ≠ .deregisterModule module := by
    cases action <;> simp_all [Action.registration, Action.event, Action.BySvc]
  obtain ⟨noRegistration, noEvent, noDeregistration⟩ := quiet
  apply accounted.keeps noEvent other
  · simpa [bus, registrations_concat, noRegistration, noDeregistration] using accounted.modules
  · simpa [bus, registeredAfter_concat, noRegistration, noDeregistration] using
      accounted.registered
  · exact bus ▸ accounted.distinct
  · rw [bus]
  · exact allocated
  · exact taken
  · exact events
  · exact calls
  · exact given
  · exact idle

theorem post (accounted : Accounted past state) (now : Int) (sender : κ) (location : String)
    (type : UInt32) (name : String) (data : Option Nat) (needResponse : Bool) :
    Accounted (past ++ [.post now sender location type name data needResponse])
      { state with
        bus := state.bus.post state.allocated now sender location type name data needResponse
        svc := state.svc.signal
        allocated := state.allocated + 1 } := by
  have other : Action.post now sender location type name data needResponse ≠ .dequeue := by simp
  have batches := accounted.batches_concat other
  constructor
  · simpa [registrations_concat, Action.registration, EventBus.post] using accounted.modules
  · simpa [registeredAfter_concat, Action.registration, EventBus.post, EventBus.Registered] using
      accounted.registered
  · exact accounted.distinct
  · simp [posted_concat, Action.event, accounted.allocated]
  · simp [posted_concat, Action.event, ← accounted.events, EventBus.post, EventQueue.post,
      accounted.allocated]
  · simpa [beforeDequeues_concat] using accounted.dequeues
  · rw [batches, Svc.toCall_signal, accounted.calls]
  · exact batches ▸ accounted.once
  · rw [batches, Svc.toTake_signal, accounted.taken]
  · rw [Svc.held_signal, accounted.given]
  · intro waits
    exact absurd (Svc.signal_waiting waits) Bool.false_ne_true

theorem dequeue (accounted : Accounted past state) {event : Event κ} {events : EventQueue κ}
    (enters : state.svc = .entering) (queued : state.bus.events = event :: events) :
    Accounted (past ++ [.dequeue])
      { state with
        bus := { state.bus with events }
        svc := .collecting event state.bus.modules [] } := by
  have batches := accounted.batches_dequeue enters queued
  constructor
  · simpa [registrations_concat, Action.registration] using accounted.modules
  · simpa [registeredAfter_concat, Action.registration, EventBus.Registered] using
      accounted.registered
  · exact accounted.distinct
  · simpa [posted_concat, Action.event] using accounted.allocated
  · simpa [posted_concat, Action.event, enters, queued, Svc.event] using accounted.events
  · simpa [beforeDequeues_concat, enters, Svc.event] using accounted.dequeues
  · simpa [batches, enters, Svc.toCall, callsDue] using accounted.calls
  · intro batch mem
    rw [batches, List.mem_append, List.mem_singleton] at mem
    rcases mem with earlier | rfl
    · exact accounted.once batch earlier
    · exact accounted.distinct.nodup_recipients event
  · simpa [batches, enters, Svc.toTake] using accounted.taken
  · simpa [enters, Svc.held] using accounted.given
  · intro waits
    cases waits

theorem step (accounted : Accounted past state) {action : Action κ}
    (stepped : Stepped state action next) : Accounted (past ++ [action]) next := by
  have given := accounted.given
  cases stepped with
  | registerModule unlocked module evtMask => exact accounted.registerModule module evtMask
  | deregisterModule unlocked module => exact accounted.deregisterModule module
  | post => exact accounted.post ..
  | dequeue event events enters queued => exact accounted.dequeue enters queued
  -- what is left moves only the service thread
  | wait enters empty =>
    rw [enters] at given
    apply accounted.ofSvc <;>
      simp_all [Action.BySvc, Svc.event, Svc.toTake, Svc.toCall, Svc.held]
  | wake signalled waits =>
    rw [waits] at given
    apply accounted.ofSvc <;>
      simp_all [Action.BySvc, Svc.event, Svc.toTake, Svc.toCall, Svc.held]
  | collect event evtModule unchecked modules collects wants =>
    rw [collects] at given
    have taken : state.given ++ (modules ++ [evtModule.module]) =
        state.taken ++ [evtModule.module] := by
      rw [← List.append_assoc, ← given, Svc.held]
    have recipients := EventBus.recipients_cons_of_wants wants unchecked
    apply accounted.ofSvc <;>
      simp [Action.BySvc, Svc.event, Svc.toTake, Svc.toCall, Svc.held, collects, recipients, taken]
  | pass event evtModule unchecked modules collects indifferent =>
    rw [collects] at given
    have recipients := EventBus.recipients_cons_of_not_wants indifferent unchecked
    apply accounted.ofSvc <;>
      simp_all [Action.BySvc, Svc.event, Svc.toTake, Svc.toCall, Svc.held]
  | unlock event modules collected =>
    rw [collected] at given
    apply accounted.ofSvc <;>
      simp_all [Action.BySvc, Svc.event, Svc.toTake, Svc.toCall, Svc.held]
  | onEvent event module rest calls =>
    rw [calls] at given
    apply accounted.ofSvc <;>
      simp_all [Action.BySvc, Svc.event, Svc.toTake, Svc.toCall, Svc.held]
  | onEventDispatched event module rest called =>
    rw [called] at given
    apply accounted.ofSvc <;>
      simp_all [Action.BySvc, Svc.event, Svc.toTake, Svc.toCall, Svc.held]
  | release event module rest holds =>
    rw [holds] at given
    apply accounted.ofSvc <;>
      simp_all [Action.BySvc, Svc.event, Svc.toTake, Svc.toCall, Svc.held]
  | deleteEvent event done =>
    rw [done] at given
    apply accounted.ofSvc <;>
      simp_all [Action.BySvc, Svc.event, Svc.toTake, Svc.toCall, Svc.held]

end Accounted

end EventDispatch

end RtpPlayer
