import RtpPlayer.Events.EventHistory

/-! # Exactly-once dispatch

In every order of the threads the calls made are those that the history asks for, and the thread of
the bus, left alone, makes the rest of them, frees every event and gives every reference back. -/

namespace RtpPlayer

open Foundations

namespace EventDispatch

variable {κ : Type} [DecidableEq κ]

/-! ## Nothing stays undone -/

section

variable {state next : EventDispatch κ} {event : Event κ} {module : κ} {rest : List κ}

theorem Stepped.leads {action : Action κ} (stepped : Stepped state action next)
    (bySvc : action.BySvc) : system.Leads Action.BySvc state next :=
  .head bySvc (step_iff.mpr stepped) .refl

theorem releases (holds : state.svc = .informed event module rest) :
    ∃ next, system.Leads Action.BySvc state next ∧ next.svc = .dispatching event rest ∧
      next.bus = state.bus :=
  ⟨_, (Stepped.release event module rest holds).leads trivial, rfl, rfl⟩

theorem informs (called : state.svc = .notified event module rest) :
    ∃ next, system.Leads Action.BySvc state next ∧ next.svc = .dispatching event rest ∧
      next.bus = state.bus := by
  obtain ⟨informed, leads, holds, bus⟩ : ∃ next, system.Leads Action.BySvc state next ∧
      next.svc = .informed event module rest ∧ next.bus = state.bus :=
    ⟨_, (Stepped.onEventDispatched event module rest called).leads trivial, rfl, rfl⟩
  obtain ⟨final, more, dispatching, same⟩ := releases holds
  exact ⟨final, leads.trans more, dispatching, same.trans bus⟩

theorem notifies (dispatching : state.svc = .dispatching event (module :: rest)) :
    ∃ next, system.Leads Action.BySvc state next ∧ next.svc = .dispatching event rest ∧
      next.bus = state.bus := by
  obtain ⟨notified, leads, called, bus⟩ : ∃ next, system.Leads Action.BySvc state next ∧
      next.svc = .notified event module rest ∧ next.bus = state.bus :=
    ⟨_, (Stepped.onEvent event module rest dispatching).leads trivial, rfl, rfl⟩
  obtain ⟨final, more, dispatching, same⟩ := informs called
  exact ⟨final, leads.trans more, dispatching, same.trans bus⟩

/-- The thread goes through the snapshot, and back to the lock. -/
theorem finishes (dispatching : state.svc = .dispatching event rest) :
    ∃ final, system.Leads Action.BySvc state final ∧ final.svc = .entering ∧
      final.bus = state.bus := by
  induction rest generalizing state with
  | nil => exact ⟨_, (Stepped.deleteEvent event dispatching).leads trivial, rfl, rfl⟩
  | cons module rest ih =>
    obtain ⟨between, leads, again, bus⟩ := notifies dispatching
    obtain ⟨final, more, enters, same⟩ := ih again
    exact ⟨final, leads.trans more, enters, same.trans bus⟩

/-- The thread goes through the loop over `m_modules`, and on to the lock. -/
theorem collects {unchecked : List (EvtModule κ)} {modules : List κ}
    (collecting : state.svc = .collecting event unchecked modules) :
    ∃ final, system.Leads Action.BySvc state final ∧ final.svc = .entering ∧
      final.bus = state.bus := by
  induction unchecked generalizing state modules with
  | nil =>
    obtain ⟨unlocked, leads, dispatching, bus⟩ : ∃ next, system.Leads Action.BySvc state next ∧
        next.svc = .dispatching event modules ∧ next.bus = state.bus :=
      ⟨_, (Stepped.unlock event modules collecting).leads trivial, rfl, rfl⟩
    obtain ⟨final, more, enters, same⟩ := finishes dispatching
    exact ⟨final, leads.trans more, enters, same.trans bus⟩
  | cons evtModule unchecked ih =>
    obtain ⟨between, further, leads, again, bus⟩ : ∃ next further,
        system.Leads Action.BySvc state next ∧
        next.svc = .collecting event unchecked further ∧ next.bus = state.bus := by
      by_cases wants : evtModule.Wants event.type
      · have stepped := Stepped.collect event evtModule unchecked modules collecting wants
        exact ⟨_, _, stepped.leads trivial, rfl, rfl⟩
      · have stepped := Stepped.pass event evtModule unchecked modules collecting wants
        exact ⟨_, _, stepped.leads trivial, rfl, rfl⟩
    obtain ⟨final, more, enters, same⟩ := ih again
    exact ⟨final, leads.trans more, enters, same.trans bus⟩

end

/-- The thread goes through the queue. -/
theorem drains {events : EventQueue κ} {state : EventDispatch κ} (enters : state.svc = .entering)
    (queued : state.bus.events = events) :
    ∃ final, system.Leads Action.BySvc state final ∧ final.svc = .waiting false := by
  induction events generalizing state with
  | nil => exact ⟨_, (Stepped.wait enters queued).leads trivial, rfl⟩
  | cons event events ih =>
    obtain ⟨taken, leads, collecting, bus⟩ : ∃ next, system.Leads Action.BySvc state next ∧
        next.svc = .collecting event state.bus.modules [] ∧ next.bus.events = events :=
      ⟨_, (Stepped.dequeue event events enters queued).leads trivial, rfl, rfl⟩
    obtain ⟨between, through, again, same⟩ := collects collecting
    obtain ⟨final, more, waits⟩ := ih again (same ▸ bus)
    exact ⟨final, (leads.trans through).trans more, waits⟩

/-- Wherever the thread is, it comes to wait for a post. -/
theorem settles (state : EventDispatch κ) :
    ∃ final, system.Leads Action.BySvc state final ∧ final.svc = .waiting false := by
  have fromLock : ∀ {between : EventDispatch κ}, system.Leads Action.BySvc state between →
      between.svc = .entering →
      ∃ final, system.Leads Action.BySvc state final ∧ final.svc = .waiting false := by
    intro between leads enters
    obtain ⟨final, more, waits⟩ := drains enters rfl
    exact ⟨final, leads.trans more, waits⟩
  cases at_ : state.svc with
  | entering => exact fromLock .refl at_
  | waiting signalled =>
    obtain ⟨woken, leads, enters⟩ : ∃ next, system.Leads Action.BySvc state next ∧
        next.svc = .entering :=
      ⟨_, (Stepped.wake signalled at_).leads trivial, rfl⟩
    exact fromLock leads enters
  | collecting event unchecked modules =>
    obtain ⟨done, leads, enters, -⟩ := collects at_
    exact fromLock leads enters
  | dispatching event rest =>
    obtain ⟨done, leads, enters, -⟩ := finishes at_
    exact fromLock leads enters
  | notified event module rest =>
    obtain ⟨between, leads, dispatching, -⟩ := informs at_
    obtain ⟨done, through, enters, -⟩ := finishes dispatching
    exact fromLock (leads.trans through) enters
  | informed event module rest =>
    obtain ⟨between, leads, dispatching, -⟩ := releases at_
    obtain ⟨done, through, enters, -⟩ := finishes dispatching
    exact fromLock (leads.trans through) enters

/-! ## Every run -/

/-- What the history asks for and what the threads did. -/
structure Dispatches (actions : List (Action κ)) (state : EventDispatch κ) : Prop where
  /-- The modules registered are those whose registration stands. -/
  modules : state.bus.modules = registrations [] actions
  /-- No two posts made the same event. -/
  distinct : ((posted actions).map Event.allocation).Nodup
  /-- Events leave the queue in the order of the posts, and none is lost. -/
  queue : (batches actions).map Prod.fst ++ state.bus.events = posted actions
  /-- The calls made, and then those the thread still has to make for its event, are those due. -/
  calls : state.calls ++ state.svc.toCall = (batches actions).flatMap callsDue
  /-- No batch names a module twice. -/
  once : ∀ batch ∈ batches actions, batch.2.Nodup
  /-- Every event dequeued is freed, in its turn, or is the one that the thread holds. -/
  freed : state.deleted ++ state.svc.event.toList = (batches actions).map Prod.fst
  /-- One reference is taken for each call due, before the lock is given up. -/
  taken : state.taken ++ state.svc.toTake = (batches actions).flatMap Prod.snd
  /-- The references given back are those taken that the thread does not hold. -/
  given : state.given ++ state.svc.held = state.taken
  /-- The thread waits unsignalled only where nothing is queued. -/
  idle : state.svc = .waiting false → state.bus.events = []

theorem Accounted.dispatches {past : List (Action κ)} {state : EventDispatch κ}
    (accounted : Accounted past state) : Dispatches past state := by
  have freed : (batches past).map Prod.fst = state.deleted ++ state.svc.event.toList := by
    rw [batches_eq accounted.events accounted.dequeues, List.map_map]
    exact List.map_fst_zip (Nat.le_of_eq accounted.dequeues.symm)
  exact
    { modules := accounted.modules
      distinct := allocation_posted past ▸ List.nodup_range
      queue := by rw [freed, accounted.events]
      calls := accounted.calls
      once := accounted.once
      freed := freed.symm
      taken := accounted.taken
      given := accounted.given
      idle := accounted.idle }

theorem dispatches_of_run {actions : List (Action κ)} {state : EventDispatch κ}
    (ran : system.run create actions = some state) : Dispatches actions state := by
  have keeps : ∀ past state action next, Accounted past state →
      system.step state action = some next →
        Accounted (past ++ [action]) (next : EventDispatch κ) :=
    fun past state action next accounted stepped => accounted.step (step_iff.mp stepped)
  exact (system.run_history accounted_create keeps ran).dispatches

/-- In every order of the threads the calls are those that the history asks for, and from there the
thread of the bus alone comes to where every event posted is dispatched and freed and every
reference given back. -/
theorem dispatched_exactly_once {actions : List (Action κ)} {state : EventDispatch κ}
    (ran : system.run create actions = some state) :
    Dispatches actions state ∧
      ∃ more final, (∀ action ∈ more, action.BySvc) ∧ system.run state more = some final ∧
        final.svc = .waiting false ∧
        Dispatches (actions ++ more) final ∧
        (batches (actions ++ more)).map Prod.fst = posted actions ∧
        final.calls = (batches (actions ++ more)).flatMap callsDue ∧
        final.deleted = posted actions ∧
        final.given = final.taken := by
  refine ⟨dispatches_of_run ran, ?_⟩
  obtain ⟨final, ⟨more, bySvc, ranMore⟩, waits⟩ := settles state
  have all : system.run create (actions ++ more) = some final := by
    rw [Transitions.run_append, ran, Option.bind_some, ranMore]
  have dispatches := dispatches_of_run all
  have events := dispatches.queue
  rw [dispatches.idle waits, List.append_nil, posted_append_bySvc actions bySvc] at events
  have calls := dispatches.calls
  rw [waits, Svc.toCall, List.append_nil] at calls
  have freed := dispatches.freed
  rw [waits, Svc.event, Option.toList_none, List.append_nil, events] at freed
  have given := dispatches.given
  rw [waits, Svc.held, List.append_nil] at given
  exact ⟨more, final, bySvc, ranMore, waits, dispatches, events, calls, freed, given⟩

/-- Module 2 goes while the event is dispatched and module 3 comes; module 1 registers twice. -/
def sampleActions : List (Action Nat) :=
  [.registerModule 1 3, .registerModule 2 1, .registerModule 1 1, .wait,
    .post 5 1 "AVSync.cc" 1 "stats" none false, .wake, .post 6 2 "AVSync.cc" 2 "qos" none false,
    .dequeue, .collect, .collect, .unlock, .deregisterModule 2, .registerModule 3 2, .onEvent,
    .onEventDispatched, .release, .onEvent]

theorem dispatched_exactly_once_sample :
    ∃ state, system.run create sampleActions = some state ∧
      Dispatches sampleActions state ∧
      state.calls.map Prod.snd = [1, 2] ∧ state.bus.modules.map EvtModule.module = [1, 3] := by
  let state := (system.run create sampleActions).get (by decide)
  have ran : system.run create sampleActions = some state := (Option.some_get _).symm
  exact ⟨state, ran, (dispatched_exactly_once ran).1, by decide, by decide⟩

end EventDispatch

end RtpPlayer
