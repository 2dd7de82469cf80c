import Mathlib.Data.List.Nodup

/-! # The event bus

The modules that are registered and the events that are posted and not yet dispatched, with the
operations that run under the lock of the bus.  A module is known by its address, an event by the
number of its allocation. -/

namespace RtpPlayer

variable {κ : Type}

structure Event (κ : Type) where
  allocation : Nat
  sender : κ
  location : String
  sendTime : Int
  doneTime : Int
  type : UInt32
  data : Option Nat
  name : String
  needResponse : Bool
  deriving DecidableEq

structure EvtModule (κ : Type) where
  module : κ
  evtMask : UInt32
  deriving DecidableEq

/-- The module is notified of events of the type. -/
def EvtModule.Wants (evtModule : EvtModule κ) (type : UInt32) : Prop :=
  evtModule.evtMask &&& type ≠ 0

instance (evtModule : EvtModule κ) (type : UInt32) : Decidable (evtModule.Wants type) :=
  inferInstanceAs (Decidable (evtModule.evtMask &&& type ≠ 0))

/-! ## The queue -/

abbrev EventQueue (κ : Type) := List (Event κ)

namespace EventQueue

/-- The first event and what stays queued, `none` where nothing is queued. -/
def get : EventQueue κ → Option (Event κ × EventQueue κ)
  | [] => none
  | event :: events => some (event, events)

theorem get_eq_none {events : EventQueue κ} : events.get = none ↔ events = [] := by
  cases events <;> simp [get]

theorem get_eq_some {events rest : EventQueue κ} {event : Event κ} :
    events.get = some (event, rest) ↔ events = event :: rest := by
  cases events <;> simp [get]

def post (events : EventQueue κ) (event : Event κ) : EventQueue κ := events ++ [event]

end EventQueue

/-! ## The bus -/

structure EventBus (κ : Type) where
  modules : List (EvtModule κ)
  events : EventQueue κ
  deriving DecidableEq

namespace EventBus

def create : EventBus κ where
  modules := []
  events := []

def Registered (bus : EventBus κ) (module : κ) : Prop :=
  ∃ evtModule ∈ bus.modules, evtModule.module = module

theorem registered_congr {bus other : EventBus κ} (same : bus.modules = other.modules)
    (module : κ) : bus.Registered module ↔ other.Registered module := by
  rw [Registered, same, Registered]

instance [DecidableEq κ] (bus : EventBus κ) (module : κ) : Decidable (bus.Registered module) :=
  inferInstanceAs (Decidable (∃ evtModule ∈ bus.modules, evtModule.module = module))

def registerModule [DecidableEq κ] (bus : EventBus κ) (module : κ) (evtMask : UInt32) :
    EventBus κ :=
  if bus.Registered module then bus
  else { bus with modules := bus.modules ++ [⟨module, evtMask⟩] }

def deregisterModule [DecidableEq κ] (bus : EventBus κ) (module : κ) : EventBus κ :=
  { bus with modules := bus.modules.eraseP fun evtModule => evtModule.module = module }

def post (bus : EventBus κ) (allocation : Nat) (now : Int) (sender : κ) (location : String)
    (type : UInt32) (name : String) (data : Option Nat) (needResponse : Bool) : EventBus κ :=
  { bus with
    events := bus.events.post
      { allocation, sender, location, sendTime := now, doneTime := 0, type, data, name,
        needResponse } }

/-- The modules that `Svc` notifies of the event, in the order in which it finds them. -/
def recipients (modules : List (EvtModule κ)) (event : Event κ) : List κ :=
  (modules.filter fun evtModule => evtModule.Wants event.type).map EvtModule.module

@[simp] theorem recipients_nil (event : Event κ) : recipients [] event = [] := rfl

theorem recipients_cons_of_wants {evtModule : EvtModule κ} {event : Event κ}
    (wants : evtModule.Wants event.type) (modules : List (EvtModule κ)) :
    recipients (evtModule :: modules) event = evtModule.module :: recipients modules event := by
  simp [recipients, wants]

theorem recipients_cons_of_not_wants {evtModule : EvtModule κ} {event : Event κ}
    (indifferent : ¬ evtModule.Wants event.type) (modules : List (EvtModule κ)) :
    recipients (evtModule :: modules) event = recipients modules event := by
  simp [recipients, indifferent]

/-! ## No module is registered twice -/

def Distinct (bus : EventBus κ) : Prop := (bus.modules.map EvtModule.module).Nodup

theorem distinct_create : (create : EventBus κ).Distinct := List.nodup_nil

section

variable [DecidableEq κ] {bus : EventBus κ}

theorem registered_registerModule (module other : κ) (evtMask : UInt32) :
    (bus.registerModule module evtMask).Registered other ↔
      module = other ∨ bus.Registered other := by
  unfold registerModule
  by_cases registered : bus.Registered module
  · rw [if_pos registered]
    constructor
    · exact Or.inr
    · rintro (rfl | present)
      · exact registered
      · exact present
  · rw [if_neg registered]
    simp [Registered, or_comm]

theorem Distinct.registerModule (distinct : bus.Distinct) (module : κ) (evtMask : UInt32) :
    (bus.registerModule module evtMask).Distinct := by
  unfold EventBus.registerModule
  by_cases registered : bus.Registered module
  · rwa [if_pos registered]
  · rw [if_neg registered]
    have absent : module ∉ bus.modules.map EvtModule.module := by
      rintro present
      exact registered (List.mem_map.mp present)
    simp only [Distinct, List.map_append, List.map_cons, List.map_nil]
    exact List.nodup_append.mpr ⟨distinct, List.nodup_singleton _, by simpa using absent⟩

/-- Where no module is registered twice, the entry erased is the only one of its module. -/
theorem Distinct.modules_deregisterModule (distinct : bus.Distinct) (module : κ) :
    (bus.deregisterModule module).modules =
      bus.modules.filter fun evtModule => evtModule.module ≠ module := by
  unfold Distinct at distinct
  simp only [EventBus.deregisterModule]
  generalize bus.modules = modules at distinct
  induction modules with
  | nil => rfl
  | cons first modules ih =>
    rw [List.map_cons, List.nodup_cons] at distinct
    by_cases same : first.module = module
    · have others : ∀ evtModule ∈ modules, evtModule.module ≠ module := by
        rintro evtModule mem rfl
        exact distinct.1 (same ▸ List.mem_map_of_mem mem)
      simpa [same] using (List.filter_eq_self.mpr (by simpa using others)).symm
    · simp [same, ih distinct.2]

theorem Distinct.registered_deregisterModule (distinct : bus.Distinct) (module other : κ) :
    (bus.deregisterModule module).Registered other ↔ bus.Registered other ∧ module ≠ other := by
  unfold Registered
  rw [distinct.modules_deregisterModule module]
  simp only [List.mem_filter, decide_eq_true_eq]
  constructor
  · rintro ⟨evtModule, ⟨mem, ne⟩, rfl⟩
    exact ⟨⟨evtModule, mem, rfl⟩, ne.symm⟩
  · rintro ⟨⟨evtModule, mem, rfl⟩, ne⟩
    exact ⟨evtModule, ⟨mem, ne.symm⟩, rfl⟩

theorem Distinct.deregisterModule (distinct : bus.Distinct) (module : κ) :
    (bus.deregisterModule module).Distinct := by
  have kept := distinct.modules_deregisterModule module
  unfold Distinct at distinct ⊢
  rw [kept]
  exact (List.filter_sublist.map _).nodup distinct

end

/-- A module whose mask meets the type is notified once. -/
theorem Distinct.nodup_recipients {bus : EventBus κ} (distinct : bus.Distinct) (event : Event κ) :
    (recipients bus.modules event).Nodup :=
  (List.filter_sublist.map _).nodup distinct

end EventBus

end RtpPlayer
