import RtpPlayer.Events.ModuleLifetime

/-! # Resurrected modules

Between the last release of a module and the deregistration at the end of its destructor the module
is still registered.  A snapshot that reaches it there takes a reference of it, calls it, and
destroys it again with the release.  Nothing else revives a module. -/

namespace RtpPlayer

open Foundations

namespace ModuleLifetime

variable {κ : Type} [DecidableEq κ]

/-- No module got a reference or was called after its count had been 0, and `delete this` was run on
none twice. -/
structure NotResurrected (state : ModuleLifetime κ) : Prop where
  revived : state.revived = []
  calledLate : state.calledLate = []
  deleted : state.deleted.Nodup

/-- The snapshot does not take a module whose destructor an owner runs. -/
def Undisturbed (state : ModuleLifetime κ) : Action κ → Prop
  | .collect => ∀ module ∈ state.wanted, module ∉ state.destroying
  | _ => True

/-! ## The steps of the bus -/

section

variable {state : ModuleLifetime κ} {dispatch : EventDispatch κ} {module : κ}

omit [DecidableEq κ] in
theorem wanted_eq_some (wants : state.wanted = some module) :
    ∃ event evtModule unchecked modules,
      state.dispatch.svc = .collecting event (evtModule :: unchecked) modules ∧
        evtModule.Wants event.type ∧ evtModule.module = module := by
  unfold wanted at wants
  split at wants
  case h_1 event evtModule unchecked modules collecting =>
    rw [Option.ite_none_right_eq_some, Option.some.injEq] at wants
    exact ⟨event, evtModule, unchecked, modules, collecting, wants⟩
  case h_2 => exact absurd wants (Option.some_ne_none _).symm

omit [DecidableEq κ] in
/-- What the loop takes is registered. -/
theorem registered_of_wanted (consistent : state.dispatch.Consistent)
    (wants : state.wanted = some module) : state.dispatch.bus.Registered module := by
  obtain ⟨event, evtModule, unchecked, modules, collecting, -, rfl⟩ := wanted_eq_some wants
  have mem : evtModule ∈ state.dispatch.svc.unchecked := by
    simp [collecting, Svc.unchecked]
  exact ⟨evtModule, consistent.unchecked mem, rfl⟩

/-- The loop takes the reference that the round asks for. -/
theorem held_collect (wants : state.wanted = some module)
    (collects : EventDispatch.Stepped state.dispatch .collect dispatch) :
    dispatch.svc.held = state.dispatch.svc.held ++ [module] ∧
      dispatch.bus = state.dispatch.bus := by
  obtain ⟨event, evtModule, unchecked, modules, collecting, wanted, rfl⟩ := wanted_eq_some wants
  cases collects with
  | collect _ _ _ _ at_ _ =>
    cases collecting.symm.trans at_
    exact ⟨by rw [collecting]; rfl, rfl⟩
  | pass _ _ _ _ at_ indifferent =>
    cases collecting.symm.trans at_
    exact absurd wanted indifferent

theorem held_pass (indifferent : state.wanted = none)
    (collects : EventDispatch.Stepped state.dispatch .collect dispatch) :
    dispatch.svc.held = state.dispatch.svc.held ∧ dispatch.bus = state.dispatch.bus := by
  cases collects with
  | collect event evtModule unchecked modules collecting wants =>
    simp [wanted, collecting, wants] at indifferent
  | pass event evtModule unchecked modules collecting _ => exact ⟨by rw [collecting]; rfl, rfl⟩

theorem held_silent {action : Action κ} {inner : EventDispatch.Action κ}
    (same : action.silent = some inner)
    (moves : EventDispatch.Stepped state.dispatch inner dispatch) :
    dispatch.svc.held = state.dispatch.svc.held ∧
      dispatch.bus.modules = state.dispatch.bus.modules := by
  constructor
  · cases moves with
    | post => exact Svc.held_signal _
    | wait at_ => rw [at_]; rfl
    | wake signalled at_ => rw [at_]; rfl
    | dequeue event events at_ => rw [at_]; rfl
    | unlock event modules at_ => rw [at_]; rfl
    | onEventDispatched event module rest at_ => rw [at_]; rfl
    | deleteEvent event at_ => rw [at_]; rfl
    | _ => cases action <;> simp [Action.silent] at same
  · apply moves.modules
    · rintro module evtMask rfl
      cases action <;> simp [Action.silent] at same
    · rintro module rfl
      cases action <;> simp [Action.silent] at same

end

/-! ## What every step keeps -/

structure Sound (state : ModuleLifetime κ) : Prop where
  consistent : state.dispatch.Consistent
  references : state.refCount.Balanced (state.owned ++ state.dispatch.svc.held)
  held : ∀ module ∈ state.owned ++ state.dispatch.svc.held, module ∈ state.constructed
  registered : ∀ module, state.dispatch.bus.Registered module → module ∈ state.constructed
  deleted : state.deleted ⊆ state.constructed
  destroying : state.destroying ⊆ state.deleted

theorem sound_create : (create : ModuleLifetime κ).Sound where
  consistent := EventDispatch.consistent_create
  references := References.Balanced.nil
  held := by simp [create, EventDispatch.create, Svc.held]
  registered := by
    simp [create, EventDispatch.create, EventBus.create, EventBus.Registered]
  deleted := List.nil_subset _
  destroying := List.nil_subset _

/-- A module whose count has been 0 keeps it there, and is registered only while its destructor
runs. -/
structure Buried (state : ModuleLifetime κ) : Prop where
  dead : ∀ module ∈ state.deleted, state.refCount module = 0
  window : ∀ module ∈ state.deleted, state.dispatch.bus.Registered module →
    module ∈ state.destroying ∨ state.svcDestroying = some module

omit [DecidableEq κ] in
theorem buried_create : (create : ModuleLifetime κ).Buried where
  dead := by simp [create]
  window := by simp [create]

namespace Sound

variable {state : ModuleLifetime κ} {dispatch : EventDispatch κ} {module : κ}

/-- A step of the bus that moves neither the modules nor the references. -/
theorem ofDispatch (sound : state.Sound) (consistent : dispatch.Consistent)
    (held : dispatch.svc.held = state.dispatch.svc.held)
    (modules : dispatch.bus.modules = state.dispatch.bus.modules) :
    Sound { state with dispatch } where
  consistent := consistent
  references := held ▸ sound.references
  held := held ▸ sound.held
  registered := by
    intro module registered
    exact sound.registered module ((EventBus.registered_congr modules module).mp registered)
  deleted := sound.deleted
  destroying := sound.destroying

/-- An owner gives its reference back. -/
theorem release (sound : state.Sound) (holds : module ∈ state.owned) :
    Sound { state with
      refCount := state.refCount.release module
      owned := state.owned.erase module } where
  consistent := sound.consistent
  references := by
    apply References.Balanced.release
    exact sound.references.perm ((List.perm_cons_erase holds).append_right _)
  held := by
    intro other mem
    apply sound.held other
    rw [List.mem_append] at mem ⊢
    exact mem.imp_left List.mem_of_mem_erase
  registered := sound.registered
  deleted := sound.deleted
  destroying := sound.destroying

/-- The thread of the bus gives its reference back. -/
theorem svcRelease (sound : state.Sound) {event : Event κ} {rest : List κ}
    (holds : state.dispatch.svc = .informed event module rest)
    (releases : EventDispatch.Stepped state.dispatch .release dispatch) :
    Sound { state with dispatch, refCount := state.refCount.release module } := by
  have consistent := releases.consistent sound.consistent
  have references := sound.references
  have held := sound.held
  rw [holds] at references held
  cases releases with
  | release _ _ _ at_ =>
    cases holds.symm.trans at_
    exact
      { consistent
        references := (references.perm List.perm_middle).release
        held := fun other mem => held other (by
          simp only [List.mem_append, Svc.held, List.mem_cons] at mem ⊢
          tauto)
        registered := sound.registered
        deleted := sound.deleted
        destroying := sound.destroying }

/-- `delete this` is run on a module that was there. -/
theorem delete (sound : state.Sound) (there : module ∈ state.constructed) :
    Sound { state with deleted := state.deleted ++ [module] } where
  consistent := sound.consistent
  references := sound.references
  held := sound.held
  registered := sound.registered
  deleted := List.append_subset.mpr ⟨sound.deleted, by simpa using there⟩
  destroying := List.Subset.trans sound.destroying (List.subset_append_left _ _)

/-- An owner takes another reference. -/
theorem addRef (sound : state.Sound) (there : module ∈ state.constructed) :
    Sound { state with
      refCount := state.refCount.addRef module
      owned := module :: state.owned } where
  consistent := sound.consistent
  references := sound.references.addRef module
  held := by
    intro other mem
    rw [List.cons_append, List.mem_cons] at mem
    rcases mem with rfl | before
    · exact there
    · exact sound.held other before
  registered := sound.registered
  deleted := sound.deleted
  destroying := sound.destroying

/-- The bus forgets a module. -/
theorem deregister (sound : state.Sound)
    (deregisters : EventDispatch.Stepped state.dispatch (.deregisterModule module) dispatch) :
    Sound { state with dispatch } := by
  have consistent := deregisters.consistent sound.consistent
  cases deregisters with
  | deregisterModule =>
    exact
      { consistent
        references := sound.references
        held := sound.held
        registered := by
          intro other registered
          rw [sound.consistent.distinct.registered_deregisterModule] at registered
          exact sound.registered other registered.1
        deleted := sound.deleted
        destroying := sound.destroying }

theorem step {next : ModuleLifetime κ} {action : Action κ} (sound : state.Sound)
    (stepped : Stepped state action next) : next.Sound := by
  cases stepped with
  | construct module evtMask dispatch fresh registers =>
    have consistent := registers.consistent sound.consistent
    cases registers with
    | registerModule =>
      exact
        { consistent
          references := sound.references.addRef module
          held := by
            intro other mem
            rw [List.cons_append, List.mem_cons] at mem
            exact List.mem_cons.mpr (mem.imp_right (sound.held other))
          registered := by
            intro other registered
            rw [EventBus.registered_registerModule] at registered
            rcases registered with rfl | before
            · exact List.mem_cons_self ..
            · exact List.mem_cons_of_mem _ (sound.registered other before)
          deleted := List.Subset.trans sound.deleted (List.subset_cons_self _ _)
          destroying := sound.destroying }
  | addRef module holds => exact sound.addRef (sound.held module (List.mem_append_left _ holds))
  | releaseLast module holds last =>
    have there := sound.held module (List.mem_append_left _ holds)
    have deleted := (sound.release holds).delete there
    -- from here on the destructor runs in the thread that released
    exact { deleted with
      destroying := List.cons_subset.mpr ⟨by simp, deleted.destroying⟩ }
  | release module holds left => exact sound.release holds
  | deregisterModule module dispatch runs deregisters =>
    have forgotten := sound.deregister deregisters
    exact { forgotten with
      destroying := List.Subset.trans List.erase_subset sound.destroying }
  | svcDeregisterModule module dispatch runs deregisters =>
    exact { sound.deregister deregisters with }
  | silent action inner dispatch same moves =>
    obtain ⟨held, modules⟩ := held_silent same moves
    exact sound.ofDispatch (moves.consistent sound.consistent) held modules
  | pass dispatch indifferent collects =>
    obtain ⟨held, bus⟩ := held_pass indifferent collects
    exact sound.ofDispatch (collects.consistent sound.consistent) held (by rw [bus])
  | collect module dispatch alone wants collects =>
    obtain ⟨held, bus⟩ := held_collect wants collects
    have there := sound.registered module (registered_of_wanted sound.consistent wants)
    -- the reference `svc` takes is the last of those it holds
    have order : (module :: (state.owned ++ state.dispatch.svc.held)).Perm
        (state.owned ++ dispatch.svc.held) := by
      rw [held, ← List.append_assoc]
      exact (List.perm_append_singleton _ _).symm
    exact
      { consistent := collects.consistent sound.consistent
        references := (sound.references.addRef module).perm order
        held := by
          intro other mem
          rw [← order.mem_iff, List.mem_cons] at mem
          rcases mem with rfl | before
          · exact there
          · exact sound.held other before
        registered := bus ▸ sound.registered
        deleted := sound.deleted
        destroying := sound.destroying }
  | onEvent event module rest dispatch dispatching calls =>
    have consistent := calls.consistent sound.consistent
    cases calls with
    | onEvent _ _ _ at_ =>
      exact { sound.ofDispatch consistent (by rw [at_]; rfl) rfl with }
  | svcReleaseLast event module rest dispatch alone holds releases last =>
    have there := sound.held module (List.mem_append_right _ (by simp [holds, Svc.held]))
    exact { (sound.svcRelease holds releases).delete there with }
  | svcRelease event module rest dispatch holds releases left =>
    exact sound.svcRelease holds releases

end Sound

/-! ## Where nothing is revived -/

section

variable {state next : ModuleLifetime κ} {action : Action κ} {module : κ}

/-- A module that somebody holds was not destroyed. -/
theorem Buried.alive (buried : state.Buried) (sound : state.Sound)
    (held : module ∈ state.owned ++ state.dispatch.svc.held) : module ∉ state.deleted := by
  intro deleted
  have positive := sound.references.positive held
  rw [buried.dead module deleted] at positive
  exact Nat.lt_irrefl 0 positive

/-- The snapshot takes a live module exactly where no owner destroys it. -/
theorem Buried.taken_iff (buried : state.Buried) (sound : state.Sound)
    (alone : state.svcDestroying = none) (wants : state.wanted = some module) :
    module ∉ state.deleted ↔ module ∉ state.destroying := by
  constructor
  · intro alive runs
    exact alive (sound.destroying runs)
  · intro idle deleted
    have registered := registered_of_wanted sound.consistent wants
    rcases buried.window module deleted registered with runs | runs
    · exact idle runs
    · rw [alone] at runs
      exact absurd runs (Option.some_ne_none _).symm

/-- What went wrong stays. -/
theorem NotResurrected.before (property : next.NotResurrected)
    (stepped : Stepped state action next) : state.NotResurrected := by
  obtain ⟨revived, calledLate, deleted⟩ := property
  cases stepped with
  | collect module dispatch alone wants collects =>
    refine ⟨?_, calledLate, deleted⟩
    split at revived
    · simp at revived
    · exact revived
  | onEvent event module rest dispatch dispatching calls =>
    refine ⟨revived, ?_, deleted⟩
    split at calledLate
    · simp at calledLate
    · exact calledLate
  | releaseLast module holds last =>
    exact ⟨revived, calledLate, deleted.sublist (List.sublist_append_left _ _)⟩
  | svcReleaseLast event module rest dispatch alone holds releases last =>
    exact ⟨revived, calledLate, deleted.sublist (List.sublist_append_left _ _)⟩
  | _ => exact ⟨revived, calledLate, deleted⟩

theorem NotResurrected.step_iff (property : state.NotResurrected) (sound : state.Sound)
    (buried : state.Buried) (stepped : Stepped state action next) :
    next.NotResurrected ↔ state.Undisturbed action := by
  obtain ⟨revived, calledLate, deleted⟩ := property
  cases stepped with
  | construct => exact iff_of_true ⟨revived, calledLate, deleted⟩ trivial
  | addRef => exact iff_of_true ⟨revived, calledLate, deleted⟩ trivial
  | release => exact iff_of_true ⟨revived, calledLate, deleted⟩ trivial
  | deregisterModule => exact iff_of_true ⟨revived, calledLate, deleted⟩ trivial
  | svcDeregisterModule => exact iff_of_true ⟨revived, calledLate, deleted⟩ trivial
  | svcRelease => exact iff_of_true ⟨revived, calledLate, deleted⟩ trivial
  | silent _ inner dispatch same moves =>
    apply iff_of_true ⟨revived, calledLate, deleted⟩
    cases action with
    | collect => simp [Action.silent] at same
    | _ => trivial
  | pass dispatch indifferent collects =>
    apply iff_of_true ⟨revived, calledLate, deleted⟩
    simp [Undisturbed, indifferent]
  | collect module dispatch alone wants collects =>
    -- only a module that is taken from the bus after its deletion comes back
    have taken : state.Undisturbed .collect ↔ module ∉ state.deleted := by
      rw [buried.taken_iff sound alone wants]
      simp [Undisturbed, wants]
    rw [taken]
    constructor
    · rintro ⟨kept, -, -⟩ dead
      rw [if_pos dead] at kept
      simp at kept
    · intro alive
      exact ⟨by rw [if_neg alive, revived], calledLate, deleted⟩
  | onEvent event module rest dispatch dispatching calls =>
    have alive := buried.alive sound (List.mem_append_right _
      (show module ∈ state.dispatch.svc.held by simp [dispatching, Svc.held]))
    exact iff_of_true ⟨revived, by rw [if_neg alive, calledLate], deleted⟩ trivial
  | releaseLast module holds last =>
    have alive := buried.alive sound (List.mem_append_left _ holds)
    -- deleted once more would be deleted while it is referred to
    have once := (List.perm_append_singleton _ _).nodup_iff.mpr
      (List.nodup_cons.mpr ⟨alive, deleted⟩)
    exact iff_of_true ⟨revived, calledLate, once⟩ trivial
  | svcReleaseLast event module rest dispatch alone holds releases last =>
    have alive := buried.alive sound (List.mem_append_right _
      (show module ∈ state.dispatch.svc.held by simp [holds, Svc.held]))
    have once := (List.perm_append_singleton _ _).nodup_iff.mpr
      (List.nodup_cons.mpr ⟨alive, deleted⟩)
    exact iff_of_true ⟨revived, calledLate, once⟩ trivial

namespace Buried

omit [DecidableEq κ] in
/-- A step of the bus that moves no module. -/
theorem ofDispatch (buried : state.Buried) {dispatch : EventDispatch κ}
    (modules : dispatch.bus.modules = state.dispatch.bus.modules) :
    Buried { state with dispatch } where
  dead := buried.dead
  window := by
    intro other deleted registered
    exact buried.window other deleted ((EventBus.registered_congr modules other).mp registered)

/-- Another reference to a module that was not destroyed. -/
theorem addRef (buried : state.Buried) (alive : module ∉ state.deleted) :
    Buried { state with refCount := state.refCount.addRef module } where
  dead := by
    intro other deleted
    have ne : other ≠ module := fun same => alive (same ▸ deleted)
    exact (References.addRef_of_ne _ ne).trans (buried.dead other deleted)
  window := buried.window

/-- A reference of a module that was not destroyed is given back. -/
theorem release (buried : state.Buried) (alive : module ∉ state.deleted) :
    Buried { state with refCount := state.refCount.release module } where
  dead := by
    intro other deleted
    have ne : other ≠ module := fun same => alive (same ▸ deleted)
    exact (References.release_of_ne _ ne).trans (buried.dead other deleted)
  window := buried.window

omit [DecidableEq κ] in
/-- `delete this` is run on a module whose count is 0. -/
theorem delete (buried : state.Buried) (last : state.refCount module = 0)
    (runs : module ∈ state.destroying ∨ state.svcDestroying = some module) :
    Buried { state with deleted := state.deleted ++ [module] } where
  dead := by
    intro other deleted
    rw [List.mem_append, List.mem_singleton] at deleted
    rcases deleted with before | rfl
    · exact buried.dead other before
    · exact last
  window := by
    intro other deleted registered
    rw [List.mem_append, List.mem_singleton] at deleted
    rcases deleted with before | rfl
    · exact buried.window other before registered
    · exact runs

theorem step (buried : state.Buried) (sound : state.Sound)
    (stepped : Stepped state action next) (undisturbed : state.Undisturbed action) :
    next.Buried := by
  cases stepped with
  | construct module evtMask dispatch fresh registers =>
    -- an object is made once, so it is none of the deleted ones
    have alive : module ∉ state.deleted := fun deleted => fresh (sound.deleted deleted)
    cases registers with
    | registerModule =>
      refine ⟨(buried.addRef alive).dead, ?_⟩
      intro other deleted registered
      rw [EventBus.registered_registerModule] at registered
      rcases registered with rfl | before
      · exact absurd deleted alive
      · exact buried.window other deleted before
  | addRef module holds =>
    have alive := buried.alive sound (List.mem_append_left _ holds)
    exact { buried.addRef alive with }
  | releaseLast module holds last =>
    have alive := buried.alive sound (List.mem_append_left _ holds)
    have released := buried.release alive
    -- the destructor has yet to deregister the module, in the thread of its owner
    have runs : Buried
        { state with
          refCount := state.refCount.release module
          owned := state.owned.erase module
          destroying := module :: state.destroying } :=
      { dead := released.dead
        window := by
          intro other deleted registered
          exact (released.window other deleted registered).imp_left (List.mem_cons_of_mem _) }
    exact runs.delete last (Or.inl (List.mem_cons_self ..))
  | release module holds left =>
    have alive := buried.alive sound (List.mem_append_left _ holds)
    exact { buried.release alive with }
  | deregisterModule module dispatch runs deregisters =>
    cases deregisters with
    | deregisterModule =>
      refine ⟨buried.dead, ?_⟩
      intro other deleted registered
      rw [sound.consistent.distinct.registered_deregisterModule] at registered
      obtain ⟨before, ne⟩ := registered
      apply (buried.window other deleted before).imp_left
      exact (List.mem_erase_of_ne ne.symm).mpr
  | svcDeregisterModule module dispatch runs deregisters =>
    cases deregisters with
    | deregisterModule =>
      refine ⟨buried.dead, ?_⟩
      intro other deleted registered
      rw [sound.consistent.distinct.registered_deregisterModule] at registered
      obtain ⟨before, ne⟩ := registered
      rcases buried.window other deleted before with owner | own
      · exact Or.inl owner
      · rw [runs, Option.some.injEq] at own
        exact absurd own ne
  | silent _ inner dispatch same moves => exact buried.ofDispatch (held_silent same moves).2
  | pass dispatch indifferent collects =>
    exact buried.ofDispatch (by rw [(held_pass indifferent collects).2])
  | collect module dispatch alone wants collects =>
    have alive : module ∉ state.deleted := by
      -- the one step that could revive a module, and it is undisturbed
      rw [buried.taken_iff sound alone wants]
      exact undisturbed module wants
    have moved := buried.ofDispatch (show dispatch.bus.modules = _ by
      rw [(held_collect wants collects).2])
    exact { moved.addRef alive with }
  | onEvent event module rest dispatch dispatching calls =>
    have moved := buried.ofDispatch (calls.modules (by simp) (by simp))
    exact { moved with }
  | svcReleaseLast event module rest dispatch alone holds releases last =>
    have alive := buried.alive sound (List.mem_append_right _
      (show module ∈ state.dispatch.svc.held by simp [holds, Svc.held]))
    have released := (buried.ofDispatch (releases.modules (by simp) (by simp))).release alive
    have runs : Buried
        { state with
          dispatch
          refCount := state.refCount.release module
          svcDestroying := some module } :=
      { dead := released.dead
        window := by
          intro other deleted registered
          rcases released.window other deleted registered with owner | own
          · exact Or.inl owner
          · rw [alone] at own
            exact absurd own (Option.some_ne_none _).symm }
    exact runs.delete last (Or.inr rfl)
  | svcRelease event module rest dispatch holds releases left =>
    have alive := buried.alive sound (List.mem_append_right _
      (show module ∈ state.dispatch.svc.held by simp [holds, Svc.held]))
    exact (buried.ofDispatch (releases.modules (by simp) (by simp))).release alive

end Buried

end

/-! ## Every run -/

/-- In every run nothing is revived, called late or destroyed twice exactly where no snapshot takes
a module between its last release and its deregistration. -/
theorem notResurrected_iff (actions : List (Action κ)) :
    system.Always NotResurrected create actions ↔ system.Guarded Undisturbed create actions := by
  have keeps : ∀ state action next,
      (Sound state ∧ (state.NotResurrected → state.Buried)) →
        system.step state action = some next →
      Sound next ∧ (next.NotResurrected → (next : ModuleLifetime κ).Buried) := by
    rintro state action next ⟨sound, buries⟩ stepped
    have stepped := stepped_of_step stepped
    refine ⟨sound.step stepped, ?_⟩
    intro property
    have before := property.before stepped
    have buried := buries before
    exact buried.step sound stepped ((before.step_iff sound buried stepped).mp property)
  apply system.always_iff_guarded keeps
  · rintro state action next ⟨sound, buries⟩ property stepped
    exact property.step_iff sound (buries property) (stepped_of_step stepped)
  · exact ⟨sound_create, fun _ => buried_create⟩
  · exact ⟨rfl, rfl, List.nodup_nil⟩

/-- A snapshot takes module 1 after its last release. -/
def resurrectingActions : List (Action Nat) :=
  [.construct 1 0xffff, .post 5 1 "AVModule.h" 1 "stats" none false, .release 1, .dequeue, .collect,
    .unlock, .deregisterModule 1, .onEvent, .onEventDispatched, .svcRelease]

/-- The module gets a reference after its count was 0, is called, and is destroyed again. -/
theorem module_resurrected :
    ¬ system.Always NotResurrected create resurrectingActions ∧
      ∃ state, system.run create resurrectingActions = some state ∧ state.revived = [1] ∧
        state.calledLate = [1] ∧ state.deleted = [1, 1] := by
  let state := (system.run create resurrectingActions).get (by decide)
  have ran : system.run create resurrectingActions = some state := (Option.some_get _).symm
  have revived : state.revived = [1] := by decide
  refine ⟨?_, state, ran, revived, by decide, by decide⟩
  intro always
  have property := always resurrectingActions List.prefix_rfl state ran
  exact absurd (revived.symm.trans property.revived) (by decide)

end ModuleLifetime

end RtpPlayer
