import RtpPlayer.Player.RtpPlayer

/-! # What the player owns

An operation that builds or tears down one side of the player works on a `before` that it does not
touch: `Handling` says that the state is `before` and what the player at hand holds.  Wherever a
build fails, clearing that player leads back to `before`. -/

namespace RtpPlayer

open Foundations
open Procedure

namespace BasePlayer

/-- Everything is built. -/
def Complete (player : BasePlayer) : Prop :=
  player.stream = true ∧ player.decoder = true ∧ player.renderer.isSome ∧ player.avSync = true

theorem renderer_eq {player : BasePlayer} (held : player.renderer.isSome = true) :
    player.renderer = some (player.renderer.getD 0) := by
  rw [← Option.get_eq_getD _ (h := held), Option.some_get]

end BasePlayer

namespace PlayerState

/-- The source of every renderer that runs is alive. -/
def SourcesAlive (state : PlayerState) : Prop :=
  ∀ address renderer, state.renderers address = some renderer → renderer.running = true →
    renderer.source = true ∧ 0 < state.syncRefs

/-- What an operation on one kind of player starts from. -/
structure Side where
  kind : StreamKind
  /-- The state without the player at hand. -/
  before : PlayerState
  /-- The least address that its renderer may have. -/
  least : Nat
  /-- Whether its renderer may run. -/
  mayRun : Prop

/-- The state is `before`, and beside it what `player` holds. -/
structure Handling (side : Side) (player : BasePlayer) (state : PlayerState) : Prop where
  alive : side.before.SourcesAlive
  players : ∀ other, other ≠ side.kind → state.player other = side.before.player other
  avSync : state.avSync = side.before.avSync
  sync : state.sync = side.before.sync
  sound : state.overReleased = side.before.overReleased
  syncRefs : state.syncRefs = side.before.syncRefs + player.avSync.toNat
  streams : state.streams = side.before.streams + player.stream.toNat
  decoders : state.decoders = side.before.decoders + player.decoder.toNat
  others : ∀ address, player.renderer ≠ some address →
    state.renderers address = side.before.renderers address
  own : ∀ address, player.renderer = some address → side.before.renderers address = none ∧
    side.least ≤ address ∧ address < state.nextAddress ∧
    ∃ renderer, state.renderers address = some renderer ∧
      renderer.kind = side.kind ∧
        (renderer.running = true → side.mayRun ∧ renderer.source = true ∧ 0 < side.before.syncRefs)
  fresh : side.before.nextAddress ≤ state.nextAddress

namespace Handling

variable {side : Side} {state : PlayerState} {player : BasePlayer}

theorem sourcesAlive (handling : Handling side player state) : state.SourcesAlive := by
  intro address renderer present running
  have refs := handling.syncRefs
  by_cases mine : player.renderer = some address
  · obtain ⟨-, -, -, renderer', present', -, sourced⟩ := handling.own address mine
    rw [present, Option.some.injEq] at present'
    subst present'
    obtain ⟨-, source, positive⟩ := sourced running
    exact ⟨source, by omega⟩
  · rw [handling.others address mine] at present
    obtain ⟨source, positive⟩ := handling.alive address renderer present running
    exact ⟨source, by omega⟩

theorem begin (alive : side.before.SourcesAlive) : Handling side .create side.before where
  alive := alive
  players := fun _ _ => rfl
  avSync := rfl
  sync := rfl
  sound := rfl
  syncRefs := rfl
  streams := rfl
  decoders := rfl
  others := fun _ _ => rfl
  own := by
    intro address none
    cases none
  fresh := Nat.le_refl _

theorem setPlayer (handling : Handling side player state)
    (pointer : Option BasePlayer) :
    Handling side player (state.setPlayer side.kind pointer) := by
  refine { handling with players := ?_ }
  intro other different
  simp only [PlayerState.setPlayer, Function.update_of_ne different]
  exact handling.players other different

/-- A player that holds nothing leaves nothing behind but used addresses. -/
theorem setPlayer_none (handling : Handling side .create state)
    (absent : side.before.player side.kind = none) :
    state.setPlayer side.kind none = { side.before with nextAddress := state.nextAddress } := by
  have renderers : state.renderers = side.before.renderers := by
    funext address
    exact handling.others address (by simp [BasePlayer.create])
  have players : Function.update state.player side.kind none = side.before.player := by
    funext other
    by_cases same : other = side.kind
    · subst same
      simp [absent]
    · rw [Function.update_of_ne same, handling.players other same]
  obtain ⟨-, -, avSync, sync, sound, syncRefs, streams, decoders, -⟩ := handling
  cases state
  simp_all [PlayerState.setPlayer, BasePlayer.create]

/-! ### Releasing -/

theorem releaseStream (handling : Handling side player state) (held : player.stream = true) :
    Handling side { player with stream := false } state.releaseStream := by
  have streams : state.streams = side.before.streams + 1 := by simpa [held] using handling.streams
  exact { handling with streams := by simp [PlayerState.releaseStream, streams] }

theorem releaseDecoder (handling : Handling side player state)
    (held : player.decoder = true) :
    Handling side { player with decoder := false } state.releaseDecoder := by
  have decoders : state.decoders = side.before.decoders + 1 := by
    simpa [held] using handling.decoders
  exact { handling with decoders := by simp [PlayerState.releaseDecoder, decoders] }

theorem releaseSync (handling : Handling side player state) (held : player.avSync = true) :
    Handling side { player with avSync := false } state.releaseSync := by
  have refs : state.syncRefs = side.before.syncRefs + 1 := by simpa [held] using handling.syncRefs
  have released : state.releaseSync = { state with syncRefs := side.before.syncRefs } := by
    simp [PlayerState.releaseSync, refs]
  rw [released]
  exact { handling with syncRefs := rfl }

/-- A change of the own renderer that keeps what it has to keep. -/
theorem changeRenderer (handling : Handling side player state) {address : Nat}
    (mine : player.renderer = some address) {change : Renderer → Renderer}
    (keeps_kind : ∀ renderer, (change renderer).kind = renderer.kind)
    (sourced : ∀ renderer, state.renderers address = some renderer →
      (renderer.running = true →
        side.mayRun ∧ renderer.source = true ∧ 0 < side.before.syncRefs) →
      (change renderer).running = true →
        side.mayRun ∧ (change renderer).source = true ∧ 0 < side.before.syncRefs) :
    Handling side player (state.changeRenderer address change) := by
  obtain ⟨absent, least, used, renderer, present, ofKind, old⟩ := handling.own address mine
  refine { handling with others := ?_, own := ?_ }
  · intro other notMine
    have different : other ≠ address := by
      rintro rfl
      exact notMine mine
    simp only [PlayerState.changeRenderer, updateRenderer, Function.update_of_ne different]
    exact handling.others other notMine
  · intro other mine'
    rw [mine, Option.some.injEq] at mine'
    subst mine'
    refine ⟨absent, least, used, change renderer, ?_, ?_, sourced renderer present old⟩
    · simp [PlayerState.changeRenderer, updateRenderer, present]
    · rw [keeps_kind, ofKind]

theorem stopRenderer (handling : Handling side player state) {address : Nat}
    (mine : player.renderer = some address) :
    Handling side player (state.stopRenderer address) := by
  apply handling.changeRenderer mine
  · intro renderer
    rfl
  · intro renderer present old running
    cases running

theorem releaseRenderer (handling : Handling side player state) {address : Nat}
    (mine : player.renderer = some address) :
    Handling side { player with renderer := none } (state.releaseRenderer address) := by
  refine { handling with others := ?_, own := ?_ }
  · intro other _
    by_cases same : other = address
    · subst same
      simp [PlayerState.releaseRenderer, updateRenderer, (handling.own other mine).1]
    · simp only [PlayerState.releaseRenderer, updateRenderer, Function.update_of_ne same]
      apply handling.others
      rw [mine]
      simpa using Ne.symm same
  · intro other none
    cases none

/-! ### Building -/

theorem createRenderer (handling : Handling side player state)
    (absent : side.before.renderers state.nextAddress = none)
    (least : side.least ≤ state.nextAddress) (bare : player.renderer = none) :
    Handling side { player with renderer := some state.nextAddress }
      (state.createRenderer side.kind) := by
  refine { handling with others := ?_, own := ?_, fresh := ?_ }
  · intro other notMine
    have different : other ≠ state.nextAddress := by
      rintro rfl
      exact notMine rfl
    simp only [PlayerState.createRenderer, updateRenderer, Function.update_of_ne different]
    exact handling.others other (by simp [bare])
  · intro other mine
    cases mine
    refine ⟨absent, least, Nat.lt_succ_self _,
      { kind := side.kind, source := false, running := false }, ?_⟩
    simp [PlayerState.createRenderer, updateRenderer]
  · exact Nat.le_succ_of_le handling.fresh

theorem setSource (handling : Handling side player state) {address : Nat}
    (mine : player.renderer = some address) (source : Bool)
    (idle : ∀ renderer, state.renderers address = some renderer → renderer.running = false) :
    Handling side player (state.setSource address source) := by
  apply handling.changeRenderer mine
  · intro renderer
    rfl
  · intro renderer present old running
    rw [idle renderer present] at running
    cases running

theorem startRenderer (handling : Handling side player state) {address : Nat}
    (mine : player.renderer = some address) (spawned : Bool) (positive : 0 < side.before.syncRefs)
    (runs : spawned = true → side.mayRun)
    (sourced : ∀ renderer, state.renderers address = some renderer → renderer.source = true) :
    Handling side player (state.startRenderer address spawned) := by
  apply handling.changeRenderer mine
  · intro renderer
    rfl
  · intro renderer present old running
    exact ⟨runs running, sourced renderer present, positive⟩

theorem createDecoder (handling : Handling side player state)
    (bare : player.decoder = false) :
    Handling side { player with decoder := true } state.createDecoder := by
  have decoders : state.decoders = side.before.decoders := by simpa [bare] using handling.decoders
  exact { handling with decoders := by simp [PlayerState.createDecoder, decoders] }

theorem createStream (handling : Handling side player state)
    (bare : player.stream = false) :
    Handling side { player with stream := true } state.createStream := by
  have streams : state.streams = side.before.streams := by simpa [bare] using handling.streams
  exact { handling with streams := by simp [PlayerState.createStream, streams] }

theorem addRefSync (handling : Handling side player state) (bare : player.avSync = false) :
    Handling side { player with avSync := true } state.addRefSync := by
  have refs : state.syncRefs = side.before.syncRefs := by simpa [bare] using handling.syncRefs
  exact { handling with syncRefs := by simp [PlayerState.addRefSync, refs] }

end Handling

/-- Some player is at hand. -/
def Passes (side : Side) (state : PlayerState) : Prop :=
  ∃ player, Handling side player state

/-! ## Clearing and building -/

section Procedures

variable {side : Side} {player : BasePlayer}

open BasePlayer

theorem releaseIf_ensures {held : Bool} {release : PlayerState → PlayerState}
    {pre during : PlayerState → Prop} (post : PlayerState → Prop)
    (releases : held = true → ∀ state, pre state → post (release state))
    (passes : ∀ state, post state → during state)
    (skips : held = false → ∀ state, pre state → post state) :
    Ensures pre (releaseIf held release) during (fun _ => post) := by
  unfold releaseIf
  apply Ensures.ite
  · intro held
    exact .modify (fun state met => passes _ (releases held state met)) (releases held)
  · intro notHeld
    exact .pure (skips (by simpa using notHeld))

theorem releaseIf_final_player {held : Bool} {release : PlayerState → PlayerState}
    (keeps : ∀ state, (release state).player = state.player) (state : PlayerState) :
    ((releaseIf held release).final state).player = state.player := by
  unfold releaseIf
  split
  next => exact keeps state
  next => rfl

/-- The pointers to the players are not the players' own. -/
theorem clear_final_player (player : BasePlayer) (state : PlayerState) :
    (player.clear.final state).player = state.player := by
  have sync : ∀ state, (PlayerState.releaseSync state).player = state.player := by
    intro state
    unfold PlayerState.releaseSync
    split <;> rfl
  unfold clear
  simp only [final_bind, final_pure]
  refine (releaseIf_final_player sync _).trans ?_
  refine (releaseIf_final_player (by intro; rfl) _).trans ?_
  refine (releaseIf_final_player (by intro; rfl) _).trans ?_
  refine (releaseIf_final_player (by intro; rfl) _).trans ?_
  exact releaseIf_final_player (by intro; rfl) _

/-- Clearing gives back everything, once. -/
theorem clear_ensures (player : BasePlayer) :
    Ensures (Handling side player) player.clear (Passes side)
      (fun cleared state => cleared = .create ∧ Handling side .create state) := by
  have passes : ∀ player state, Handling side player state →
      Passes side state := fun player _ handling => ⟨player, handling⟩
  unfold clear
  -- one pointer after the other: released where it is set, and null after that
  refine .bind _ (releaseIf_ensures (Handling side { player with stream := false })
    ?_ (passes _) ?_) fun _ => ?_
  · intro held state handling
    exact handling.releaseStream held
  · intro bare state handling
    simpa only [← bare] using handling
  refine .bind _ (releaseIf_ensures
    (Handling side { player with stream := false, decoder := false })
    ?_ (passes _) ?_) fun _ => ?_
  · intro held state handling
    exact handling.releaseDecoder held
  · intro bare state handling
    simpa only [← bare] using handling
  refine .bind _ (releaseIf_ensures
    (Handling side { player with stream := false, decoder := false })
    ?_ (passes _) ?_) fun _ => ?_
  · intro held state handling
    exact handling.stopRenderer (renderer_eq held)
  · intro bare state handling
    exact handling
  refine .bind _ (releaseIf_ensures (Handling side
    { player with stream := false, decoder := false, renderer := none }) ?_ (passes _) ?_)
    fun _ => ?_
  · intro held state handling
    exact handling.releaseRenderer (renderer_eq held)
  · intro bare state handling
    have none : player.renderer = none := Option.not_isSome_iff_eq_none.mp (by simp [bare])
    simpa only [← none] using handling
  refine .bind _ (releaseIf_ensures (Handling side .create) ?_ (passes _) ?_) fun _ => ?_
  · intro held state handling
    exact handling.releaseSync held
  · intro bare state handling
    simpa only [BasePlayer.create, ← bare] using handling
  exact .pure (fun _ handling => ⟨rfl, handling⟩)

/-- A build returns a complete player or an empty one. -/
def Built (side : Side) (result : Bool × BasePlayer)
    (state : PlayerState) : Prop :=
  Handling side result.2 state ∧
    if result.1 then result.2.Complete ∧ side.before.avSync = true else result.2 = .create

theorem fail_ensures (player : BasePlayer) :
    Ensures (Handling side player) player.fail (Passes side) (Built side) := by
  unfold fail
  refine .bind _ (clear_ensures player) fun cleared => .assume fun empty => ?_
  refine .pure ?_
  intro state handling
  subst empty
  exact ⟨handling, rfl⟩

/-- A step of a build that goes from one player to the next. -/
theorem advance {change : PlayerState → PlayerState} {next : BasePlayer}
    (steps : ∀ state, Handling side player state → Handling side next (change state)) :
    Ensures (Handling side player) (modify change) (Passes side)
      (fun _ => Handling side next) :=
  .modify (fun state handling => ⟨next, steps state handling⟩) steps

theorem buildStream_ensures (stages : PlayStages) (synced : side.before.avSync = true)
    (stream : player.stream = false)
    (decoder : player.decoder = false) (avSync : player.avSync = false)
    (renderer : player.renderer.isSome = true) :
    Ensures (Handling side player) (player.buildStream stages) (Passes side)
      (Built side) := by
  unfold buildStream
  refine .ite (fun _ => fail_ensures player) fun _ => ?_
  refine .bind _ (advance fun state handling => handling.createDecoder decoder) fun _ => ?_
  refine .ite (fun _ => fail_ensures _) fun _ => ?_
  refine .ite (fun _ => fail_ensures _) fun _ => ?_
  refine .bind _ (advance fun state handling => handling.createStream stream) fun _ => ?_
  refine .ite (fun _ => fail_ensures _) fun _ => ?_
  refine .bind _ (advance fun state handling => handling.addRefSync avSync) fun _ => ?_
  refine .pure ?_
  intro state handling
  exact ⟨handling, ⟨rfl, rfl, renderer, rfl⟩, synced⟩

theorem build_ensures (supported : Bool) (stages : PlayStages)
    (least : side.least ≤ side.before.nextAddress)
    (owned : side.before.avSync = true → 0 < side.before.syncRefs)
    (runs : supported = true → stages.rendererCreated = true → side.before.avSync = true →
      stages.threadSpawned = true → side.mayRun)
    (unused : ∀ address, side.before.nextAddress ≤ address → side.before.renderers address = none) :
    Ensures (Handling side .create)
      (BasePlayer.create.build side.kind supported side.before.avSync stages) (Passes side)
      (Built side) := by
  unfold BasePlayer.build
  refine .ite (fun _ => ?_) fun supports => ?_
  · exact .pure (fun state handling => ⟨handling, rfl⟩)
  refine .ite (fun _ => fail_ensures _) fun created => ?_
  -- the state at the creation says which address the renderer gets
  refine .read fun seen handling => ?_
  refine .bind (fun _ state =>
    Handling side { BasePlayer.create with renderer := some seen.nextAddress } state ∧
      state.renderers seen.nextAddress =
        some { kind := side.kind, source := false, running := false }) (.modify ?_ ?_) fun _ => ?_
  · rintro state rfl
    exact ⟨_, handling.createRenderer (unused _ handling.fresh)
      (Nat.le_trans least handling.fresh) rfl⟩
  · rintro state rfl
    refine ⟨handling.createRenderer (unused _ handling.fresh)
      (Nat.le_trans least handling.fresh) rfl, ?_⟩
    simp [PlayerState.createRenderer, updateRenderer]
  refine .bind (fun _ state =>
    Handling side { BasePlayer.create with renderer := some seen.nextAddress } state ∧
      state.renderers seen.nextAddress =
        some { kind := side.kind, source := side.before.avSync, running := false })
    (.modify ?_ ?_) fun _ => ?_
  · rintro state ⟨handling, present⟩
    exact ⟨_, handling.setSource rfl side.before.avSync fun renderer same => by simp_all⟩
  · rintro state ⟨handling, present⟩
    refine ⟨handling.setSource rfl side.before.avSync fun renderer same => by simp_all, ?_⟩
    simp [PlayerState.setSource, PlayerState.changeRenderer, updateRenderer, present]
  refine .ite (fun _ => ?_) fun sourced => ?_
  · exact (fail_ensures _).mono (fun _ met => met.1) (fun _ met => met) (fun _ _ met => met)
  have synced : side.before.avSync = true := by simpa using sourced
  refine .bind _ (.modify (fun state met => ?_) fun state met => ?_) fun _ =>
    buildStream_ensures stages synced rfl rfl rfl rfl
  all_goals
    have positive : 0 < side.before.syncRefs := owned synced
    have may := runs (by simpa using supports) (by simpa using created) synced
    have started := met.1.startRenderer rfl stages.threadSpawned positive may
      (fun renderer same => by simp_all)
  · exact ⟨_, started⟩
  · exact started

end Procedures

end PlayerState

end RtpPlayer
