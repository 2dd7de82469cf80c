import RtpPlayer.Player.PlayerOwnership

/-! # The player between two operations

Between two operations a player is complete or not there at all, every renderer belongs to one, and
the references to the synchroniser are those of the pointers.  Each operation leads from such a
state to another, whatever fails on the way. -/

namespace RtpPlayer

open Foundations
open Procedure

namespace PlayerState

/-- The references of the player of one kind: 1 where it is there. -/
def holds (state : PlayerState) (kind : StreamKind) : Nat := (state.player kind).isSome.toNat

structure Settled (state : PlayerState) : Prop where
  complete : ∀ kind player, state.player kind = some player → player.Complete
  owns : ∀ kind player address, state.player kind = some player →
    player.renderer = some address → ∃ renderer, state.renderers address = some renderer ∧
      renderer.kind = kind ∧ (renderer.running = true → renderer.source = true)
  owned : ∀ address renderer, state.renderers address = some renderer →
    ∃ player, state.player renderer.kind = some player ∧ player.renderer = some address
  unused : ∀ address, state.nextAddress ≤ address → state.renderers address = none
  sound : state.overReleased = false
  syncRefs : state.syncRefs = state.avSync.toNat + state.holds .video + state.holds .audio
  streams : state.streams = state.holds .video + state.holds .audio
  decoders : state.decoders = state.holds .video + state.holds .audio
  needs : ∀ kind player, state.player kind = some player → state.avSync = true

theorem settled_built (created : Bool) : (built created).Settled where
  complete := by
    intro kind player present
    cases present
  owns := by
    intro kind player address present
    cases present
  owned := by
    intro address renderer present
    cases present
  unused := fun _ _ => rfl
  sound := rfl
  syncRefs := by cases created <;> rfl
  streams := rfl
  decoders := rfl
  needs := by
    intro kind player present
    cases present

/-- The state without the player of one kind and what it holds. -/
def without (state : PlayerState) (kind : StreamKind) (player : BasePlayer) : PlayerState :=
  { state with
    player := Function.update state.player kind none
    syncRefs := state.syncRefs - 1
    streams := state.streams - 1
    decoders := state.decoders - 1
    renderers := Function.update state.renderers (player.renderer.getD 0) none }

/-- A renderer of this kind runs. -/
def Running (state : PlayerState) (kind : StreamKind) : Prop :=
  ∃ address renderer, state.renderers address = some renderer ∧ renderer.kind = kind ∧
    renderer.running = true

/-- Removing the player of one kind works on the state without it. -/
def Side.remove (state : PlayerState) (kind : StreamKind) (player : BasePlayer) : Side where
  kind := kind
  before := state.without kind player
  least := 0
  mayRun := state.Running kind

namespace Settled

variable {state : PlayerState} {kind : StreamKind} {side : Side} {player : BasePlayer}

theorem positive (settled : state.Settled) (synced : state.avSync = true) :
    0 < state.syncRefs := by
  rw [settled.syncRefs, synced]
  simp only [Bool.toNat_true]
  omega

theorem sourcesAlive (settled : state.Settled) : state.SourcesAlive := by
  intro address renderer present running
  obtain ⟨player, owner, mine⟩ := settled.owned address renderer present
  obtain ⟨renderer', present', -, sourced⟩ := settled.owns _ player address owner mine
  rw [present, Option.some.injEq] at present'
  subst present'
  exact ⟨sourced running, settled.positive (settled.needs _ player owner)⟩

/-- Later addresses are as unused as before. -/
theorem later (settled : state.Settled) {address : Nat} (le : state.nextAddress ≤ address) :
    Settled { state with nextAddress := address } :=
  { settled with unused := fun other above => settled.unused other (Nat.le_trans le above) }

section Attach

theorem attached_self (side : Side) (player : BasePlayer) (state : PlayerState) :
    (state.setPlayer side.kind (some player)).player side.kind = some player := by
  simp [setPlayer]

theorem attached_of_ne (handling : Handling side player state) :
    ∀ other, other ≠ side.kind →
      (state.setPlayer side.kind (some player)).player other = side.before.player other := by
  intro other different
  simp only [setPlayer, Function.update_of_ne different]
  exact handling.players other different

theorem attached_counts (absent : side.before.player side.kind = none)
    (handling : Handling side player state) :
    (state.setPlayer side.kind (some player)).holds .video +
      (state.setPlayer side.kind (some player)).holds .audio =
        side.before.holds .video + side.before.holds .audio + 1 := by
  have own := attached_self side player state
  have others := attached_of_ne handling
  cases kind : side.kind with
  | video =>
    rw [kind] at absent own others
    simp [holds, own, absent, others]
    omega
  | audio =>
    rw [kind] at absent own others
    simp [holds, own, absent, others]

/-- Every player has its renderer, the new one as well. -/
theorem attached_owns (settled : side.before.Settled) (handling : Handling side player state)
    {other : StreamKind} {player' : BasePlayer} {address : Nat}
    (present : (state.setPlayer side.kind (some player)).player other = some player')
    (mine : player'.renderer = some address) :
    ∃ renderer, state.renderers address = some renderer ∧ renderer.kind = other ∧
      (renderer.running = true → renderer.source = true) := by
  by_cases same : other = side.kind
  · subst same
    rw [attached_self, Option.some.injEq] at present
    subst present
    obtain ⟨-, -, -, renderer, alive, ofKind, sourced⟩ := handling.own address mine
    exact ⟨renderer, alive, ofKind, fun running => (sourced running).2.1⟩
  · rw [attached_of_ne handling other same] at present
    obtain ⟨renderer, alive, facts⟩ := settled.owns other player' address present mine
    have notOwn : player.renderer ≠ some address := by
      intro own
      rw [(handling.own address own).1] at alive
      cases alive
    exact ⟨renderer, (handling.others address notOwn).trans alive, facts⟩

/-- Every renderer has its player. -/
theorem attached_owned (settled : side.before.Settled)
    (absent : side.before.player side.kind = none) (handling : Handling side player state)
    {address : Nat} {renderer : Renderer} (alive : state.renderers address = some renderer) :
    ∃ owner, (state.setPlayer side.kind (some player)).player renderer.kind = some owner ∧
      owner.renderer = some address := by
  by_cases mine : player.renderer = some address
  · obtain ⟨-, -, -, renderer', alive', ofKind, -⟩ := handling.own address mine
    have same : renderer = renderer' := Option.some.inj (alive.symm.trans alive')
    subst same
    exact ⟨player, by rw [ofKind, attached_self], mine⟩
  · rw [handling.others address mine] at alive
    obtain ⟨owner, present, owns⟩ := settled.owned address renderer alive
    have different : renderer.kind ≠ side.kind := by
      intro same
      rw [same, absent] at present
      cases present
    exact ⟨owner, (attached_of_ne handling _ different).trans present, owns⟩

/-- A complete player takes its place. -/
theorem attach (settled : side.before.Settled) (absent : side.before.player side.kind = none)
    (synced : side.before.avSync = true) (complete : player.Complete)
    (handling : Handling side player state) :
    (state.setPlayer side.kind (some player)).Settled := by
  have counts := attached_counts absent handling
  constructor
  case complete =>
    intro other player' present
    by_cases same : other = side.kind
    · subst same
      rw [attached_self, Option.some.injEq] at present
      exact present ▸ complete
    · rw [attached_of_ne handling other same] at present
      exact settled.complete other player' present
  -- the renderer of the new player is at an address nobody had before
  case owns => exact fun _ _ _ present mine => attached_owns settled handling present mine
  case owned => exact fun _ _ alive => attached_owned settled absent handling alive
  case unused =>
    intro address above
    have above : state.nextAddress ≤ address := above
    have notMine : player.renderer ≠ some address := by
      intro mine
      have used := (handling.own address mine).2.2.1
      omega
    change state.renderers address = none
    rw [handling.others address notMine]
    exact settled.unused address (Nat.le_trans handling.fresh above)
  case sound =>
    change state.overReleased = false
    rw [handling.sound, settled.sound]
  case syncRefs =>
    change state.syncRefs = state.avSync.toNat + _ + _
    rw [handling.syncRefs, handling.avSync, settled.syncRefs, complete.2.2.2]
    simp only [Bool.toNat_true]
    omega
  case streams =>
    change state.streams = _
    rw [handling.streams, settled.streams, counts, complete.1]
    rfl
  case decoders =>
    change state.decoders = _
    rw [handling.decoders, settled.decoders, counts, complete.2.1]
    rfl
  case needs =>
    intro other player' _
    change state.avSync = true
    rw [handling.avSync, synced]

end Attach

section Detach

variable {address : Nat}

theorem without_player_of_ne {other : StreamKind} (different : other ≠ kind) :
    (state.without kind player).player other = state.player other := by
  simp only [without, Function.update_of_ne different]

theorem without_player_self : (state.without kind player).player kind = none := by
  simp [without]

/-- The other player has another renderer. -/
theorem renderer_ne (settled : state.Settled) {other : StreamKind} {player' : BasePlayer}
    {address' : Nat} (different : other ≠ kind) (present : state.player kind = some player)
    (mine : player.renderer = some address) (present' : state.player other = some player')
    (mine' : player'.renderer = some address') : address' ≠ address := by
  rintro rfl
  obtain ⟨renderer, alive, ofKind, -⟩ := settled.owns kind player address' present mine
  obtain ⟨renderer', alive', ofKind', -⟩ := settled.owns other player' address' present' mine'
  rw [alive, Option.some.injEq] at alive'
  subst alive'
  exact different (ofKind'.symm.trans ofKind)

theorem without_counts (present : state.player kind = some player) :
    state.holds .video + state.holds .audio =
      (state.without kind player).holds .video + (state.without kind player).holds .audio + 1 := by
  cases kind with
  | video =>
    simp [holds, present, without]
    omega
  | audio => simp [holds, present, without]

theorem detached (settled : state.Settled) (present : state.player kind = some player) :
    (state.without kind player).Settled := by
  obtain ⟨address, mine⟩ := Option.isSome_iff_exists.mp (settled.complete kind player present).2.2.1
  have counts := without_counts present
  -- the player that is still there is the other one, and it is as it was
  have other_of_present : ∀ {other player'},
      (state.without kind player).player other = some player' →
        other ≠ kind ∧ state.player other = some player' := by
    intro other player' present'
    have different : other ≠ kind := by
      rintro rfl
      rw [without_player_self] at present'
      cases present'
    exact ⟨different, by rw [← without_player_of_ne different]; exact present'⟩
  constructor
  case complete =>
    intro other player' present'
    obtain ⟨-, present'⟩ := other_of_present present'
    exact settled.complete other player' present'
  case owns =>
    intro other player' address' present' mine'
    obtain ⟨different, present'⟩ := other_of_present present'
    obtain ⟨renderer, alive, facts⟩ := settled.owns other player' address' present' mine'
    refine ⟨renderer, ?_, facts⟩
    have apart := settled.renderer_ne different present mine present' mine'
    simp only [without, mine, Option.getD_some, Function.update_of_ne apart, alive]
  case owned =>
    intro address' renderer alive
    -- a renderer that is still alive is not the one that was released
    have apart : address' ≠ address := by
      rintro rfl
      simp [without, mine] at alive
    simp only [without, mine, Option.getD_some, Function.update_of_ne apart] at alive
    obtain ⟨owner, present', owns⟩ := settled.owned address' renderer alive
    refine ⟨owner, ?_, owns⟩
    rw [without_player_of_ne]
    · exact present'
    · intro same
      rw [same, present, Option.some.injEq] at present'
      rw [← present', mine, Option.some.injEq] at owns
      exact apart owns.symm
  case unused =>
    intro address' above
    simp only [without, Function.update_apply]
    split
    · rfl
    · exact settled.unused address' above
  case sound => exact settled.sound
  case syncRefs =>
    change state.syncRefs - 1 = state.avSync.toNat + _ + _
    rw [settled.syncRefs]
    omega
  case streams =>
    change state.streams - 1 = _
    rw [settled.streams]
    omega
  case decoders =>
    change state.decoders - 1 = _
    rw [settled.decoders]
    omega
  case needs =>
    intro other player' present'
    exact settled.needs other player' (other_of_present present').2

/-- Taking the pointer away leaves the player at hand. -/
theorem detach (settled : state.Settled) (present : state.player kind = some player) :
    Handling (.remove state kind player) player (state.setPlayer kind none) := by
  have synced := settled.needs kind player present
  obtain ⟨stream, decoder, -, avSync⟩ := settled.complete kind player present
  have counts := without_counts present
  have detached := settled.detached present
  constructor
  case alive => exact detached.sourcesAlive
  case players =>
    intro other different
    simp only [setPlayer, Side.remove, without]
  case avSync => rfl
  case sync => rfl
  case sound => rfl
  case syncRefs =>
    change state.syncRefs = state.syncRefs - 1 + _
    rw [avSync]
    -- so nothing is subtracted from zero
    have positive := settled.positive synced
    simp only [Bool.toNat_true]
    omega
  case streams =>
    change state.streams = state.streams - 1 + _
    rw [stream, settled.streams]
    simp only [Bool.toNat_true]
    omega
  case decoders =>
    change state.decoders = state.decoders - 1 + _
    rw [decoder, settled.decoders]
    simp only [Bool.toNat_true]
    omega
  case others =>
    intro address notMine
    obtain ⟨address', mine⟩ :=
      Option.isSome_iff_exists.mp (settled.complete kind player present).2.2.1
    have apart : address ≠ address' := by
      rintro rfl
      exact notMine mine
    simp only [setPlayer, Side.remove, without, mine, Option.getD_some, Function.update_of_ne apart]
  case own =>
    intro address mine
    obtain ⟨renderer, alive, ofKind, sourced⟩ := settled.owns kind player address present mine
    refine ⟨?_, Nat.zero_le _, ?_, renderer, alive, ofKind, ?_⟩
    · simp [Side.remove, without, mine]
    · by_contra above
      rw [settled.unused address (Nat.le_of_not_lt above)] at alive
      cases alive
    · intro running
      exact ⟨⟨address, renderer, alive, ofKind, running⟩, sourced running, detached.positive synced⟩
  case fresh => exact Nat.le_refl _

end Detach

end Settled

/-! ## The operations -/

section Operations

variable {start : PlayerState} {kind : StreamKind} {side : Side}

/-- What an operation leaves that may have built a player of one kind. -/
structure Played (side : Side) (ok : Bool) (state : PlayerState) : Prop where
  settled : state.Settled
  passes : Passes side state
  success : ok = true → side.before.avSync = true ∧ side.before.player side.kind = none ∧
    ∃ player, state.player side.kind = some player
  failure : ok = false → state = { side.before with nextAddress := state.nextAddress }

theorem Settled.played_refused (settled : side.before.Settled) : Played side false side.before where
  settled := settled
  passes := ⟨_, .begin settled.sourcesAlive⟩
  success := by
    intro success
    cases success
  failure := fun _ => rfl

theorem Settled.played_failed (settled : side.before.Settled)
    (absent : side.before.player side.kind = none) {state : PlayerState}
    (handling : Handling side .create state) :
    Played side false (state.setPlayer side.kind none) where
  settled := by
    rw [handling.setPlayer_none absent]
    exact settled.later handling.fresh
  passes := ⟨_, handling.setPlayer none⟩
  success := by
    intro success
    cases success
  failure := fun _ => handling.setPlayer_none absent

theorem Settled.played_built (settled : side.before.Settled)
    (absent : side.before.player side.kind = none) {state : PlayerState} {player : BasePlayer}
    (handling : Handling side player state) (complete : player.Complete)
    (synced : side.before.avSync = true) :
    Played side true (state.setPlayer side.kind (some player)) where
  settled := settled.attach absent synced complete handling
  passes := ⟨_, handling.setPlayer _⟩
  success := fun _ => ⟨synced, absent, player, by simp [setPlayer]⟩
  failure := by
    intro failure
    cases failure

/-- The operation starts a renderer. -/
def Starts (start : PlayerState) (kind : StreamKind) (supported : Bool) (stages : PlayStages) :
    Prop :=
  start.player kind = none ∧ stages.playerAllocated = true ∧ supported = true ∧
    stages.rendererCreated = true ∧ start.avSync = true ∧ stages.threadSpawned = true

/-- Playing works on the state it finds; its renderer is a new one. -/
def Side.play (start : PlayerState) (kind : StreamKind) (supported : Bool) (stages : PlayStages) :
    Side where
  kind := kind
  before := start
  least := start.nextAddress
  mayRun := start.Starts kind supported stages

theorem play_ensures (settled : start.Settled) (kind : StreamKind) (supported : Bool)
    (stages : PlayStages) :
    Ensures (fun state => state = start)
      (play kind stages fun sync => BasePlayer.create.build kind supported sync stages)
      (Passes (.play start kind supported stages))
      (Played (.play start kind supported stages)) := by
  unfold play
  refine .read fun state same => ?_
  subst same
  let side := Side.play state kind supported stages
  have settled : side.before.Settled := settled
  refine .ite (fun _ => ?_) fun bare => ?_
  · refine .pure ?_
    rintro state rfl
    exact settled.played_refused
  refine .ite (fun _ => ?_) fun allocated => ?_
  · refine .pure ?_
    rintro state rfl
    exact settled.played_refused
  have absent : state.player kind = none := by simpa using bare
  -- the pointer is set before the player is built
  have begun : Handling side .create (state.setPlayer kind (some .create)) :=
    (Handling.begin settled.sourcesAlive).setPlayer _
  refine .bind (fun _ => Handling side .create) (.modify ?_ ?_) fun _ => ?_
  · rintro next rfl
    exact ⟨_, begun⟩
  · rintro next rfl
    exact begun
  refine .bind _ (build_ensures supported stages (Nat.le_refl _) settled.positive ?_ settled.unused)
    fun result => ?_
  · intro supports created synced spawned
    exact ⟨absent, by simpa using allocated, supports, created, synced, spawned⟩
  refine .ite (fun ok => ?_) fun failed => ?_
  · refine .bind (fun _ => Played side true) (.modify ?_ ?_) fun _ => .pure fun _ met => met
    all_goals
      intro next built
      obtain ⟨handling, complete, synced⟩ : Handling side result.2 next ∧
        result.2.Complete ∧ side.before.avSync = true := by simpa [Built, ok] using built
    · exact ⟨_, handling.setPlayer _⟩
    · exact settled.played_built absent handling complete synced
  · -- a player that failed to build is cleared
    refine .bind _ ((clear_ensures result.2).mono (fun _ met => met.1) (fun _ met => met)
      (fun _ _ met => met)) fun _ => .assume fun _ => ?_
    refine .bind (fun _ => Played side false) (.modify ?_ ?_) fun _ => .pure fun _ met => met
    · intro next handling
      exact ⟨_, handling.setPlayer none⟩
    · intro next handling
      exact settled.played_failed absent handling

/-- The state without what the player of one kind holds, if it is there. -/
def dropped (state : PlayerState) (kind : StreamKind) : PlayerState :=
  match state.player kind with
  | none => state
  | some player => state.without kind player

/-- What an operation leaves that has removed the player of one kind. -/
structure Removed (start : PlayerState) (kind : StreamKind) (state : PlayerState) : Prop where
  settled : state.Settled
  fresh : start.nextAddress ≤ state.nextAddress
  same : state = { start.dropped kind with nextAddress := state.nextAddress }

/-- What an operation passes that removes the player of one kind. -/
def PassesRemoving (start : PlayerState) (kind : StreamKind) (moment : PlayerState) : Prop :=
  match start.player kind with
  | none => moment = start
  | some player => Passes (.remove start kind player) moment

theorem remove_ensures (settled : start.Settled) (kind : StreamKind) :
    Ensures (fun state => state = start) (remove kind) (PassesRemoving start kind)
      (fun _ => Removed start kind) := by
  unfold remove
  refine .read fun state same => ?_
  subst same
  have leaves : ∀ next, next.Settled → state.nextAddress ≤ next.nextAddress →
      next = { state.dropped kind with nextAddress := next.nextAddress } →
        state.Removed kind next := fun _ settled fresh same => ⟨settled, fresh, same⟩
  unfold dropped at leaves
  unfold PassesRemoving
  cases present : state.player kind with
  | none =>
    simp only [present] at leaves
    -- without a player only a null pointer is written over another
    have unchanged : state.setPlayer kind none = state := by
      unfold setPlayer
      rw [Function.update_eq_self_iff.mpr present.symm]
    refine .bind (fun _ next => next = state) (.modify ?_ ?_) fun _ => .pure ?_
    · rintro next rfl
      exact unchanged
    · rintro next rfl
      exact unchanged
    · rintro next rfl
      exact leaves _ settled (Nat.le_refl _) rfl
  | some player =>
    simp only [present] at leaves
    have detached := settled.detach present
    refine .bind (fun _ next => Handling (.remove state kind player) player next ∧
      next.player kind = none) (.modify ?_ ?_) fun _ => ?_
    · rintro next rfl
      exact ⟨_, detached⟩
    · rintro next rfl
      exact ⟨detached, by simp [setPlayer]⟩
    refine .bind (fun cleared next => cleared = .create ∧
      Handling (.remove state kind player) .create next ∧ next.player kind = none)
      (((clear_ensures player).frame ?_).mono (fun _ met => met) (fun _ met => met)
        (fun _ _ met => ⟨met.1.1, met.1.2, met.2⟩)) fun cleared => .assume fun empty => ?_
    · intro next bare
      rw [clear_final_player, bare]
    subst empty
    refine .bind _ ((clear_ensures .create).frame ?_) fun cleared => .pure ?_
    · intro next bare
      rw [clear_final_player, bare]
    rintro next ⟨⟨-, handling⟩, bare⟩
    -- the destructor of the player clears it once more, which changes nothing
    have pointed : next.setPlayer kind none = next := by
      unfold setPlayer
      rw [Function.update_eq_self_iff.mpr bare.symm]
    have final := handling.setPlayer_none Settled.without_player_self
    change next.setPlayer kind none = _ at final
    rw [pointed] at final
    refine leaves next ?_ handling.fresh final
    rw [final]
    exact (settled.detached present).later handling.fresh

theorem Passes.sourcesAlive {state : PlayerState} (passes : Passes side state) :
    state.SourcesAlive := by
  obtain ⟨player, handling⟩ := passes
  exact handling.sourcesAlive

theorem PassesRemoving.sourcesAlive {moment : PlayerState} (settled : start.Settled)
    (passes : PassesRemoving start kind moment) : moment.SourcesAlive := by
  unfold PassesRemoving at passes
  split at passes
  · exact passes ▸ settled.sourcesAlive
  · exact Passes.sourcesAlive passes

theorem Settled.setClock (settled : start.Settled) (clock : Option AVClock) :
    (start.setClock clock).Settled :=
  { settled with }

theorem playVideo_ensures (settled : start.Settled) (media : RtpMediaType) (stages : PlayStages) :
    Ensures (fun state => state = start) (playVideo media stages)
      (Passes (.play start .video (VideoPlayer.supports media) stages))
      (Played (.play start .video (VideoPlayer.supports media) stages)) :=
  play_ensures settled .video (VideoPlayer.supports media) stages

/-- `play_audio` ends with the clock of the renderer it has built. -/
def PlayedAudio (side : Side) (ok : Bool) (state : PlayerState) : Prop :=
  ∃ played, Played side ok played ∧
    state = if ok then
      played.setClock (((played.player .audio).bind BasePlayer.renderer).map AVClock.audioOut)
    else played

theorem playAudio_ensures (settled : start.Settled) (media : RtpMediaType) (stages : PlayStages) :
    Ensures (fun state => state = start) (playAudio media stages)
      (fun moment =>
        Passes (.play start .audio (AudioPlayer.supports media) stages) moment ∨
          PlayedAudio (.play start .audio (AudioPlayer.supports media) stages) true moment)
      (PlayedAudio (.play start .audio (AudioPlayer.supports media) stages)) := by
  unfold playAudio
  refine .bind _ ((play_ensures settled .audio (AudioPlayer.supports media) stages).mono
    (fun _ met => met) (fun _ met => .inl met) (fun _ _ met => met)) fun played => ?_
  refine .ite (fun ok => ?_) fun failed => ?_
  · subst ok
    refine .read fun state played => ?_
    refine .bind
      (fun _ => PlayedAudio (.play start .audio (AudioPlayer.supports media) stages) true)
      (.modify ?_ ?_) fun _ => .pure fun _ met => met
    · rintro next rfl
      exact .inr ⟨next, played, rfl⟩
    · rintro next rfl
      exact ⟨next, played, rfl⟩
  · have failed : played = false := by simpa using failed
    subst failed
    refine .pure ?_
    intro state played
    exact ⟨state, played, rfl⟩

theorem PlayedAudio.settled {ok : Bool} {state : PlayerState} (played : PlayedAudio side ok state) :
    state.Settled := by
  obtain ⟨before, played, same⟩ := played
  subst same
  split
  · exact played.settled.setClock _
  · exact played.settled

/-! ### `tear` -/

theorem dropped_player_self (start : PlayerState) (kind : StreamKind) :
    (start.dropped kind).player kind = none := by
  unfold dropped
  cases present : start.player kind with
  | none => exact present
  | some player => exact Settled.without_player_self

theorem dropped_player_of_none {other : StreamKind} (absent : start.player other = none) :
    (start.dropped kind).player other = none := by
  unfold dropped
  cases start.player kind with
  | none => exact absent
  | some player =>
    by_cases same : other = kind
    · subst same
      exact Settled.without_player_self
    · rw [Settled.without_player_of_ne same, absent]

theorem dropped_avSync (start : PlayerState) (kind : StreamKind) :
    (start.dropped kind).avSync = start.avSync := by
  unfold dropped
  cases start.player kind <;> rfl

/-- Nothing is left of the player. -/
structure Torn (state : PlayerState) : Prop where
  settled : state.Settled
  avSync : state.avSync = false
  syncRefs : state.syncRefs = 0
  players : ∀ kind, state.player kind = none

/-- What `tear` passes: first the video goes, then the audio, and then no renderer is left. -/
def PassesTearing (start moment : PlayerState) : Prop :=
  PassesRemoving start .video moment ∨
    (∃ videoless, Removed start .video videoless ∧ PassesRemoving videoless .audio moment) ∨
    ∀ address, moment.renderers address = none

theorem PassesTearing.sourcesAlive {moment : PlayerState} (settled : start.Settled)
    (passes : PassesTearing start moment) : moment.SourcesAlive := by
  rcases passes with video | ⟨videoless, removed, audio⟩ | empty
  · exact video.sourcesAlive settled
  · exact audio.sourcesAlive removed.settled
  · intro address renderer alive
    rw [empty] at alive
    cases alive

/-- The last reference is that of `m_av_sync`. -/
theorem Settled.torn (settled : start.Settled) (players : ∀ kind, start.player kind = none) :
    Torn { start with avSync := false, syncRefs := 0 } where
  settled := by
    refine { settled with syncRefs := ?_, needs := ?_ }
    · simp [holds, players]
    · intro kind player present
      rw [players] at present
      cases present
  avSync := rfl
  syncRefs := rfl
  players := players

theorem tear_ensures (settled : start.Settled) :
    Ensures (fun state => state = start) tear (PassesTearing start) (fun _ => Torn) := by
  unfold tear removeVideo removeAudio
  refine .bind _ ((remove_ensures settled .video).mono (fun _ met => met)
    (fun _ passes => .inl passes) (fun _ _ met => met)) fun _ => ?_
  refine .of_each fun videoless removed => ?_
  have removed' := removed
  obtain ⟨settled', -, same⟩ := removed
  have video : videoless.player .video = none := by
    rw [same]
    exact dropped_player_self start .video
  refine .bind _ ((remove_ensures settled' .audio).mono (fun _ met => met)
    (fun _ passes => .inr (.inl ⟨videoless, removed', passes⟩)) (fun _ _ met => met)) fun _ => ?_
  refine .read fun empty removed => ?_
  obtain ⟨settled, -, same⟩ := removed
  have players : ∀ kind, empty.player kind = none := by
    intro kind
    rw [same]
    cases kind with
    | video => exact dropped_player_of_none video
    | audio => exact dropped_player_self videoless .audio
  -- a renderer has an owner, and there is none left
  have renderers : ∀ address, empty.renderers address = none := by
    intro address
    cases alive : empty.renderers address with
    | none => rfl
    | some renderer =>
      obtain ⟨player, present, -⟩ := settled.owned address renderer alive
      rw [players] at present
      cases present
  -- so that what is left of the references is that of `m_av_sync`
  have refs : empty.syncRefs = empty.avSync.toNat := by
    simpa [holds, players] using settled.syncRefs
  have torn := settled.torn players
  refine .bind (fun _ state => state = { empty with avSync := false }) (.modify ?_ ?_) fun _ => ?_
  · rintro state rfl
    exact .inr (.inr renderers)
  · rintro state rfl
    rfl
  refine (releaseIf_ensures (fun state => Torn state ∧ ∀ address, state.renderers address = none)
    ?_ (fun _ met => .inr (.inr met.2)) ?_).mono (fun _ met => met) (fun _ met => met)
    (fun _ _ met => met.1)
  · rintro held state rfl
    have last : releaseSync { empty with avSync := false } =
        { empty with avSync := false, syncRefs := 0 } := by
      simp [releaseSync, refs, held]
    rw [last]
    exact ⟨torn, renderers⟩
  · rintro bare state rfl
    have none : empty.syncRefs = 0 := by simpa [bare] using refs
    exact ⟨by simpa only [← none] using torn, renderers⟩

/-! ### Runs -/

theorem perform_ensures (settled : start.Settled) (operation : Operation) :
    Ensures (fun state => state = start) (perform operation) SourcesAlive
      (fun _ => Settled) := by
  cases operation with
  | playVideo media stages =>
    exact (playVideo_ensures settled media stages).mono (fun _ met => met)
      (fun _ passes => passes.sourcesAlive) (fun _ _ played => played.settled)
  | playAudio media stages =>
    refine (playAudio_ensures settled media stages).mono (fun _ met => met) ?_
      (fun _ _ played => played.settled)
    rintro moment (passes | played)
    · exact passes.sourcesAlive
    · exact played.settled.sourcesAlive
  | removeVideo =>
    refine .bind (fun _ => Settled) ((remove_ensures settled .video).mono (fun _ met => met)
      (fun _ passes => passes.sourcesAlive settled) (fun _ _ removed => removed.settled))
      fun _ => .pure fun _ met => met
  | removeAudio =>
    refine .bind (fun _ => Settled) ((remove_ensures settled .audio).mono (fun _ met => met)
      (fun _ passes => passes.sourcesAlive settled) (fun _ _ removed => removed.settled))
      fun _ => .pure fun _ met => met
  | tear =>
    refine .bind (fun _ => Settled) ((tear_ensures settled).mono (fun _ met => met)
      (fun _ passes => passes.sourcesAlive settled) (fun _ _ torn => torn.settled))
      fun _ => .pure fun _ met => met

theorem step_settled (settled : start.Settled) (operation : Operation) :
    (machine.step start operation).1.Settled :=
  (perform_ensures settled operation start rfl).2

theorem step_sourcesAlive (settled : start.Settled) (operation : Operation) :
    ∀ moment ∈ (machine.step start operation).2.2, moment.SourcesAlive := by
  obtain ⟨passes, leaves⟩ := perform_ensures settled operation start rfl
  exact forall_moments passes leaves.sourcesAlive

theorem run_settled (created : Bool) (operations : List Operation) :
    (machine.run (built created) operations).Settled := by
  have keeps : ∀ state operation, Settled state → (machine.step state operation).1.Settled :=
    fun _ operation settled => step_settled settled operation
  exact machine.run_invariant keeps (settled_built created) operations

end Operations

/-- The players and the renderers are those of `start`, and the references too. -/
def Restores (start state : PlayerState) : Prop :=
  state.player = start.player ∧ state.renderers = start.renderers ∧
    state.syncRefs = start.syncRefs ∧ state.avSync = start.avSync

theorem restores_later (start : PlayerState) (address : Nat) :
    start.Restores { start with nextAddress := address } := ⟨rfl, rfl, rfl, rfl⟩

theorem Settled.playVideo_failed {start : PlayerState} (settled : start.Settled)
    (media : RtpMediaType) (stages : PlayStages)
    (failed : (playVideo media stages).value start = false) :
    start.Restores ((playVideo media stages).final start) := by
  have played := (playVideo_ensures settled media stages start rfl).2
  rw [played.failure failed]
  exact restores_later start _

theorem Settled.playAudio_failed {start : PlayerState} (settled : start.Settled)
    (media : RtpMediaType) (stages : PlayStages)
    (failed : (playAudio media stages).value start = false) :
    start.Restores ((playAudio media stages).final start) := by
  obtain ⟨before, played, same⟩ := (playAudio_ensures settled media stages start rfl).2
  rw [failed] at played same
  rw [same, played.failure rfl]
  exact restores_later start _

/-- After any operations, and after any failures: the references are those of the pointers, no
operation ever passes a state where a renderer runs without its source, a `play` that fails changes
nothing, and `tear` gives every reference back once. -/
theorem references_balanced (created : Bool) (operations : List Operation) :
    (machine.run (built created) operations).overReleased = false ∧
      (machine.run (built created) operations).syncRefs =
        (machine.run (built created) operations).avSync.toNat +
          (machine.run (built created) operations).holds .video +
          (machine.run (built created) operations).holds .audio ∧
      (∀ output ∈ machine.outputs (built created) operations,
        ∀ moment ∈ output.2, moment.SourcesAlive) ∧
      (∀ media stages,
        (playVideo media stages).value (machine.run (built created) operations) = false →
          (machine.run (built created) operations).Restores
            ((playVideo media stages).final (machine.run (built created) operations))) ∧
      (∀ media stages,
        (playAudio media stages).value (machine.run (built created) operations) = false →
          (machine.run (built created) operations).Restores
            ((playAudio media stages).final (machine.run (built created) operations))) ∧
      (tear.final (machine.run (built created) operations)).Torn := by
  have settled := run_settled created operations
  refine ⟨settled.sound, settled.syncRefs, ?_, settled.playVideo_failed, settled.playAudio_failed,
    (tear_ensures settled _ rfl).2⟩
  have keeps : ∀ state operation, Settled state → (machine.step state operation).1.Settled :=
    fun _ operation settled => step_settled settled operation
  exact machine.forall_outputs keeps
    (fun _ operation settled => step_sourcesAlive settled operation) (settled_built created)
    operations

end PlayerState

end RtpPlayer
