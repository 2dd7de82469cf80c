import RtpPlayer.Player.SettledPlayer

/-! # The lifetime of the clock

`m_clock` is a bare pointer: first to the internal timer, which dies with the synchroniser or when
another clock is set, then to the audio renderer, which dies with the audio player.  Removing the
audio leaves the pointer behind. -/

namespace RtpPlayer

open Foundations
open Procedure

namespace PlayerState

/-- `m_clock` points to an object that is there. -/
def ClockAlive (state : PlayerState) : Prop :=
  match state.sync.clock with
  | none => False
  | some .avTimer => state.sync.avTimer = some .avTimer ∧ 0 < state.syncRefs
  | some (.audioOut address) =>
    ∃ renderer, state.renderers address = some renderer ∧ renderer.kind = .audio

/-- A video renderer that runs finds its clock. -/
def ClockUsable (state : PlayerState) : Prop := state.Running .video → state.ClockAlive

/-! ## Moments of an operation -/

section Moments

variable {side : Side} {start state moment : PlayerState} {kind : StreamKind}

/-- A clock that is alive without the player at hand is alive with it. -/
theorem Passes.clockAlive (passes : Passes side moment) (alive : side.before.ClockAlive) :
    moment.ClockAlive := by
  obtain ⟨player, handling⟩ := passes
  unfold ClockAlive at alive ⊢
  rw [handling.sync]
  split at alive
  · exact alive
  · have refs := handling.syncRefs
    exact ⟨alive.1, by omega⟩
  next address _ =>
    obtain ⟨renderer, present, audio⟩ := alive
    refine ⟨renderer, ?_, audio⟩
    rw [handling.others address]
    · exact present
    · intro mine
      rw [(handling.own address mine).1] at present
      cases present

theorem Passes.running (passes : Passes side moment) (running : moment.Running kind) :
    side.before.Running kind ∨ kind = side.kind ∧ side.mayRun := by
  obtain ⟨player, handling⟩ := passes
  obtain ⟨address, renderer, present, ofKind, runs⟩ := running
  by_cases mine : player.renderer = some address
  · obtain ⟨-, -, -, renderer', present', ofKind', may⟩ := handling.own address mine
    rw [present, Option.some.injEq] at present'
    subst present'
    exact .inr ⟨ofKind.symm.trans ofKind', (may runs).1⟩
  · rw [handling.others address mine] at present
    exact .inl ⟨address, renderer, present, ofKind, runs⟩

/-- Every moment finds the clock that was there before. -/
theorem Passes.clockUsable (passes : Passes side moment)
    (alive : side.before.Running .video ∨ .video = side.kind ∧ side.mayRun →
      side.before.ClockAlive) : moment.ClockUsable :=
  fun running => passes.clockAlive (alive (passes.running running))

end Moments

/-! ## The clock between two operations -/

/-- The clock is the internal timer, or the renderer of the audio player that was there last. -/
inductive ClockSettled (state : PlayerState) : Prop where
  | timer (clock : state.sync.clock = some .avTimer) (avTimer : state.sync.avTimer = some .avTimer)
      (noAudio : state.player .audio = none)
  | audio (address : Nat) (clock : state.sync.clock = some (.audioOut address))
      (avTimer : state.sync.avTimer = none) (used : address < state.nextAddress)
      (notVideo : ∀ renderer, state.renderers address = some renderer → renderer.kind = .audio)
      (mine : ∀ player, state.player .audio = some player → player.renderer = some address)

section Between

variable {start state : PlayerState} {side : Side} {kind : StreamKind} {player : BasePlayer}

/-- The clock is alive as long as there is audio, or never was. -/
theorem Settled.clockAlive_iff (settled : state.Settled) (clock : state.ClockSettled)
    (synced : state.avSync = true) :
    state.ClockAlive ↔ state.player .audio ≠ none ∨ state.sync.avTimer ≠ none := by
  unfold ClockAlive
  cases clock with
  | timer clock avTimer =>
    simp only [clock]
    exact iff_of_true ⟨avTimer, settled.positive synced⟩ (.inr (by simp [avTimer]))
  | audio address clock avTimer used notVideo mine =>
    simp only [clock, avTimer, ne_eq, not_true_eq_false, or_false]
    constructor
    · rintro ⟨renderer, present, ofKind⟩ absent
      obtain ⟨player, owner, -⟩ := settled.owned address renderer present
      rw [ofKind, absent] at owner
      cases owner
    · intro present
      obtain ⟨player, present⟩ := Option.ne_none_iff_exists'.mp present
      obtain ⟨renderer, alive, ofKind, -⟩ :=
        settled.owns .audio player address present (mine player present)
      exact ⟨renderer, alive, ofKind⟩

theorem clockSettled_later (clock : state.ClockSettled) {address : Nat}
    (le : state.nextAddress ≤ address) : ClockSettled { state with nextAddress := address } := by
  cases clock with
  | timer clock avTimer noAudio => exact .timer clock avTimer noAudio
  | audio other clock avTimer used notVideo mine =>
    exact .audio other clock avTimer (Nat.lt_of_lt_of_le used le) notVideo mine

theorem Played.clockSettled_video {ok supported : Bool} {stages : PlayStages}
    (played : Played (.play start .video supported stages) ok state)
    (clock : start.ClockSettled) : state.ClockSettled := by
  obtain ⟨player, handling⟩ := played.passes
  have sync : state.sync = start.sync := handling.sync
  have audio : state.player .audio = start.player .audio :=
    handling.players .audio (by simp [Side.play])
  cases clock with
  | timer clock avTimer noAudio =>
    exact .timer (by rw [sync, clock]) (by rw [sync, avTimer]) (by rw [audio, noAudio])
  | audio address clock avTimer used notVideo mine =>
    refine .audio address (by rw [sync, clock]) (by rw [sync, avTimer])
      (Nat.lt_of_lt_of_le used handling.fresh) ?_ (by rw [audio]; exact mine)
    intro renderer present
    apply notVideo renderer
    rw [← present]
    refine (handling.others address ?_).symm
    intro own
    have least : start.nextAddress ≤ address := (handling.own address own).2.1
    omega

theorem PlayedAudio.clockSettled {ok supported : Bool} {stages : PlayStages}
    (played : PlayedAudio (.play start .audio supported stages) ok state)
    (clock : start.ClockSettled) : state.ClockSettled := by
  obtain ⟨before, played, same⟩ := played
  subst same
  cases ok with
  | false =>
    obtain ⟨player, handling⟩ := played.passes
    simp only [Bool.false_eq_true, if_false]
    rw [played.failure rfl]
    exact clockSettled_later clock handling.fresh
  | true =>
    obtain ⟨-, -, player, present⟩ := played.success rfl
    have present : before.player .audio = some player := present
    obtain ⟨address, mine⟩ :=
      Option.isSome_iff_exists.mp (played.settled.complete .audio player present).2.2.1
    obtain ⟨renderer, alive, ofKind, -⟩ :=
      played.settled.owns .audio player address present mine
    simp only [if_true]
    refine .audio address ?_ rfl ?_ ?_ ?_
    · simp [setClock, AVSync.setClock, present, mine]
    · by_contra above
      rw [played.settled.unused address (Nat.le_of_not_lt above)] at alive
      cases alive
    · intro renderer' present'
      rw [show before.renderers address = some renderer' from present', Option.some.injEq] at alive
      exact alive ▸ ofKind
    · intro player' present'
      rw [show before.player .audio = some player' from present', Option.some.injEq] at present
      exact present ▸ mine

theorem dropped_sync (start : PlayerState) (kind : StreamKind) :
    (start.dropped kind).sync = start.sync := by
  unfold dropped
  cases start.player kind <;> rfl

theorem dropped_renderers {address : Nat} {renderer : Renderer}
    (present : (start.dropped kind).renderers address = some renderer) :
    start.renderers address = some renderer := by
  unfold dropped at present
  cases owner : start.player kind with
  | none =>
    rw [owner] at present
    exact present
  | some player =>
    rw [owner] at present
    simp only [without, Function.update_apply] at present
    split at present
    · cases present
    · exact present

theorem dropped_player {other : StreamKind}
    (present : (start.dropped kind).player other = some player) :
    start.player other = some player := by
  by_cases same : other = kind
  · subst same
    rw [dropped_player_self] at present
    cases present
  · unfold dropped at present
    split at present
    · exact present
    · rwa [Settled.without_player_of_ne same] at present

theorem Removed.avSync (removed : Removed start kind state) : state.avSync = start.avSync := by
  rw [removed.same]
  exact dropped_avSync start kind

theorem PlayedAudio.avSync {ok : Bool} (played : PlayedAudio side ok state) :
    state.avSync = side.before.avSync := by
  obtain ⟨before, played, same⟩ := played
  obtain ⟨player, handling⟩ := played.passes
  rw [← handling.avSync, same]
  split <;> rfl

theorem Removed.clockSettled (removed : Removed start kind state)
    (clock : start.ClockSettled) : state.ClockSettled := by
  rw [removed.same]
  have fresh := removed.fresh
  have sync := dropped_sync start kind
  cases clock with
  | timer clock avTimer noAudio =>
    exact .timer (by rw [← clock, ← sync]) (by rw [← avTimer, ← sync])
      (dropped_player_of_none noAudio)
  | audio address clock avTimer used notVideo mine =>
    refine .audio address (by rw [← clock, ← sync]) (by rw [← avTimer, ← sync])
      (Nat.lt_of_lt_of_le used fresh) ?_ ?_
    · intro renderer present
      exact notVideo renderer (dropped_renderers present)
    · intro player present
      exact mine player (dropped_player present)

end Between

/-! ## What each operation does to the clock -/

section Steps

variable {start state moment : PlayerState}

/-- No `play_video` starts a renderer once the audio is gone, and no `remove_audio` removes an audio
player under a renderer that runs. -/
def KeepsClock (state : PlayerState) : Operation → Prop
  | .playVideo media stages => state.Starts .video (VideoPlayer.supports media) stages →
      state.player .audio ≠ none ∨ state.sync.avTimer ≠ none
  | .removeAudio => state.player .audio ≠ none → ¬ state.Running .video
  | _ => True

theorem clockUsable_of_idle (idle : ¬ state.Running .video) : state.ClockUsable :=
  fun running => absurd running idle

theorem Settled.not_running {kind : StreamKind} (settled : state.Settled)
    (absent : state.player kind = none) : ¬ state.Running kind := by
  rintro ⟨address, renderer, present, ofKind, -⟩
  obtain ⟨player, owner, -⟩ := settled.owned address renderer present
  rw [ofKind, absent] at owner
  cases owner

theorem Passes.clockUsable_playVideo {supported : Bool} {stages : PlayStages}
    (passes : Passes (.play start .video supported stages) moment) (settled : start.Settled)
    (clock : start.avSync = true → start.ClockSettled) (usable : start.ClockUsable)
    (keeps : start.Starts .video supported stages →
      start.player .audio ≠ none ∨ start.sync.avTimer ≠ none) : moment.ClockUsable := by
  apply passes.clockUsable
  rintro (running | ⟨-, starts⟩)
  · exact usable running
  · have synced : start.avSync = true := starts.2.2.2.2.1
    exact (settled.clockAlive_iff (clock synced) synced).mpr (keeps starts)

theorem Passes.clockUsable_playAudio {supported : Bool} {stages : PlayStages}
    (passes : Passes (.play start .audio supported stages) moment) (usable : start.ClockUsable) :
    moment.ClockUsable := by
  apply passes.clockUsable
  rintro (running | ⟨differ, -⟩)
  · exact usable running
  · cases differ

theorem PlayedAudio.clockUsable {ok supported : Bool} {stages : PlayStages}
    (played : PlayedAudio (.play start .audio supported stages) ok state)
    (usable : start.ClockUsable) : state.ClockUsable := by
  obtain ⟨before, played, same⟩ := played
  subst same
  cases ok with
  | false => exact played.passes.clockUsable_playAudio usable
  | true =>
    obtain ⟨-, -, player, present⟩ := played.success rfl
    have present : before.player .audio = some player := present
    obtain ⟨address, mine⟩ :=
      Option.isSome_iff_exists.mp (played.settled.complete .audio player present).2.2.1
    obtain ⟨renderer, alive, ofKind, -⟩ :=
      played.settled.owns .audio player address present mine
    intro _
    have pointed : (before.setClock
        (((before.player .audio).bind BasePlayer.renderer).map AVClock.audioOut)).sync.clock =
          some (.audioOut address) := by
      simp [setClock, AVSync.setClock, present, mine]
    simp only [if_true]
    unfold ClockAlive
    rw [pointed]
    exact ⟨renderer, alive, ofKind⟩

/-- The clock does not go with the video. -/
theorem Settled.clockAlive_without_video {player : BasePlayer} (settled : start.Settled)
    (present : start.player .video = some player) (alive : start.ClockAlive) :
    (start.without .video player).ClockAlive := by
  have detached := settled.detached present
  have synced := settled.needs .video player present
  obtain ⟨address, mine⟩ :=
    Option.isSome_iff_exists.mp (settled.complete .video player present).2.2.1
  obtain ⟨renderer, own, ofKind, -⟩ := settled.owns .video player address present mine
  unfold ClockAlive at alive ⊢
  change match start.sync.clock with
    | none => False
    | some .avTimer =>
      start.sync.avTimer = some .avTimer ∧ 0 < (start.without .video player).syncRefs
    | some (.audioOut address) => ∃ renderer,
        (start.without .video player).renderers address = some renderer ∧ renderer.kind = .audio
  split at alive
  · exact alive
  · exact ⟨alive.1, detached.positive synced⟩
  next other _ =>
    obtain ⟨renderer', alive, audio⟩ := alive
    have apart : other ≠ address := by
      rintro rfl
      rw [own, Option.some.injEq] at alive
      rw [← alive, ofKind] at audio
      cases audio
    refine ⟨renderer', ?_, audio⟩
    simp only [without, mine, Option.getD_some, Function.update_of_ne apart, alive]

theorem PassesRemoving.clockUsable_video (passes : PassesRemoving start .video moment)
    (settled : start.Settled) (usable : start.ClockUsable) : moment.ClockUsable := by
  unfold PassesRemoving at passes
  split at passes
  · exact passes ▸ usable
  next player present =>
    apply Passes.clockUsable passes
    intro running
    have before : start.Running .video := by
      rcases running with ⟨address, renderer, alive, facts⟩ | ⟨-, running⟩
      · exact ⟨address, renderer, dropped_renderers (by rw [dropped, present]; exact alive), facts⟩
      · exact running
    exact settled.clockAlive_without_video present (usable before)

/-- Without video nothing looks at the clock. -/
theorem PassesRemoving.clockUsable_audio (passes : PassesRemoving start .audio moment)
    (usable : start.ClockUsable) (keeps : start.player .audio ≠ none → ¬ start.Running .video) :
    moment.ClockUsable := by
  unfold PassesRemoving at passes
  split at passes
  · exact passes ▸ usable
  next player present =>
    apply Passes.clockUsable passes
    rintro (⟨address, renderer, alive, facts⟩ | ⟨differ, -⟩)
    · refine absurd ⟨address, renderer, ?_, facts⟩ (keeps (by simp [present]))
      exact dropped_renderers (by rw [dropped, present]; exact alive)
    · cases differ

theorem Settled.passes_dropped (settled : start.Settled) (kind : StreamKind) :
    PassesRemoving start kind (start.dropped kind) := by
  unfold PassesRemoving dropped
  cases present : start.player kind with
  | none => rfl
  | some player => exact ⟨_, Handling.begin (settled.detached present).sourcesAlive⟩

theorem Removed.clockUsable_iff {kind : StreamKind} (removed : Removed start kind state) :
    state.ClockUsable ↔ (start.dropped kind).ClockUsable := by
  rw [removed.same]
  exact Iff.rfl

theorem PassesTearing.clockUsable (passes : PassesTearing start moment) (settled : start.Settled)
    (usable : start.ClockUsable) : moment.ClockUsable := by
  rcases passes with video | ⟨videoless, removed, audio⟩ | empty
  · exact video.clockUsable_video settled usable
  · have absent : videoless.player .video = none := by
      rw [removed.same]
      exact dropped_player_self start .video
    have idle := removed.settled.not_running absent
    exact audio.clockUsable_audio (clockUsable_of_idle idle) fun _ => idle
  · apply clockUsable_of_idle
    rintro ⟨address, renderer, alive, -⟩
    rw [empty] at alive
    cases alive

/-! ### The two operations that lose it -/

/-- The state in which `play_video` has just started its renderer. -/
def started (start : PlayerState) (stages : PlayStages) : PlayerState :=
  (((start.setPlayer .video (some .create)).createRenderer .video).setSource start.nextAddress
    true).startRenderer start.nextAddress stages.threadSpawned

theorem started_mem_passed {media : RtpMediaType} {stages : PlayStages}
    (starts : start.Starts .video (VideoPlayer.supports media) stages) :
    start.started stages ∈ (playVideo media stages).passed start := by
  obtain ⟨absent, allocated, supports, created, synced, spawned⟩ := starts
  simp [playVideo, play, VideoPlayer.build, BasePlayer.build, started, absent, allocated, supports,
    created, synced, setPlayer]

theorem started_running {stages : PlayStages} (spawned : stages.threadSpawned = true) :
    (start.started stages).Running .video := by
  refine ⟨start.nextAddress, { kind := .video, source := true, running := true }, ?_, rfl, rfl⟩
  simp [started, startRenderer, setSource, changeRenderer, updateRenderer, createRenderer,
    setPlayer, spawned]

/-- A clock that went with the audio is not there for the new renderer. -/
theorem Settled.started_not_clockAlive {stages : PlayStages} (settled : start.Settled)
    (clock : start.ClockSettled) (noAudio : start.player .audio = none)
    (avTimer : start.sync.avTimer = none) : ¬ (start.started stages).ClockAlive := by
  cases clock with
  | timer clock avTimer' => simp [avTimer] at avTimer'
  | audio address clock avTimer used notVideo mine =>
    have pointed : (start.started stages).sync.clock = some (.audioOut address) := clock
    unfold ClockAlive
    rw [pointed]
    rintro ⟨renderer, present, ofKind⟩
    have apart : address ≠ start.nextAddress := Nat.ne_of_lt used
    have present : start.renderers address = some renderer := by
      simpa [started, startRenderer, setSource, changeRenderer, updateRenderer, createRenderer,
        setPlayer, Function.update_of_ne apart] using present
    obtain ⟨player, owner, -⟩ := settled.owned address renderer present
    rw [ofKind, noAudio] at owner
    cases owner

/-- Once the audio player is gone, so is the clock, and the video renderer still runs. -/
theorem Settled.dropped_audio_not_clockUsable (settled : start.Settled) (clock : start.ClockSettled)
    (audio : start.player .audio ≠ none) (running : start.Running .video) :
    ¬ (start.dropped .audio).ClockUsable := by
  obtain ⟨player, present⟩ := Option.ne_none_iff_exists'.mp audio
  obtain ⟨address, mine⟩ :=
    Option.isSome_iff_exists.mp (settled.complete .audio player present).2.2.1
  have same : start.dropped .audio = start.without .audio player := by
    rw [dropped, present]
  rw [same]
  intro usable
  have alive := usable (by
    obtain ⟨other, renderer, there, ofKind, runs⟩ := running
    obtain ⟨renderer', there', ofKind', -⟩ := settled.owns .audio player address present mine
    have apart : other ≠ address := by
      rintro rfl
      rw [there, Option.some.injEq] at there'
      rw [← there', ofKind] at ofKind'
      cases ofKind'
    refine ⟨other, renderer, ?_, ofKind, runs⟩
    simp only [without, mine, Option.getD_some, Function.update_of_ne apart, there])
  cases clock with
  | timer clock avTimer noAudio => exact audio noAudio
  | audio address' clock avTimer used notVideo mine' =>
    have own := mine' player present
    rw [mine, Option.some.injEq] at own
    subst own
    have pointed : (start.without .audio player).sync.clock = some (.audioOut address) := clock
    unfold ClockAlive at alive
    rw [pointed] at alive
    obtain ⟨renderer, there, -⟩ := alive
    simp [without, mine] at there

end Steps

/-! ## Runs -/

/-- What holds between two operations. -/
structure ClockInvariant (state : PlayerState) : Prop where
  settled : state.Settled
  clock : state.avSync = true → state.ClockSettled

theorem clockInvariant_built (created : Bool) : (built created).ClockInvariant where
  settled := settled_built created
  clock := fun _ => .timer rfl rfl rfl

theorem step_clockInvariant {state : PlayerState} (invariant : state.ClockInvariant)
    (operation : Operation) : (machine.step state operation).1.ClockInvariant := by
  have settled := invariant.settled
  refine ⟨step_settled settled operation, ?_⟩
  intro synced
  cases operation with
  | playVideo media stages =>
    have played := (playVideo_ensures settled media stages state rfl).2
    obtain ⟨player, handling⟩ := played.passes
    exact played.clockSettled_video (invariant.clock (handling.avSync.symm.trans synced))
  | playAudio media stages =>
    have played := (playAudio_ensures settled media stages state rfl).2
    exact played.clockSettled (invariant.clock (played.avSync.symm.trans synced))
  | removeVideo =>
    have removed := (remove_ensures settled .video state rfl).2
    exact removed.clockSettled (invariant.clock (removed.avSync.symm.trans synced))
  | removeAudio =>
    have removed := (remove_ensures settled .audio state rfl).2
    exact removed.clockSettled (invariant.clock (removed.avSync.symm.trans synced))
  | tear =>
    have torn := (tear_ensures settled state rfl).2
    exact absurd (torn.avSync.symm.trans synced) (by decide)

/-- Every state that an operation passes or leaves has a usable clock exactly if the operation
keeps the clock. -/
theorem step_clockUsable_iff {state : PlayerState} (invariant : state.ClockInvariant)
    (usable : state.ClockUsable) (operation : Operation) :
    (∀ moment ∈ (machine.step state operation).2.2, moment.ClockUsable) ↔
      state.KeepsClock operation := by
  have settled := invariant.settled
  cases operation with
  | playVideo media stages =>
    obtain ⟨passes, played⟩ := playVideo_ensures settled media stages state rfl
    constructor
    · intro all starts
      by_contra lost
      -- the video renderer would run on a clock that went with the audio
      obtain ⟨noAudio, avTimer⟩ : state.player .audio = none ∧ state.sync.avTimer = none := by
        simpa using lost
      have member := List.mem_append_left [(playVideo media stages).final state]
        (started_mem_passed starts)
      have running : (state.started stages).Running .video := started_running starts.2.2.2.2.2
      exact settled.started_not_clockAlive (invariant.clock starts.2.2.2.2.1) noAudio avTimer
        (all _ member running)
    · intro keeps
      refine forall_moments (fun moment passed => ?_) ?_
      · exact (passes moment passed).clockUsable_playVideo settled invariant.clock usable keeps
      · exact played.passes.clockUsable_playVideo settled invariant.clock usable keeps
  | playAudio media stages =>
    obtain ⟨passes, played⟩ := playAudio_ensures settled media stages state rfl
    refine iff_of_true (forall_moments (fun moment passed => ?_) (played.clockUsable usable))
      trivial
    rcases passes moment passed with passes | clocked
    · exact passes.clockUsable_playAudio usable
    · exact clocked.clockUsable usable
  | removeVideo =>
    obtain ⟨passes, removed⟩ := remove_ensures settled .video state rfl
    refine iff_of_true (forall_moments (fun moment passed => ?_) ?_) trivial
    · exact (passes moment (by simpa [perform, removeVideo] using passed)).clockUsable_video
        settled usable
    · exact removed.clockUsable_iff.mpr
        ((settled.passes_dropped .video).clockUsable_video settled usable)
  | removeAudio =>
    obtain ⟨passes, removed⟩ := remove_ensures settled .audio state rfl
    constructor
    · intro all audio running
      have last := all _ (List.mem_append_right _ (List.mem_singleton_self _))
      -- the state the operation leaves is enough: there the clock is gone
      have synced : state.avSync = true := by
        obtain ⟨player, present⟩ := Option.ne_none_iff_exists'.mp audio
        exact settled.needs .audio player present
      exact settled.dropped_audio_not_clockUsable (invariant.clock synced) audio running
        (removed.clockUsable_iff.mp last)
    · intro keeps
      refine forall_moments (fun moment passed => ?_) ?_
      · exact (passes moment (by simpa [perform, removeAudio] using passed)).clockUsable_audio
          usable keeps
      · exact removed.clockUsable_iff.mpr
          ((settled.passes_dropped .audio).clockUsable_audio usable keeps)
  | tear =>
    obtain ⟨passes, torn⟩ := tear_ensures settled state rfl
    refine iff_of_true (forall_moments (fun moment passed => ?_) ?_) trivial
    · exact (passes moment (by simpa [perform] using passed)).clockUsable settled usable
    · exact clockUsable_of_idle (torn.settled.not_running (torn.players .video))

/-- Over any operations the clock of a running video renderer is there, in every state passed,
exactly if no `remove_audio` takes an audio player away under a running video renderer and no
`play_video` starts one after the audio is gone. -/
theorem clockUsable_iff_keepsClock (created : Bool) (operations : List Operation) :
    (∀ output ∈ machine.outputs (built created) operations,
      ∀ moment ∈ output.2, moment.ClockUsable) ↔
      machine.Guarded KeepsClock (built created) operations := by
  have keeps : ∀ state operation, ClockInvariant state →
      (machine.step state operation).1.ClockInvariant :=
    fun _ operation invariant => step_clockInvariant invariant operation
  refine machine.forall_outputs_iff_guarded keeps
    (fun _ operation invariant usable => step_clockUsable_iff invariant usable operation)
    (fun state operation _ all => ?_) (clockInvariant_built created) ?_ operations
  · exact all _ (List.mem_append_right _ (List.mem_singleton_self _))
  · apply clockUsable_of_idle
    rintro ⟨address, renderer, present, -⟩
    cases present

/-- Every stage succeeds. -/
def allStages : PlayStages where
  playerAllocated := true
  rendererCreated := true
  threadSpawned := true
  decoderCreated := true
  decoderBuilt := true
  streamCreated := true
  mediaSet := true

def audioRemoved : List Operation :=
  [.playVideo .videoAvc allStages, .playAudio .audioAac allStages, .removeAudio]

/-- The video goes on with the clock of a renderer that is gone. -/
theorem audioRemoved_dangles : ¬ ∀ created operations,
    ∀ output ∈ machine.outputs (built created) operations,
      ∀ moment ∈ output.2, moment.ClockUsable := by
  intro usable
  have last := usable true audioRemoved _ (.tail _ (.tail _ (.head _))) _
    (List.mem_append_right _ (List.mem_singleton_self _))
  have alive := last ⟨0, { kind := .video, source := true, running := true }, rfl, rfl, rfl⟩
  change ∃ renderer, (none : Option Renderer) = some renderer ∧ renderer.kind = .audio at alive
  obtain ⟨renderer, present, -⟩ := alive
  cases present

end PlayerState

end RtpPlayer
