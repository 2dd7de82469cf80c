import RtpPlayer.Player.SharedSync

/-! # The clock of the schedule

`video_frame` compares its schedule with `m_clock`, which it sets to zero when the schedule starts.
`set_clock` puts another clock in its place and leaves the schedule as it is: the two have one
origin exactly where no clock is replaced while a schedule runs. -/

namespace RtpPlayer

open Foundations

namespace AVSync

/-- A call that starts the schedule has set the clock to zero. -/
theorem VideoFrameStep.origin {sync : AVSync} {clockMs : Int32} {call : FrameCall}
    {origin : Option AVClock} (step : sync.VideoFrameStep clockMs call)
    (shared : sync.videoDuration ≠ 0 → sync.clock = origin)
    (running : call.sync.videoDuration ≠ 0) :
    call.sync.clock = (call.restarted <|> origin) := by
  cases step with
  | idle => exact shared running
  | early queued playing clocked =>
    by_cases starts : sync.videoDuration = 0
    · simp [starts, clocked]
    · simp [starts, shared starts]
  | due queued playing clocked =>
    by_cases starts : sync.videoDuration = 0
    · simp [pop, starts, clocked]
    · simp [pop, starts, shared starts]

end AVSync

namespace SharedSync

/-- A running schedule is compared with the clock that was set to zero when it started. -/
def SharesOrigin (state : SharedSync) : Prop :=
  state.sync.videoDuration ≠ 0 → state.sync.clock = state.origin

/-- No clock is replaced by another while a schedule runs. -/
def KeepsClock (state : SharedSync) : Action → Prop
  | .setClock clock => state.sync.videoDuration ≠ 0 → clock = state.sync.clock
  | _ => True

theorem stopBuffering_sharesOrigin {state : SharedSync} (shared : state.SharesOrigin)
    (latency : Int32) :
    (state.sync.stopBuffering latency).videoDuration ≠ 0 →
      (state.sync.stopBuffering latency).clock = state.origin := by
  unfold AVSync.stopBuffering
  split <;> exact shared

theorem audioFrame_sharesOrigin {state : SharedSync} (shared : state.SharesOrigin) :
    state.sync.audioFrame.sync.videoDuration ≠ 0 →
      state.sync.audioFrame.sync.clock = (state.sync.audioFrame.restarted <|> state.origin) := by
  unfold AVSync.audioFrame
  cases state.sync.audioFrames with
  | nil => exact shared
  | cons front rest =>
    simp only
    split <;> exact shared

theorem setClock_sharesOrigin_iff {state : SharedSync} (shared : state.SharesOrigin)
    (clock : Option AVClock) :
    SharesOrigin { state with sync := state.sync.setClock clock } ↔
      (state.sync.videoDuration ≠ 0 → clock = state.sync.clock) := by
  constructor
  · intro kept running
    exact (kept running).trans (shared running).symm
  · intro same running
    exact (same running).trans (shared running)

theorem step_sharesOrigin_iff {state next : SharedSync} {action : Action}
    (shared : state.SharesOrigin) (stepped : system.step state action = some next) :
    next.SharesOrigin ↔ state.KeepsClock action := by
  cases action <;> simp only [system, step, Option.ite_none_right_eq_some, Option.some.injEq,
    Option.map_eq_some_iff] at stepped
  case setClock clock =>
    obtain ⟨-, rfl⟩ := stepped
    exact setClock_sharesOrigin_iff shared clock
  case videoFrame =>
    obtain ⟨-, call, called, rfl⟩ := stepped
    exact iff_of_true ((AVSync.videoFrame_step called).origin shared) trivial
  case audioFrame =>
    obtain ⟨-, rfl⟩ := stepped
    exact iff_of_true (audioFrame_sharesOrigin shared) trivial
  case stopBuffering producer latency =>
    obtain ⟨-, rfl⟩ := stepped
    exact iff_of_true (stopBuffering_sharesOrigin shared latency) trivial
  all_goals
    obtain ⟨-, rfl⟩ := stepped
    exact iff_of_true shared trivial

theorem sharesOrigin_create : create.SharesOrigin := by
  intro running
  exact absurd rfl running

/-- In every state of a run the schedule and its clock share their origin exactly where the run
replaces no clock while a schedule runs. -/
theorem always_sharesOrigin_iff (actions : List Action) :
    system.Always SharesOrigin create actions ↔ system.Guarded KeepsClock create actions :=
  system.always_iff_guarded (fun _ _ _ _ _ => trivial)
    (fun _ _ _ _ shared stepped => step_sharesOrigin_iff shared stepped) trivial
    sharesOrigin_create actions

/-- Video plays for ten seconds on the internal timer before audio joins. -/
def audioJoinsLate : List Action :=
  [.create 1 ⟨16, 0⟩, .queueVideo 1 ⟨16, 0⟩, .measureLatency 1, .stopBuffering 1 0,
    .create 1 ⟨32, 900000⟩, .queueVideo 1 ⟨32, 900000⟩, .measureLatency 1, .stopBuffering 1 10000,
    .videoFrame 2 0, .videoFrame 2 40, .create 1 ⟨48, 903000⟩, .queueVideo 1 ⟨48, 903000⟩,
    .measureLatency 1, .stopBuffering 1 0, .videoFrame 2 10040, .setClock (some (.audioOut 64))]

/-- The frame that is due at 10073 ms then has to wait for 10073 ms of audio. -/
theorem audioJoinsLate_waits : ¬ (∀ actions, system.Always SharesOrigin create actions) ∧
    (system.run create audioJoinsLate).map
      (fun state => (state.sync.videoDuration, state.origin, state.sync.clock,
        (state.sync.videoFrame 10072).map AVSync.FrameCall.frame)) =
      some (10040, some .avTimer, some (.audioOut 64), some none) := by
  constructor
  · intro always
    have shared := always audioJoinsLate _ List.prefix_rfl _ rfl
    exact absurd (shared (by decide)) (by decide)
  · decide

end SharedSync

end RtpPlayer
