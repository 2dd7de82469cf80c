import Mathlib.Algebra.Order.Field.Basic
import Mathlib.Algebra.Order.Field.Rat
import Mathlib.Data.Rat.Cast.Order
import Mathlib.Tactic.Linarith
import Mathlib.Tactic.Positivity
import RtpPlayer.Foundations.Gaps
import RtpPlayer.Player.SharedSync

/-! # The schedule of the video

`m_video_duration` is when the last frame released was due.  Each frame adds its gap to the one
before, in whole milliseconds: what the divisions cut off is never made up for, and adds up. -/

namespace RtpPlayer

open Foundations

/-- The timestamps do not go back, and no gap overflows when it is multiplied by 1000. -/
def Paced (frames : List AVFrame) : Prop :=
  frames.IsChain fun first second =>
    first.pts ≤ second.pts ∧ (second.pts.toNat - first.pts.toNat) * 1000 < 2 ^ 32

instance (frames : List AVFrame) : Decidable (Paced frames) :=
  inferInstanceAs (Decidable (List.IsChain _ _))

def timestamps (frames : List AVFrame) : List Nat := frames.map fun frame => frame.pts.toNat

/-- What the divisions by 90 cut off, in ticks. -/
def ticksLost (frames : List AVFrame) : Nat := ((gaps (timestamps frames)).map (· % 90)).sum

/-- When the last of the frames is due: 40 ms and the whole milliseconds of each gap. -/
def dueMs (frames : List AVFrame) : Nat := 40 + ((gaps (timestamps frames)).map (· / 90)).sum

theorem timestamps_concat (frames : List AVFrame) (frame : AVFrame) :
    timestamps (frames ++ [frame]) = timestamps frames ++ [frame.pts.toNat] := by
  simp [timestamps]

theorem Paced.ordered {frames : List AVFrame} (paced : Paced frames) :
    (timestamps frames).IsChain (· ≤ ·) := by
  apply (List.isChain_map _).mpr
  exact List.IsChain.imp (fun _ _ step => UInt32.le_iff_toNat_le.mp step.1) paced

/-- The ticks from the first frame to the last are those of the schedule and those lost. -/
theorem Paced.dueMs_mul {frames : List AVFrame} {first last : AVFrame} (paced : Paced frames)
    (starts : frames.head? = some first) (ends : frames.getLast? = some last) :
    dueMs frames * 90 + first.pts.toNat + ticksLost frames = 3600 + last.pts.toNat := by
  have telescoped : first.pts.toNat + (gaps (timestamps frames)).sum = last.pts.toNat :=
    first_add_sum_gaps paced.ordered (by simp [timestamps, starts]) (by simp [timestamps, ends])
  have divided := sum_map_div_mul_add_sum_map_mod 90 (gaps (timestamps frames))
  unfold dueMs ticksLost
  omega

/-- The schedule is within a millisecond of the timestamps where at most one is lost. -/
theorem Paced.near_iff {frames : List AVFrame} {first last : AVFrame} (paced : Paced frames)
    (starts : frames.head? = some first) (ends : frames.getLast? = some last) :
    |(dueMs frames : ℚ) - (40 + ((last.pts.toNat : ℚ) - first.pts.toNat) * 1000 / 90000)| ≤ 1 ↔
      ticksLost frames ≤ 90 := by
  have ticks : (dueMs frames : ℚ) * 90 + first.pts.toNat + ticksLost frames =
      3600 + last.pts.toNat := by
    exact_mod_cast paced.dueMs_mul starts ends
  have behind : (dueMs frames : ℚ) -
      (40 + ((last.pts.toNat : ℚ) - first.pts.toNat) * 1000 / 90000) =
        -((ticksLost frames : ℚ) / 90) := by
    linarith
  have lost : (0 : ℚ) ≤ (ticksLost frames : ℚ) / 90 := by positivity
  rw [behind, abs_neg, abs_of_nonneg lost, div_le_one (by norm_num)]
  exact_mod_cast Iff.rfl

namespace AVSync

theorem duration_toNat {sync : AVSync} {front : AVFrame} (ordered : sync.lastVideoTs ≤ front.pts)
    (small : (front.pts.toNat - sync.lastVideoTs.toNat) * 1000 < 2 ^ 32) :
    (sync.duration front).toNat = (front.pts.toNat - sync.lastVideoTs.toNat) / 90 := by
  have gap : (front.pts - sync.lastVideoTs).toNat =
      front.pts.toNat - sync.lastVideoTs.toNat := UInt32.toNat_sub_of_le _ _ ordered
  have scaled : ((front.pts - sync.lastVideoTs) * 1000).toNat =
      (front.pts.toNat - sync.lastVideoTs.toNat) * 1000 := by
    rw [UInt32.toNat_mul, gap]
    exact Nat.mod_eq_of_lt small
  unfold duration
  rw [UInt32.toNat_div, scaled]
  exact Nat.mul_div_mul_right _ 90 (by decide : 0 < 1000)

end AVSync

theorem dueMs_singleton (frame : AVFrame) : dueMs [frame] = 40 := rfl

theorem dueMs_concat {frames : List AVFrame} {last : AVFrame}
    (ends : frames.getLast? = some last) (frame : AVFrame) :
    dueMs (frames ++ [frame]) = dueMs frames + (frame.pts.toNat - last.pts.toNat) / 90 := by
  have stamped : (timestamps frames).getLast? = some last.pts.toNat := by simp [timestamps, ends]
  unfold dueMs
  rw [timestamps_concat, gaps_concat stamped]
  simp [Nat.add_assoc]

theorem Paced.dueMs_lt {frames : List AVFrame} {last : AVFrame} (paced : Paced frames)
    (ends : frames.getLast? = some last) : dueMs frames < 2 ^ 32 := by
  cases frames with
  | nil => cases ends
  | cons first rest =>
    have ticks := paced.dueMs_mul rfl ends
    have bound := last.pts.toNat_lt
    omega

theorem Paced.of_concat {frames : List AVFrame} {last frame : AVFrame}
    (paced : Paced (frames ++ [frame])) (ends : frames.getLast? = some last) :
    Paced frames ∧ last.pts ≤ frame.pts ∧
      (frame.pts.toNat - last.pts.toNat) * 1000 < 2 ^ 32 := by
  unfold Paced at paced
  rw [List.isChain_append] at paced
  obtain ⟨before, -, join⟩ := paced
  exact ⟨before, join last ends frame rfl⟩

namespace SharedSync

/-- The schedule waits for the front of the queue, from which it counts. -/
def Awaits (state : SharedSync) : Prop :=
  ∃ front rest, state.sync.videoFrames = front :: rest ∧ state.sync.lastVideoTs = front.pts

/-- What `m_video_duration` and `m_last_video_ts` are before and after the first frame. -/
inductive OnSchedule (state : SharedSync) : Prop where
  | before (nothing : state.returnedVideo = [])
      (waits : state.sync.videoDuration = 0 ∨
        state.sync.videoDuration = 40 ∧ (state.destroyed = false → state.Awaits))
  | running (last : AVFrame) (ends : state.returnedVideo.getLast? = some last)
      (due : Paced state.returnedVideo → state.sync.lastVideoTs = last.pts ∧
        state.sync.videoDuration.toNat = dueMs state.returnedVideo)

theorem onSchedule_create : create.OnSchedule := .before rfl (.inl rfl)

namespace OnSchedule

variable {state next : SharedSync}

/-- What leaves the schedule alone and only adds to the queue. -/
theorem elsewhere (scheduled : state.OnSchedule)
    (lastVideoTs : next.sync.lastVideoTs = state.sync.lastVideoTs)
    (videoDuration : next.sync.videoDuration = state.sync.videoDuration)
    (returned : next.returnedVideo = state.returnedVideo)
    (queue : next.destroyed = false → state.destroyed = false ∧
      ∃ more, next.sync.videoFrames = state.sync.videoFrames ++ more) : next.OnSchedule := by
  cases scheduled with
  | running last ends due =>
    refine .running last (by rw [returned, ends]) ?_
    rw [lastVideoTs, videoDuration, returned]
    exact due
  | before nothing waits =>
    refine .before (by rw [returned, nothing]) ?_
    rw [videoDuration]
    rcases waits with idle | ⟨started, awaits⟩
    · exact .inl idle
    · refine .inr ⟨started, ?_⟩
      intro alive
      obtain ⟨alive, more, appended⟩ := queue alive
      obtain ⟨front, rest, queued, counted⟩ := awaits alive
      exact ⟨front, rest ++ more, by rw [appended, queued]; rfl, by rw [lastVideoTs, counted]⟩

/-- Before the first frame the schedule counts from the front of the queue. -/
theorem startSchedule_before {front : AVFrame} {rest : List AVFrame}
    (waits : state.sync.videoDuration = 0 ∨
      state.sync.videoDuration = 40 ∧ (state.destroyed = false → state.Awaits))
    (alive : state.destroyed = false) (queued : state.sync.videoFrames = front :: rest) :
    (state.sync.startSchedule front).lastVideoTs = front.pts ∧
      (state.sync.startSchedule front).videoDuration = 40 := by
  rcases waits with idle | ⟨started, awaits⟩
  · simp [AVSync.startSchedule, idle]
  · obtain ⟨front', rest', queued', counted⟩ := awaits alive
    rw [queued] at queued'
    obtain ⟨same, -⟩ := List.cons.inj queued'
    simp [AVSync.startSchedule, started, counted, same]

/-- A schedule that has returned a frame does not start again. -/
theorem startSchedule_running {frames : List AVFrame}
    (reached : state.sync.videoDuration.toNat = dueMs frames) (front : AVFrame) :
    state.sync.startSchedule front = state.sync := by
  apply if_neg
  intro idle
  rw [idle] at reached
  have later : 40 ≤ dueMs frames := Nat.le_add_right ..
  exact absurd (reached ▸ later) (by decide)

/-- The call returns the first frame. -/
theorem pop_first {front : AVFrame} {rest : List AVFrame}
    (counted : (state.sync.startSchedule front).lastVideoTs = front.pts)
    (started : (state.sync.startSchedule front).videoDuration = 40)
    (sync : next.sync = (state.sync.startSchedule front).pop front rest)
    (returned : next.returnedVideo = [front]) : next.OnSchedule := by
  refine .running front (by rw [returned]; rfl) ?_
  intro paced
  rw [sync, returned, dueMs_singleton]
  refine ⟨rfl, ?_⟩
  simp [AVSync.pop, AVSync.duration, counted, started]

/-- The call returns a further frame. -/
theorem pop_next {front last : AVFrame} {rest : List AVFrame}
    (ends : state.returnedVideo.getLast? = some last)
    (due : Paced state.returnedVideo → state.sync.lastVideoTs = last.pts ∧
      state.sync.videoDuration.toNat = dueMs state.returnedVideo)
    (sync : next.sync = (state.sync.startSchedule front).pop front rest)
    (returned : next.returnedVideo = state.returnedVideo ++ [front]) : next.OnSchedule := by
  refine .running front (by simp [returned]) ?_
  intro paced
  rw [returned] at paced
  obtain ⟨before, ordered, small⟩ := paced.of_concat ends
  obtain ⟨counted, reached⟩ := due before
  have runs := startSchedule_running reached front
  have gap : (state.sync.duration front).toNat = (front.pts.toNat - last.pts.toNat) / 90 := by
    rw [← counted] at ordered small ⊢
    exact AVSync.duration_toNat ordered small
  have bound : dueMs (state.returnedVideo ++ [front]) < 2 ^ 32 :=
    paced.dueMs_lt List.getLast?_concat
  rw [sync, runs, returned]
  refine ⟨rfl, ?_⟩
  rw [dueMs_concat ends] at bound ⊢
  simp only [AVSync.pop, UInt32.toNat_add, reached, gap]
  exact Nat.mod_eq_of_lt bound

theorem videoFrame (scheduled : state.OnSchedule) (alive : state.destroyed = false)
    {clockMs : Int32} {call : AVSync.FrameCall}
    (called : state.sync.videoFrame clockMs = some call) (sync : next.sync = call.sync)
    (returned : next.returnedVideo = state.returnedVideo ++ call.frame.toList) :
    next.OnSchedule := by
  cases AVSync.videoFrame_step called with
  | idle =>
    have same : next.returnedVideo = state.returnedVideo := by simpa using returned
    exact scheduled.elsewhere (by rw [sync]) (by rw [sync]) same
      (fun _ => ⟨alive, [], by rw [sync, List.append_nil]⟩)
  | early queued =>
    have same : next.returnedVideo = state.returnedVideo := by simpa using returned
    cases scheduled with
    | before nothing waits =>
      obtain ⟨counted, started⟩ := startSchedule_before waits alive queued
      refine .before (by rw [same, nothing]) (.inr ⟨by rw [sync]; exact started, fun _ => ?_⟩)
      exact ⟨_, _, by rw [sync, AVSync.startSchedule_videoFrames, queued], by rw [sync, counted]⟩
    | running last ends due =>
      refine .running last (by rw [same, ends]) ?_
      intro paced
      rw [same] at paced ⊢
      have reached := due paced
      rw [sync, startSchedule_running reached.2]
      exact reached
  | due queued =>
    cases scheduled with
    | before nothing waits =>
      obtain ⟨counted, started⟩ := startSchedule_before waits alive queued
      exact pop_first counted started sync (by simpa [nothing] using returned)
    | running last ends due => exact pop_next ends due sync returned

end OnSchedule

theorem step_onSchedule {state next : SharedSync} {action : Action}
    (scheduled : state.OnSchedule) (stepped : system.step state action = some next) :
    next.OnSchedule := by
  cases action <;> simp only [system, step, Option.ite_none_right_eq_some, Option.some.injEq,
    Bool.not_eq_true, Option.map_eq_some_iff] at stepped
  case videoFrame =>
    obtain ⟨alive, call, called, rfl⟩ := stepped
    exact scheduled.videoFrame alive called rfl rfl
  case queueVideo producer frame =>
    obtain ⟨⟨alive, -⟩, rfl⟩ := stepped
    exact scheduled.elsewhere rfl rfl rfl (fun _ => ⟨alive, [frame], rfl⟩)
  case audioFrame =>
    obtain ⟨alive, rfl⟩ := stepped
    exact scheduled.elsewhere (AVSync.audioFrame_lastVideoTs _) (AVSync.audioFrame_videoDuration _)
      rfl (fun _ => ⟨alive, [], by simp [handOut]⟩)
  case stopBuffering =>
    obtain ⟨⟨alive, -⟩, rfl⟩ := stepped
    exact scheduled.elsewhere (AVSync.stopBuffering_lastVideoTs ..)
      (AVSync.stopBuffering_videoDuration ..) rfl (fun _ => ⟨alive, [], by simp⟩)
  case destroy =>
    obtain ⟨-, rfl⟩ := stepped
    refine scheduled.elsewhere rfl rfl rfl ?_
    intro alive
    cases alive
  all_goals
    obtain ⟨-, rfl⟩ := stepped
    exact scheduled.elsewhere rfl rfl rfl (fun alive => ⟨alive, [], (List.append_nil _).symm⟩)

theorem run_onSchedule {actions : List Action} {state : SharedSync}
    (ran : system.run create actions = some state) : state.OnSchedule :=
  system.run_invariant (fun _ _ _ scheduled stepped => step_onSchedule scheduled stepped)
    onSchedule_create ran

/-- After `last` is released the threshold is where the timestamps say, up to a millisecond. -/
def NearTimestamps (state : SharedSync) (first last : AVFrame) : Prop :=
  |(state.sync.videoDuration.toNat : ℚ) -
    (40 + ((last.pts.toNat : ℚ) - first.pts.toNat) * 1000 / 90000)| ≤ 1

/-- The threshold is within a millisecond of the timestamps exactly as long as the remainders of
the gaps by 90 add up to 90 at most. -/
theorem nearTimestamps_iff (actions : List Action) (state : SharedSync) (first last : AVFrame)
    (ran : system.run create actions = some state) (paced : Paced state.returnedVideo)
    (starts : state.returnedVideo.head? = some first)
    (ends : state.returnedVideo.getLast? = some last) :
    state.NearTimestamps first last ↔ ticksLost state.returnedVideo ≤ 90 := by
  cases run_onSchedule ran with
  | before nothing =>
    rw [nothing] at starts
    cases starts
  | running last' ends' due =>
    unfold NearTimestamps
    rw [(due paced).2]
    exact paced.near_iff starts ends

/-! ## Thirty frames a second -/

/-- One producer pushes a frame and measures this latency. -/
def push (frame : AVFrame) (latency : Int32) : List Action :=
  [.create 1 frame, .queueVideo 1 frame, .measureLatency 1, .stopBuffering 1 latency]

/-- A second after the first frame six more follow, 33 1/3 ms apart. -/
def thirtyFps : List AVFrame :=
  [⟨16, 0⟩, ⟨32, 90000⟩, ⟨48, 93000⟩, ⟨64, 96000⟩, ⟨80, 99000⟩, ⟨96, 102000⟩, ⟨112, 105000⟩,
    ⟨128, 108000⟩]

def playThirtyFps : List Action :=
  push ⟨16, 0⟩ 0 ++ (thirtyFps.drop 1).flatMap (fun frame => push frame 1000) ++
    List.replicate 8 (.videoFrame 2 5000)

theorem run_playThirtyFps : ∃ state, system.run create playThirtyFps = some state ∧
    (state.returnedVideo, state.sync.videoDuration) = (thirtyFps, 1238) := by
  apply Option.map_eq_some_iff.mp
  decide

theorem nearTimestamps_thirtyFps : ∃ state, system.run create playThirtyFps = some state ∧
    (state.NearTimestamps ⟨16, 0⟩ ⟨128, 108000⟩ ↔ ticksLost state.returnedVideo ≤ 90) := by
  obtain ⟨state, ran, facts⟩ := run_playThirtyFps
  obtain ⟨returned, -⟩ := Prod.mk.inj facts
  refine ⟨state, ran, nearTimestamps_iff playThirtyFps state _ _ ran ?_ ?_ ?_⟩
  · rw [returned]
    decide
  · rw [returned]
    rfl
  · rw [returned]
    rfl

/-- The last frame is due 1240 ms after the first by its timestamp, and 1238 ms by the schedule. -/
theorem thirtyFps_drifts : ¬ ∀ actions state first last,
    system.run create actions = some state → Paced state.returnedVideo →
      state.returnedVideo.head? = some first → state.returnedVideo.getLast? = some last →
        state.NearTimestamps first last := by
  intro near
  obtain ⟨state, ran, facts⟩ := run_playThirtyFps
  obtain ⟨returned, reached⟩ := Prod.mk.inj facts
  have far := near playThirtyFps state ⟨16, 0⟩ ⟨128, 108000⟩ ran (by rw [returned]; decide)
    (by rw [returned]; rfl) (by rw [returned]; rfl)
  unfold NearTimestamps at far
  rw [reached, abs_le] at far
  exact absurd far.1 (by norm_num [UInt32.toNat])

end SharedSync

end RtpPlayer
