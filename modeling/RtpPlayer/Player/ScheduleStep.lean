import RtpPlayer.Foundations.Wrapping
import RtpPlayer.Player.AVSync

/-! # One step of the schedule

When `video_frame` releases the front of the queue, for every pair of timestamps.  The step from
the last frame is multiplied by 1000 as an unsigned number: a step back wraps, and one of 48
seconds. -/

namespace RtpPlayer

open Foundations

/-- `ms` is what so many ticks of the video clock take, rounded up or down. -/
def RoundsTicks (ms ticks : Int) : Prop := (ms * 90000 - ticks * 1000).natAbs < 90000

/-- The milliseconds of so many ticks, rounded up. -/
def ceilMs (ticks : Int) : Int := -(-ticks / 90)

namespace AVSync

/-- The schedule runs and `front` is next. -/
structure Runs (sync : AVSync) (front : AVFrame) : Prop where
  queued : sync.videoFrames.head? = some front
  playing : sync.buffering = false
  clocked : sync.clock.isSome
  started : sync.videoDuration ≠ 0

/-- Where the clock stands at `due` or later, and only there, the front is released, and `due` is
then what the schedule has reached. -/
def ReleasesAt (sync : AVSync) (front : AVFrame) (due : Int) : Prop :=
  ∀ clockMs : Int32, 0 ≤ clockMs.toInt → ∃ call, sync.videoFrame clockMs = some call ∧
    (call.frame = some front ↔ due ≤ clockMs.toInt) ∧
      (call.frame = some front → (call.sync.videoDuration.toNat : Int) = due)

/-- The front is due as long after the last frame as their timestamps say. -/
def FollowsTimestamps (sync : AVSync) (front : AVFrame) : Prop :=
  0 ≤ sync.videoDuration.toNat + ceilMs (signedStep sync.lastVideoTs front.pts) →
    ∃ ms, RoundsTicks ms (signedStep sync.lastVideoTs front.pts) ∧
      0 ≤ sync.videoDuration.toNat + ms ∧
        sync.ReleasesAt front (sync.videoDuration.toNat + ms)

/-! ## When the front is released -/

variable {sync : AVSync} {front : AVFrame}

theorem clock_toNat {clockMs : Int32} (nonneg : 0 ≤ clockMs.toInt) :
    (clockMs.toUInt32.toNat : Int) = clockMs.toInt := by
  have wraps := toInt_emod clockMs
  have bound := clockMs.toInt_lt
  omega

theorem Runs.videoFrame (runs : sync.Runs front) (clockMs : Int32) :
    ∃ call, sync.videoFrame clockMs = some call ∧
      (call.frame = some front ↔
        sync.videoDuration + sync.duration front ≤ clockMs.toUInt32) ∧
      (call.frame = some front →
        call.sync.videoDuration = sync.videoDuration + sync.duration front) := by
  obtain ⟨clock, clocked⟩ := Option.isSome_iff_exists.mp runs.clocked
  obtain ⟨rest, queued⟩ := List.head?_eq_some_iff.mp runs.queued
  have scheduled : sync.startSchedule front = sync := if_neg runs.started
  simp only [AVSync.videoFrame, queued, clocked, runs.playing, scheduled, Bool.false_eq_true,
    if_false, Option.map_some, Option.some.injEq, exists_eq_left']
  split
  next due => exact ⟨iff_of_true rfl due, fun _ => rfl⟩
  next early => exact ⟨iff_of_false (by simp) early, fun released => by cases released⟩

/-- When the front is due by the arithmetic of the code. -/
theorem due_toNat (sync : AVSync) (front : AVFrame) :
    ((sync.videoDuration + sync.duration front).toNat : Int) =
      (sync.videoDuration.toNat + scaled (signedStep sync.lastVideoTs front.pts) 1000 90000) %
        2 ^ 32 := by
  rw [UInt32.toNat_add, Int.natCast_emod, Int.natCast_add, duration, mul_div_toNat]
  rfl

theorem Runs.releasesAt_iff (runs : sync.Runs front) {due : Int} (nonneg : 0 ≤ due) :
    sync.ReleasesAt front due ↔
      due = (sync.videoDuration + sync.duration front).toNat ∨
        2 ^ 31 ≤ due ∧ 2 ^ 31 ≤ ((sync.videoDuration + sync.duration front).toNat : Int) := by
  generalize wrapped_eq : sync.videoDuration + sync.duration front = wrapped
  have at_clock (clockMs : Int32) (shown : 0 ≤ clockMs.toInt) :
      wrapped ≤ clockMs.toUInt32 ↔ (wrapped.toNat : Int) ≤ clockMs.toInt := by
    rw [← clock_toNat shown, UInt32.le_iff_toNat_le, Int.ofNat_le]
  constructor
  · intro releases
    -- both dues that a clock can show have to be the same
    have shows {ms : Int} (within : 0 ≤ ms) (short : ms < 2 ^ 31) :
        ((wrapped.toNat : Int) ≤ ms ↔ due ≤ ms) ∧
          ((wrapped.toNat : Int) ≤ ms → (wrapped.toNat : Int) = due) := by
      have shows_ms : (Int32.ofInt ms).toInt = ms := Int32.toInt_ofInt_of_le (by omega) short
      have shown : 0 ≤ (Int32.ofInt ms).toInt := by rw [shows_ms]; exact within
      obtain ⟨call, called, released, reached⟩ := releases (Int32.ofInt ms) shown
      obtain ⟨call', called', released', reached'⟩ := runs.videoFrame (Int32.ofInt ms)
      obtain rfl := Option.some.inj (called.symm.trans called')
      rw [wrapped_eq, at_clock _ shown, shows_ms] at released'
      rw [shows_ms] at released
      refine ⟨released'.symm.trans released, fun later => ?_⟩
      rw [← reached (released'.mpr later), reached' (released'.mpr later), wrapped_eq]
    by_cases short : (wrapped.toNat : Int) < 2 ^ 31
    · exact .inl ((shows (Int.natCast_nonneg _) short).2 (Int.le_refl _)).symm
    · -- no clock reaches the wrapped due, so none may reach the due either
      refine .inr ⟨?_, Int.not_lt.mp short⟩
      by_contra sooner
      have := (shows nonneg (Int.not_le.mp sooner)).1.mpr (Int.le_refl _)
      omega
  · intro same clockMs shown
    obtain ⟨call, called, released, reached⟩ := runs.videoFrame clockMs
    rw [wrapped_eq, at_clock clockMs shown] at released
    rw [wrapped_eq] at reached
    refine ⟨call, called, ?_, ?_⟩
    · have below := clockMs.toInt_lt
      rw [released]
      omega
    · intro out
      have later := released.mp out
      have below := clockMs.toInt_lt
      rw [reached out]
      omega

/-! ## Where the arithmetic is right -/

/-- The step goes ahead and neither its product by 1000 nor the time it leads to wraps. -/
def StepFits (sync : AVSync) (front : AVFrame) : Prop :=
  let ticks := signedStep sync.lastVideoTs front.pts
  0 ≤ ticks ∧ ticks * 1000 < 2 ^ 32 ∧ sync.videoDuration.toNat + ticks / 90 < 2 ^ 32

/-- The front would be due before the start of the schedule. -/
def DueBeforeStart (sync : AVSync) (front : AVFrame) : Prop :=
  sync.videoDuration.toNat + ceilMs (signedStep sync.lastVideoTs front.pts) < 0

/-- Neither when the front is due nor when the wrapped product says can be shown by the clock. -/
def DueBeyondClock (sync : AVSync) (front : AVFrame) : Prop :=
  let ticks := signedStep sync.lastVideoTs front.pts
  2 ^ 31 ≤ sync.videoDuration.toNat + ceilMs ticks ∧
    2 ^ 31 ≤ (sync.videoDuration.toNat + scaled ticks 1000 90000) % 2 ^ 32

/-- What the code adds is a rounding of the step only where nothing wraps. -/
theorem fits_of_rounds {reached ticks ms : Int} (started : 0 ≤ reached)
    (below : reached < 2 ^ 32) (lower : -2 ^ 31 ≤ ticks) (upper : ticks < 2 ^ 31)
    (rounds : RoundsTicks ms ticks)
    (same : reached + ms = (reached + scaled ticks 1000 90000) % 2 ^ 32) :
    0 ≤ ticks ∧ ticks * 1000 < 2 ^ 32 ∧ reached + ticks / 90 < 2 ^ 32 := by
  unfold scaled at same
  unfold RoundsTicks at rounds
  generalize turns_eq : ticks * 1000 / 2 ^ 32 = turns
  generalize rest_eq : ticks * 1000 % 2 ^ 32 = rest at same
  -- the rounding is within a millisecond, and a turn is worth 47721 of them
  have product : ticks * 1000 = 2 ^ 32 * turns + rest := by omega
  have whole : rest / 90000 ≤ 47721 := by omega
  have positive : 0 ≤ rest / 90000 := by omega
  have straight : ms = rest / 90000 := by omega
  have noTurn : turns = 0 := by omega
  omega

theorem followsTimestamps_iff (runs : sync.Runs front) :
    sync.FollowsTimestamps front ↔
      sync.StepFits front ∨ sync.DueBeforeStart front ∨ sync.DueBeyondClock front := by
  have bounds := signedStep_bounds sync.lastVideoTs front.pts
  have below := sync.videoDuration.toNat_lt
  have wrapped := due_toNat sync front
  unfold FollowsTimestamps StepFits DueBeforeStart DueBeyondClock
  generalize signedStep sync.lastVideoTs front.pts = ticks at bounds wrapped ⊢
  generalize sync.videoDuration.toNat = reached at below wrapped ⊢
  constructor
  · intro follows
    -- a frame that is due before the start is under no condition
    by_cases before : (reached : Int) + ceilMs ticks < 0
    · exact .inr (.inl before)
    obtain ⟨ms, rounds, nonneg, releases⟩ := follows (Int.not_lt.mp before)
    rcases (runs.releasesAt_iff nonneg).mp releases with same | ⟨late, wrappedLate⟩
    · rw [wrapped] at same
      exact .inl (fits_of_rounds (Int.natCast_nonneg _) (by omega) bounds.1 bounds.2 rounds same)
    · rw [wrapped] at wrappedLate
      refine .inr (.inr ⟨?_, wrappedLate⟩)
      unfold RoundsTicks at rounds
      unfold ceilMs
      omega
  · rintro (⟨ahead, product, fits⟩ | before | ⟨late, wrappedLate⟩) notBefore
    · refine ⟨ticks / 90, ?_, by omega, ?_⟩
      · unfold RoundsTicks
        omega
      · refine (runs.releasesAt_iff (by omega)).mpr (.inl ?_)
        -- nothing is cut off in the product, so that the step is the rounded one
        have straight : scaled ticks 1000 90000 = ticks / 90 := by
          rw [scaled, Int.emod_eq_of_lt (by omega) product]
          omega
        rw [wrapped, straight, Int.emod_eq_of_lt (by omega) fits]
    · omega
    · refine ⟨ceilMs ticks, ?_, notBefore, ?_⟩
      · unfold RoundsTicks ceilMs
        omega
      · exact (runs.releasesAt_iff notBefore).mpr (.inr ⟨late, by rw [wrapped]; exact wrappedLate⟩)

/-- The front of this schedule is 90 ticks behind the last frame, which was due at 40 ms. -/
def afterReordering : AVSync where
  videoFrames := [⟨16, 0⟩]
  audioFrames := []
  lastVideoTs := 90
  videoDuration := 40
  clock := some .avTimer
  avTimer := some .avTimer
  buffering := false

theorem followsTimestamps_inOrder :
    { afterReordering with lastVideoTs := 0 }.Runs ⟨16, 0⟩ ∧
      ({ afterReordering with lastVideoTs := 0 }.FollowsTimestamps ⟨16, 0⟩ ↔
        { afterReordering with lastVideoTs := 0 }.StepFits ⟨16, 0⟩ ∨
          { afterReordering with lastVideoTs := 0 }.DueBeforeStart ⟨16, 0⟩ ∨
            { afterReordering with lastVideoTs := 0 }.DueBeyondClock ⟨16, 0⟩) := by
  have runs : { afterReordering with lastVideoTs := 0 }.Runs ⟨16, 0⟩ :=
    ⟨rfl, rfl, rfl, by decide⟩
  exact ⟨runs, followsTimestamps_iff runs⟩

theorem afterReordering_stalls :
    ¬ ∀ (sync : AVSync) (front : AVFrame), sync.Runs front → sync.FollowsTimestamps front := by
  intro follows
  have runs : afterReordering.Runs ⟨16, 0⟩ := ⟨rfl, rfl, rfl, by decide⟩
  -- the frame is due at 39 ms, where the clock shows 40 already
  obtain ⟨ms, rounds, nonneg, releases⟩ := follows _ _ runs (by decide)
  have reached : (afterReordering.videoDuration + afterReordering.duration ⟨16, 0⟩).toNat = 47760 :=
    by decide
  have step : signedStep afterReordering.lastVideoTs 0 = -90 := by decide
  have due := (runs.releasesAt_iff nonneg).mp releases
  rw [reached] at due
  rw [RoundsTicks, step] at rounds
  have started : afterReordering.videoDuration.toNat = 40 := rfl
  omega

end AVSync

end RtpPlayer
