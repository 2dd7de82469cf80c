import RtpPlayer.Foundations.References

/-! # The A/V synchroniser

The model of `Player/AVSync`, one definition for every section that runs under `m_lock`.  What a
section does to a frame or a clock is part of what it returns: the reference counts of the frames
and the time of the clocks are not in the synchroniser. -/

namespace RtpPlayer

open Foundations

/-- What an `AVClock` pointer points to: the internal timer or an audio renderer. -/
inductive AVClock where
  | avTimer
  | audioOut (address : Nat)
  deriving DecidableEq

/-- A decoded frame, with the fields that nothing changes while it lives. -/
structure AVFrame where
  address : Nat
  pts : UInt32
  deriving DecidableEq

/-- `RTP_VIDEO_CLOCK` -/
def rtpVideoClock : UInt32 := 90000

structure AVSync where
  videoFrames : List AVFrame
  audioFrames : List AVFrame
  lastVideoTs : UInt32
  videoDuration : UInt32
  /-- `m_clock`, `none` for the null pointer. -/
  clock : Option AVClock
  /-- `m_avtimer`, null once it is deleted. -/
  avTimer : Option AVClock
  buffering : Bool
  deriving DecidableEq

namespace AVSync

/-- The constructor. -/
def create : AVSync where
  videoFrames := []
  audioFrames := []
  lastVideoTs := 0
  videoDuration := 0
  clock := some .avTimer
  avTimer := some .avTimer
  buffering := false

def setClock (sync : AVSync) (clock : Option AVClock) : AVSync :=
  { sync with avTimer := none, clock := clock }

/-! ## Pushing -/

/-- The first section of `push_video`, where the frame gets a reference. -/
def queueVideo (sync : AVSync) (frame : AVFrame) : AVSync :=
  { sync with
    buffering := if sync.videoFrames.length = 0 then true else sync.buffering
    videoFrames := sync.videoFrames ++ [frame] }

def videoLatencyMs (sync : AVSync) : Int32 :=
  match sync.videoFrames.head?, sync.videoFrames.getLast? with
  | some front, some back => ((back.pts - front.pts) / rtpVideoClock * 1000).toInt32
  | _, _ => 0

/-- The last section of `push_video`.  The latency was measured in a section of its own. -/
def stopBuffering (sync : AVSync) (latency : Int32) : AVSync :=
  if sync.buffering ∧ 300 ≤ latency then { sync with buffering := false } else sync

def pushAudio (sync : AVSync) (frame : AVFrame) : AVSync :=
  { sync with audioFrames := sync.audioFrames ++ [frame] }

/-! ## Popping -/

/-- What a call of `video_frame` or `audio_frame` leaves and returns. -/
structure FrameCall where
  sync : AVSync
  /-- The frame that goes to the caller, with the reference of the queue. -/
  frame : Option AVFrame
  idleTime : Int
  /-- The clock on which the call does `stop_clock()` and `start_clock(0)`. -/
  restarted : Option AVClock

/-- The schedule starts with the first frame that is looked at. -/
def startSchedule (sync : AVSync) (front : AVFrame) : AVSync :=
  if sync.videoDuration = 0 then
    { sync with lastVideoTs := front.pts, videoDuration := 40 }
  else
    sync

/-- How long after the last frame this one is due, in milliseconds. -/
def duration (sync : AVSync) (front : AVFrame) : UInt32 :=
  (front.pts - sync.lastVideoTs) * 1000 / rtpVideoClock

/-- The synchroniser once the front of the queue is popped. -/
def pop (sync : AVSync) (front : AVFrame) (rest : List AVFrame) : AVSync :=
  { sync with
    videoFrames := rest
    lastVideoTs := front.pts
    videoDuration := sync.videoDuration + sync.duration front }

/-- `clockMs` is what `m_clock->clock_ms()` answers; `none` where `m_clock` is a null pointer. -/
def videoFrame (sync : AVSync) (clockMs : Int32) : Option FrameCall :=
  match sync.videoFrames, sync.clock with
  | [], _ => some { sync := sync, frame := none, idleTime := 1, restarted := none }
  | front :: rest, clock =>
    if sync.buffering then
      some { sync := sync, frame := none, idleTime := 1, restarted := none }
    else
      clock.map fun clock =>
        let restarted := if sync.videoDuration = 0 then some clock else none
        let sync := sync.startSchedule front
        -- the `int` of the clock is converted to `uint32_t` for the comparison
        if sync.videoDuration + sync.duration front ≤ clockMs.toUInt32 then
          { sync := sync.pop front rest, frame := some front, idleTime := 0
            restarted := restarted }
        else
          { sync := sync, frame := none, idleTime := 1, restarted := restarted }

def audioFrame (sync : AVSync) : FrameCall :=
  match sync.audioFrames with
  | [] => { sync := sync, frame := none, idleTime := 1, restarted := none }
  | front :: rest =>
    if sync.buffering then
      { sync := sync, frame := none, idleTime := 1, restarted := none }
    else
      { sync := { sync with audioFrames := rest }
        frame := some front, idleTime := 0, restarted := none }

/-- The destructor pops both queues empty and releases what it pops. -/
def destroy (sync : AVSync) (refCount : References AVFrame) : AVSync × References AVFrame :=
  ({ sync with videoFrames := [], audioFrames := [], avTimer := none },
    (refCount.releaseAll sync.videoFrames).releaseAll sync.audioFrames)

/-! ## What a call can do -/

theorem startSchedule_eq (sync : AVSync) (front : AVFrame) :
    sync.startSchedule front = { sync with
      lastVideoTs := (sync.startSchedule front).lastVideoTs
      videoDuration := (sync.startSchedule front).videoDuration } := by
  unfold startSchedule
  split <;> rfl

@[simp] theorem startSchedule_videoFrames (sync : AVSync) (front : AVFrame) :
    (sync.startSchedule front).videoFrames = sync.videoFrames := by
  rw [startSchedule_eq]

@[simp] theorem startSchedule_audioFrames (sync : AVSync) (front : AVFrame) :
    (sync.startSchedule front).audioFrames = sync.audioFrames := by
  rw [startSchedule_eq]

@[simp] theorem startSchedule_clock (sync : AVSync) (front : AVFrame) :
    (sync.startSchedule front).clock = sync.clock := by
  rw [startSchedule_eq]

/-- Everything that `video_frame` can do. -/
inductive VideoFrameStep (sync : AVSync) (clockMs : Int32) : FrameCall → Prop where
  | idle : VideoFrameStep sync clockMs
      { sync := sync, frame := none, idleTime := 1, restarted := none }
  | early {front rest clock} (queued : sync.videoFrames = front :: rest)
      (playing : sync.buffering = false) (clocked : sync.clock = some clock)
      (early : clockMs.toUInt32 <
        (sync.startSchedule front).videoDuration + (sync.startSchedule front).duration front) :
      VideoFrameStep sync clockMs
        { sync := sync.startSchedule front, frame := none, idleTime := 1
          restarted := if sync.videoDuration = 0 then some clock else none }
  | due {front rest clock} (queued : sync.videoFrames = front :: rest)
      (playing : sync.buffering = false) (clocked : sync.clock = some clock)
      (due : (sync.startSchedule front).videoDuration + (sync.startSchedule front).duration front ≤
        clockMs.toUInt32) :
      VideoFrameStep sync clockMs
        { sync := (sync.startSchedule front).pop front rest, frame := some front, idleTime := 0
          restarted := if sync.videoDuration = 0 then some clock else none }

theorem videoFrame_step {sync : AVSync} {clockMs : Int32} {call : FrameCall}
    (called : sync.videoFrame clockMs = some call) : VideoFrameStep sync clockMs call := by
  unfold videoFrame at called
  cases queued : sync.videoFrames with
  | nil =>
    simp only [queued, Option.some.injEq] at called
    exact called ▸ .idle
  | cons front rest =>
    cases playing : sync.buffering with
    | true =>
      simp only [queued, playing, if_true, Option.some.injEq] at called
      exact called ▸ .idle
    | false =>
      simp only [queued, playing, Bool.false_eq_true, if_false, Option.map_eq_some_iff] at called
      obtain ⟨clock, clocked, rfl⟩ := called
      split
      · exact .due queued playing clocked ‹_›
      · exact .early queued playing clocked (UInt32.not_le.mp ‹_›)

/-- The frame returned is the front of the queue. -/
theorem videoFrame_queue {sync : AVSync} {clockMs : Int32} {call : FrameCall}
    (called : sync.videoFrame clockMs = some call) :
    call.frame.toList ++ call.sync.videoFrames = sync.videoFrames := by
  cases videoFrame_step called with
  | idle => rfl
  | early queued => simp
  | due queued => simp [pop, queued]

theorem videoFrame_audioFrames {sync : AVSync} {clockMs : Int32} {call : FrameCall}
    (called : sync.videoFrame clockMs = some call) :
    call.sync.audioFrames = sync.audioFrames := by
  cases videoFrame_step called with
  | idle => rfl
  | early queued => simp
  | due queued => simp [pop]

theorem videoFrame_playing {sync : AVSync} {clockMs : Int32} {call : FrameCall}
    (called : sync.videoFrame clockMs = some call) (returned : call.frame ≠ none) :
    sync.buffering = false := by
  cases videoFrame_step called with
  | idle => exact absurd rfl returned
  | early queued => exact absurd rfl returned
  | due queued playing => exact playing

theorem audioFrame_queue (sync : AVSync) :
    sync.audioFrame.frame.toList ++ sync.audioFrame.sync.audioFrames = sync.audioFrames := by
  unfold audioFrame
  cases queued : sync.audioFrames with
  | nil => simp [queued]
  | cons front rest =>
    cases sync.buffering <;> simp [queued]

/-- `audio_frame` touches nothing but its queue. -/
theorem audioFrame_sync (sync : AVSync) :
    sync.audioFrame.sync = { sync with audioFrames := sync.audioFrame.sync.audioFrames } := by
  unfold audioFrame
  split
  · rfl
  · split <;> rfl

@[simp] theorem audioFrame_videoFrames (sync : AVSync) :
    sync.audioFrame.sync.videoFrames = sync.videoFrames := by
  rw [audioFrame_sync]

@[simp] theorem audioFrame_lastVideoTs (sync : AVSync) :
    sync.audioFrame.sync.lastVideoTs = sync.lastVideoTs := by
  rw [audioFrame_sync]

@[simp] theorem audioFrame_videoDuration (sync : AVSync) :
    sync.audioFrame.sync.videoDuration = sync.videoDuration := by
  rw [audioFrame_sync]

theorem audioFrame_playing {sync : AVSync} (returned : sync.audioFrame.frame ≠ none) :
    sync.buffering = false := by
  cases playing : sync.buffering with
  | false => rfl
  | true =>
    unfold audioFrame at returned
    cases queued : sync.audioFrames <;> simp [queued, playing] at returned

theorem stopBuffering_eq (sync : AVSync) (latency : Int32) :
    sync.stopBuffering latency =
      { sync with buffering := (sync.stopBuffering latency).buffering } := by
  unfold stopBuffering
  split <;> rfl

@[simp] theorem stopBuffering_videoFrames (sync : AVSync) (latency : Int32) :
    (sync.stopBuffering latency).videoFrames = sync.videoFrames := by
  rw [stopBuffering_eq]

@[simp] theorem stopBuffering_lastVideoTs (sync : AVSync) (latency : Int32) :
    (sync.stopBuffering latency).lastVideoTs = sync.lastVideoTs := by
  rw [stopBuffering_eq]

@[simp] theorem stopBuffering_videoDuration (sync : AVSync) (latency : Int32) :
    (sync.stopBuffering latency).videoDuration = sync.videoDuration := by
  rw [stopBuffering_eq]

end AVSync

end RtpPlayer
