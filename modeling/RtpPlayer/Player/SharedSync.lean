import RtpPlayer.Foundations.Transitions
import RtpPlayer.Player.AVSync

/-! # The synchroniser and its threads

The threads that push, pop and release frames take turns at the lock of the synchroniser; a run is
one order of their sections.  Beside the synchroniser and the reference counts the state says who
holds a reference, and logs what was pushed, returned and discarded. -/

namespace RtpPlayer

open Foundations

/-- Where a thread is in `push_video` between two sections. -/
inductive PushVideo where
  | measuring
  | deciding (latency : Int32)
  deriving DecidableEq

structure SharedSync where
  sync : AVSync
  destroyed : Bool
  refCount : References AVFrame
  /-- The references of the producers. -/
  produced : List (Nat × AVFrame)
  /-- The producers that are inside `push_video`. -/
  pushing : List (Nat × PushVideo)
  /-- The references of the consumers, one for each frame returned and not released. -/
  handedOut : List (Nat × AVFrame)
  pushedVideo : List AVFrame
  pushedAudio : List AVFrame
  returnedVideo : List AVFrame
  returnedAudio : List AVFrame
  discardedVideo : List AVFrame
  discardedAudio : List AVFrame
  /-- The clock on which `video_frame` did `stop_clock()` and `start_clock(0)` last. -/
  origin : Option AVClock

namespace SharedSync

def create : SharedSync where
  sync := .create
  destroyed := false
  refCount := fun _ => 0
  produced := []
  pushing := []
  handedOut := []
  pushedVideo := []
  pushedAudio := []
  returnedVideo := []
  returnedAudio := []
  discardedVideo := []
  discardedAudio := []
  origin := none

inductive Action where
  | create (producer : Nat) (frame : AVFrame)
  | addRef (holder producer : Nat) (frame : AVFrame)
  | release (producer : Nat) (frame : AVFrame)
  | queueVideo (producer : Nat) (frame : AVFrame)
  | measureLatency (producer : Nat)
  | stopBuffering (producer : Nat) (latency : Int32)
  | pushAudio (producer : Nat) (frame : AVFrame)
  | videoFrame (consumer : Nat) (clockMs : Int32)
  | audioFrame (consumer : Nat)
  | releaseFrame (consumer : Nat) (frame : AVFrame)
  | setClock (clock : Option AVClock)
  | destroy

/-- The producer is outside `push_video`. -/
def Outside (state : SharedSync) (producer : Nat) : Prop :=
  ∀ thread ∈ state.pushing, thread.1 ≠ producer

instance (state : SharedSync) (producer : Nat) : Decidable (state.Outside producer) :=
  inferInstanceAs (Decidable (∀ thread ∈ state.pushing, thread.1 ≠ producer))

/-- The frame that a call returns is from then on held by the consumer. -/
def handOut (state : SharedSync) (consumer : Nat) (call : AVSync.FrameCall) : SharedSync :=
  { state with
    sync := call.sync
    handedOut := (call.frame.toList.map fun frame => (consumer, frame)) ++ state.handedOut
    origin := call.restarted <|> state.origin }

def step (state : SharedSync) : Action → Option SharedSync
  | .create producer frame =>
    -- a new frame has the reference of its producer
    if state.refCount frame = 0 ∧ state.Outside producer then
      some { state with
        refCount := state.refCount.addRef frame, produced := (producer, frame) :: state.produced }
    else none
  | .addRef holder producer frame =>
    if (holder, frame) ∈ state.produced then
      some { state with
        refCount := state.refCount.addRef frame, produced := (producer, frame) :: state.produced }
    else none
  | .release producer frame =>
    if (producer, frame) ∈ state.produced ∧ state.Outside producer then
      some { state with
        refCount := state.refCount.release frame
        produced := state.produced.erase (producer, frame) }
    else none
  | .queueVideo producer frame =>
    if ¬ state.destroyed ∧ (producer, frame) ∈ state.produced ∧ state.Outside producer then
      some { state with
        sync := state.sync.queueVideo frame
        refCount := state.refCount.addRef frame
        pushing := (producer, .measuring) :: state.pushing
        pushedVideo := state.pushedVideo ++ [frame] }
    else none
  | .measureLatency producer =>
    if ¬ state.destroyed ∧ (producer, .measuring) ∈ state.pushing then
      some { state with
        pushing := (producer, .deciding state.sync.videoLatencyMs) ::
          state.pushing.erase (producer, .measuring) }
    else none
  | .stopBuffering producer latency =>
    if ¬ state.destroyed ∧ (producer, .deciding latency) ∈ state.pushing then
      some { state with
        sync := state.sync.stopBuffering latency
        pushing := state.pushing.erase (producer, .deciding latency) }
    else none
  | .pushAudio producer frame =>
    if ¬ state.destroyed ∧ (producer, frame) ∈ state.produced ∧ state.Outside producer then
      some { state with
        sync := state.sync.pushAudio frame
        refCount := state.refCount.addRef frame
        pushedAudio := state.pushedAudio ++ [frame] }
    else none
  | .videoFrame consumer clockMs =>
    if ¬ state.destroyed then
      (state.sync.videoFrame clockMs).map fun call =>
        { state.handOut consumer call with
          returnedVideo := state.returnedVideo ++ call.frame.toList }
    else none
  | .audioFrame consumer =>
    if ¬ state.destroyed then
      some { state.handOut consumer state.sync.audioFrame with
        returnedAudio := state.returnedAudio ++ state.sync.audioFrame.frame.toList }
    else none
  | .releaseFrame consumer frame =>
    if ¬ state.destroyed ∧ (consumer, frame) ∈ state.handedOut then
      some { state with
        refCount := state.refCount.release frame
        handedOut := state.handedOut.erase (consumer, frame) }
    else none
  | .setClock clock =>
    if ¬ state.destroyed then some { state with sync := state.sync.setClock clock } else none
  | .destroy =>
    if ¬ state.destroyed ∧ state.pushing = [] then
      some { state with
        sync := (state.sync.destroy state.refCount).1
        destroyed := true
        refCount := (state.sync.destroy state.refCount).2
        discardedVideo := state.sync.videoFrames
        discardedAudio := state.sync.audioFrames }
    else none

/-- The order in which the threads take their sections is the list of actions. -/
def system : Transitions SharedSync Action where
  step := step

end SharedSync

end RtpPlayer
