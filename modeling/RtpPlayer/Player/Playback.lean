import RtpPlayer.Decoders.AudioDecoder
import RtpPlayer.Decoders.VideoFrames
import RtpPlayer.Foundations.Transitions

/-! # The player at work

The threads of a `VideoPlayer` and an `AudioPlayer` that were built: two clients, two tasks and two
renderers, which share one `AVSync` and, once it is set, the clock of the sound.  An action is what
a thread does up to the end of its next section under `AVSync::m_lock`. -/

namespace RtpPlayer

open Foundations

/-- Where the thread of the pictures is in `push_video`. -/
inductive PushingVideo where
  | outside
  /-- Behind the section that queues the frame. -/
  | queued
  /-- Behind the section that measures. -/
  | measured (latency : Int32)
  deriving DecidableEq

/-- A stream of pictures `σ`, a decoder `β` for them, and an Opus decoder `α`. -/
structure Playback (σ α β : Type) where
  video : MediaPath σ β VideoSurface (Plane → Option (Memory UInt8)) VideoOut
    (VideoSurface × Bool) Upload
  audio : MediaPath AudioStream (OpusDecContext α) AudioDecPcm (Memory Int16) AudioOut AudioCall
    AudioEvent
  sync : AVSync
  pushing : PushingVideo

namespace Playback

inductive Action where
  /-- What the clients and the tasks do besides `on_media_frame`. -/
  | videoStream (action : StreamTask.Action)
  | audioStream (action : StreamTask.Action)
  /-- `on_media_frame` up to the first section of `push_video`, with what `malloc` answers. -/
  | decodeImage (malloc : Plane → Option (Memory UInt8))
  | measureLatency
  | stopBuffering
  /-- `on_media_frame`, with what is behind the copy of the samples. -/
  | decodePcm (beyond : Memory Int16)
  | setClock (clock : Option AVClock)
  /-- `timerMs` is what the internal timer would answer when it is read. -/
  | videoFrame (timerMs : Int32)
  | audioFrame
  /-- `on_frame` of the renderers. -/
  | renderImage (initSucceeds : Bool)
  | renderPcm (found : Bool × (Bool → Memory Int16))

namespace Action

/-- What the action does to the task of the pictures. -/
def video : Action → Option StreamTask.Action
  | videoStream action => some action
  | decodeImage _ => some .onMediaFrame
  | _ => none

def audio : Action → Option StreamTask.Action
  | audioStream action => some action
  | decodePcm _ => some .onMediaFrame
  | _ => none

end Action

variable {σ α β : Type}

def create (videoClient audioClient : RtpClient) (videoStream : StreamObject σ)
    (audioStream : StreamObject AudioStream) (imageDecoder : β) (pcmDecoder : OpusDecContext α)
    (audioOut : AudioOut) : Playback σ α β where
  video := .create videoClient videoStream imageDecoder .create
  audio := .create audioClient audioStream pcmDecoder audioOut
  sync := .create
  pushing := .outside

/-- `m_clock->clock_ms()`, which `video_frame` reads behind the restart of a schedule that has not
begun. -/
def clockMs (playback : Playback σ α β) (timerMs : Int32) : Int32 :=
  match playback.sync.clock with
  | some (.audioOut _) =>
    if playback.sync.videoDuration = 0 then playback.audio.renderer.stopClock.clockMs
    else playback.audio.renderer.clockMs
  | _ => timerMs

variable (library : OpusLibrary α) (dfDecode : DfDecode β)

/-- `stop_clock` and `start_clock` on the clock of a call; `start_clock` of a renderer does nothing.
-/
def restart (playback : Playback σ α β) : Option AVClock → Playback σ α β
  | some (.audioOut _) =>
    { playback with audio := playback.audio.call (AudioDecoder.side library) .stopClock }
  | _ => playback

variable [OnRtpPacket σ]

def step (playback : Playback σ α β) : Action → Option (Playback σ α β)
  | .videoStream action =>
    match action, playback.pushing with
    -- the thread of the task is in `push_video`, that of the client is not
    | .receive .., _ | _, .outside =>
      (playback.video.stream action).map fun video => { playback with video := video }
    | _, _ => none
  | .audioStream action =>
    (playback.audio.stream action).map fun audio => { playback with audio := audio }
  | .decodeImage malloc =>
    (playback.video.onMediaFrame (VideoDecoder.side dfDecode) malloc).map fun (video, pushed) =>
      match pushed with
      | none => { playback with video := video }
      | some frame =>
        { playback with
          video := video, sync := playback.sync.push .video frame, pushing := .queued }
  | .measureLatency =>
    match playback.pushing with
    | .queued => some { playback with pushing := .measured playback.sync.videoLatencyMs }
    | _ => none
  | .stopBuffering =>
    match playback.pushing with
    | .measured latency =>
      some { playback with sync := playback.sync.stopBuffering latency, pushing := .outside }
    | _ => none
  | .decodePcm beyond =>
    (playback.audio.onMediaFrame (AudioDecoder.side library) beyond).map fun (audio, pushed) =>
      match pushed with
      | none => { playback with audio := audio }
      | some frame => { playback with audio := audio, sync := playback.sync.push .audio frame }
  | .setClock clock => some { playback with sync := playback.sync.setClock clock }
  | .videoFrame timerMs =>
    match playback.video.rendering with
    | some _ => none
    | none =>
      (playback.sync.getFrame .video (playback.clockMs timerMs)).map fun call =>
        { playback with
          sync := call.sync
          video := { playback.video with rendering := call.frame } }.restart library call.restarted
  | .audioFrame =>
    match playback.audio.rendering with
    | some _ => none
    | none =>
      (playback.sync.getFrame .audio 0).map fun call =>
        { playback with
          sync := call.sync, audio := { playback.audio with rendering := call.frame } }
  | .renderImage initSucceeds =>
    (playback.video.onFrame (VideoDecoder.side dfDecode) initSucceeds).map fun video =>
      { playback with video := video }
  | .renderPcm found =>
    (playback.audio.onFrame (AudioDecoder.side library) found).map fun audio =>
      { playback with audio := audio }

def system : Transitions (Playback σ α β) Action where
  step := step library dfDecode

variable {library dfDecode} in
/-- What a thread of the stream does, it does whatever `push_video` is at. -/
theorem videoStream_step {playback next : Playback σ α β} {action : StreamTask.Action}
    (stepped : playback.step library dfDecode (.videoStream action) = some next) :
    ∃ video, playback.video.stream action = some video ∧
      next = { playback with video := video } := by
  have goes : (playback.video.stream action).map
      (fun video => { playback with video := video }) = some next := by
    simp only [step] at stepped
    split at stepped
    · exact stepped
    · exact stepped
    · cases stepped
  obtain ⟨video, streamed, rfl⟩ := Option.map_eq_some_iff.mp goes
  exact ⟨video, streamed, rfl⟩

end Playback

end RtpPlayer
