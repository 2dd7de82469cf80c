import RtpPlayer.Player.Playback
import RtpPlayer.Renders.AudioRefusals
import RtpPlayer.Streams.FrameDelivery

/-! # What the player plays

Whatever the order in which the threads of both players take their sections, each medium goes
through the synchroniser as if the other were not there: what is shown and what is played is a
beginning of what the decoder makes of the stream. -/

namespace RtpPlayer

open Foundations

namespace Playback

/-- Both media flow, each through its own queue of the synchroniser. -/
structure Flows {σ α β : Type} [OnRtpPacket σ] (library : OpusLibrary α) (dfDecode : DfDecode β)
    (start : Playback σ α β) (actions : List Action) (playback : Playback σ α β) : Prop where
  video : playback.video.Flows (VideoDecoder.side dfDecode) start.video.task.client
    start.video.task.stream start.video.decoder start.video.renderer
    (actions.filterMap Action.video) (playback.sync.queue .video)
  audio : playback.audio.Flows (AudioDecoder.side library) start.audio.task.client
    start.audio.task.stream start.audio.decoder start.audio.renderer
    (actions.filterMap Action.audio) (playback.sync.queue .audio)

section

variable {σ α β : Type} [OnRtpPacket σ] {library : OpusLibrary α} {dfDecode : DfDecode β}
  {start playback next : Playback σ α β} {actions : List Action}

theorem flows_create (videoClient audioClient : RtpClient) (videoStream : StreamObject σ)
    (audioStream : StreamObject AudioStream) (imageDecoder : β) (pcmDecoder : OpusDecContext α)
    (audioOut : AudioOut) :
    let start := create videoClient audioClient videoStream audioStream imageDecoder pcmDecoder
      audioOut
    Flows library dfDecode start [] start where
  video := MediaPath.flows_create ..
  audio := MediaPath.flows_create ..

theorem queue_stopBuffering (kind : StreamKind) (sync : AVSync) (latency : Int32) :
    (sync.stopBuffering latency).queue kind = sync.queue kind := by
  rw [AVSync.stopBuffering_eq]
  cases kind <;> rfl

theorem queue_setClock (kind : StreamKind) (sync : AVSync) (clock : Option AVClock) :
    (sync.setClock clock).queue kind = sync.queue kind := by
  cases kind <;> rfl

/-- What the action brings to each of the tasks. -/
theorem flows_concat {action : Action}
    (video : next.video.Flows (VideoDecoder.side dfDecode) start.video.task.client
      start.video.task.stream start.video.decoder start.video.renderer
      (actions.filterMap Action.video ++ action.video.toList) (next.sync.queue .video))
    (audio : next.audio.Flows (AudioDecoder.side library) start.audio.task.client
      start.audio.task.stream start.audio.decoder start.audio.renderer
      (actions.filterMap Action.audio ++ action.audio.toList) (next.sync.queue .audio)) :
    Flows library dfDecode start (actions ++ [action]) next := by
  have concat : ∀ {γ : Type} (select : Action → Option γ),
      (actions ++ [action]).filterMap select =
        actions.filterMap select ++ (select action).toList := by
    intro γ select
    rw [List.filterMap_append]
    cases selected : select action with
    | none => rw [List.filterMap_cons_none selected]; rfl
    | some _ => rw [List.filterMap_cons_some selected]; rfl
  constructor
  case video =>
    rw [concat]
    exact video
  case audio =>
    rw [concat]
    exact audio

theorem Flows.videoIdle (flows : Flows library dfDecode start actions playback) :
    playback.video.Flows (VideoDecoder.side dfDecode) start.video.task.client
      start.video.task.stream start.video.decoder start.video.renderer
      (actions.filterMap Action.video ++ []) (playback.sync.queue .video) := by
  rw [List.append_nil]
  exact flows.video

theorem Flows.audioIdle (flows : Flows library dfDecode start actions playback) :
    playback.audio.Flows (AudioDecoder.side library) start.audio.task.client
      start.audio.task.stream start.audio.decoder start.audio.renderer
      (actions.filterMap Action.audio ++ []) (playback.sync.queue .audio) := by
  rw [List.append_nil]
  exact flows.audio

theorem Flows.decodeImage (flows : Flows library dfDecode start actions playback)
    {malloc : Plane → Option (Memory UInt8)}
    (stepped : playback.step library dfDecode (.decodeImage malloc) = some next) :
    Flows library dfDecode start (actions ++ [.decodeImage malloc]) next := by
  simp only [Playback.step, Option.map_eq_some_iff] at stepped
  obtain ⟨⟨video, pushed⟩, decoded, rfl⟩ := stepped
  have flowed := flows.video.onMediaFrame decoded
  cases pushed with
  | none =>
    rw [Option.toList_none, List.append_nil] at flowed
    exact flows_concat flowed flows.audioIdle
  | some frame =>
    apply flows_concat
    · rw [AVSync.queue_push]
      exact flowed
    · rw [AVSync.queue_push, if_neg (by simp), List.append_nil]
      exact flows.audioIdle

theorem Flows.decodePcm (flows : Flows library dfDecode start actions playback)
    {beyond : Memory Int16}
    (stepped : playback.step library dfDecode (.decodePcm beyond) = some next) :
    Flows library dfDecode start (actions ++ [.decodePcm beyond]) next := by
  simp only [Playback.step, Option.map_eq_some_iff] at stepped
  obtain ⟨⟨audio, pushed⟩, decoded, rfl⟩ := stepped
  have flowed := flows.audio.onMediaFrame decoded
  cases pushed with
  | none =>
    rw [Option.toList_none, List.append_nil] at flowed
    exact flows_concat flows.videoIdle flowed
  | some frame =>
    apply flows_concat
    · rw [AVSync.queue_push, if_neg (by simp), List.append_nil]
      exact flows.videoIdle
    · rw [AVSync.queue_push]
      exact flowed

omit [OnRtpPacket σ] in
/-- Restarting the clock may call the renderer of the sound, and does nothing else. -/
theorem restart_cases (library : OpusLibrary α) (playback : Playback σ α β)
    (clock : Option AVClock) :
    playback.restart library clock = playback ∨
      playback.restart library clock =
        { playback with audio := playback.audio.call (AudioDecoder.side library) .stopClock } := by
  unfold restart
  split
  · exact .inr rfl
  · exact .inl rfl

theorem Flows.videoFrame (flows : Flows library dfDecode start actions playback)
    {timerMs : Int32} (stepped : playback.step library dfDecode (.videoFrame timerMs) = some next) :
    Flows library dfDecode start (actions ++ [.videoFrame timerMs]) next := by
  simp only [Playback.step] at stepped
  split at stepped
  case h_1 => cases stepped
  case h_2 idle =>
    simp only [Option.map_eq_some_iff] at stepped
    obtain ⟨call, called, rfl⟩ := stepped
    have video := flows.videoIdle.getFrame idle (AVSync.getFrame_queue called)
    have audio := flows.audioIdle
    rw [← @AVSync.getFrame_other .video .audio _ _ _ called (by simp)] at audio
    rcases restart_cases library { playback with
        sync := call.sync, video := { playback.video with rendering := call.frame } }
        call.restarted with same | stopped
    · rw [same]
      exact flows_concat video audio
    · rw [stopped]
      exact flows_concat video (audio.command rfl)

theorem Flows.audioFrame (flows : Flows library dfDecode start actions playback)
    (stepped : playback.step library dfDecode .audioFrame = some next) :
    Flows library dfDecode start (actions ++ [.audioFrame]) next := by
  simp only [Playback.step] at stepped
  split at stepped
  case h_1 => cases stepped
  case h_2 idle =>
    simp only [Option.map_eq_some_iff] at stepped
    obtain ⟨call, called, rfl⟩ := stepped
    have audio := flows.audioIdle.getFrame idle (AVSync.getFrame_queue called)
    have video := flows.videoIdle
    rw [← @AVSync.getFrame_other .audio .video _ _ _ called (by simp)] at video
    exact flows_concat video audio

theorem Flows.step (flows : Flows library dfDecode start actions playback) {action : Action}
    (stepped : playback.step library dfDecode action = some next) :
    Flows library dfDecode start (actions ++ [action]) next := by
  cases action with
  | videoStream action =>
    obtain ⟨video, streamed, rfl⟩ := videoStream_step stepped
    exact flows_concat (flows.video.stream streamed) flows.audioIdle
  | audioStream action =>
    obtain ⟨audio, streamed, rfl⟩ := Option.map_eq_some_iff.mp stepped
    exact flows_concat flows.videoIdle (flows.audio.stream streamed)
  | decodeImage malloc => exact flows.decodeImage stepped
  | measureLatency =>
    simp only [Playback.step] at stepped
    split at stepped
    · cases stepped
      exact flows_concat flows.videoIdle flows.audioIdle
    · cases stepped
  | stopBuffering =>
    simp only [Playback.step] at stepped
    split at stepped
    · cases stepped
      apply flows_concat
      · rw [queue_stopBuffering]
        exact flows.videoIdle
      · rw [queue_stopBuffering]
        exact flows.audioIdle
    · cases stepped
  | decodePcm beyond => exact flows.decodePcm stepped
  | setClock clock =>
    cases stepped
    apply flows_concat
    · rw [queue_setClock]
      exact flows.videoIdle
    · rw [queue_setClock]
      exact flows.audioIdle
  | videoFrame timerMs => exact flows.videoFrame stepped
  | audioFrame => exact flows.audioFrame stepped
  | renderImage initSucceeds =>
    obtain ⟨video, rendered, rfl⟩ := Option.map_eq_some_iff.mp stepped
    exact flows_concat (flows.videoIdle.onFrame rendered) flows.audioIdle
  | renderPcm found =>
    obtain ⟨audio, rendered, rfl⟩ := Option.map_eq_some_iff.mp stepped
    exact flows_concat flows.videoIdle (flows.audioIdle.onFrame rendered)

theorem flows_of_run (ran : (system library dfDecode).run start actions = some playback)
    (begun : Flows library dfDecode start [] start) :
    Flows library dfDecode start actions playback := by
  have keeps : ∀ past state action next, Flows library dfDecode start past state →
      (system library dfDecode).step state action = some next →
      Flows library dfDecode start (past ++ [action]) next :=
    fun _ _ _ _ flows stepped => flows.step stepped
  exact (system library dfDecode).run_history begun keeps ran

/-! ## Sound -/

/-- Nothing of the sound is left between the task and the renderer. -/
def SoundIdle (playback : Playback σ α β) : Prop :=
  playback.audio.rendering = none ∧ playback.sync.audioFrames = []

/-- The samples of the frames that came before the device opened. -/
def missed (playback : Playback σ α β) : List Int16 :=
  (AudioOut.missedFrames playback.audio.calls).flatMap AudioOut.samplesOf

/-- The samples are those that came before the device opened, those that the player was given in
whole half buffers, those that are held back in one, and those that are yet to come. -/
structure Sounds (samples : List Int16) (playback : Playback σ α β) (later : List Int16) :
    Prop where
  stream : playback.missed ++ (playback.audio.output.flatMap AudioEvent.played ++
    playback.audio.renderer.heldBack) ++ later = samples
  sizes : ∀ half block, .enqueue half block ∈ playback.audio.output →
    block.length = AudioOut.blockSamples opusFullband OpusLibrary.channels
  heldBack : playback.audio.renderer.heldBack.length <
    AudioOut.blockSamples opusFullband OpusLibrary.channels
  quiet : QuietWhilePlaying playback.audio.output

theorem Flows.formed (flows : Flows library dfDecode start actions playback)
    (fullband : start.audio.decoder.Fullband) :
    ∀ call ∈ playback.audio.calls,
      AudioOut.OfFormat opusFullband OpusLibrary.channels call := by
  intro call member
  cases call with
  | stopClock => trivial
  | onFrame frame opensl allocated =>
    have shown : frame ∈ playback.audio.shown (AudioDecoder.side library) :=
      List.mem_filterMap.mpr ⟨_, member, rfl⟩
    have pushed := flows.audio.shown_isPrefix.1.subset shown
    have playable := (AudioDecoder.pushed_samples fullband playback.audio.decodes).1 frame pushed
    exact ⟨playable.bitsPerSample, playable.sampleRate, playable.channels⟩

/-- What is heard is a part of the samples of the packets that the task handed over, without a gap.
-/
theorem Flows.sounds (flows : Flows library dfDecode start actions playback)
    (fullband : start.audio.decoder.Fullband) (closed : start.audio.renderer.channels = 0) :
    ∃ later, Sounds (library.samples start.audio.decoder.decoder
        (playback.audio.task.handed.map SentFrame.data)) playback later ∧
      (SoundIdle playback → later = []) := by
  have accepted : AudioOut.opensDevice opusFullband OpusLibrary.channels 16 true = true := by
    decide
  have hears := AudioOut.hears_run accepted closed (flows.formed fullband)
  have output : AudioOut.machine.emissions start.audio.renderer playback.audio.calls =
    playback.audio.output := flows.audio.output.symm
  have renderer : AudioOut.machine.run start.audio.renderer playback.audio.calls =
    playback.audio.renderer := flows.audio.renderer_eq.symm
  rw [output, renderer] at hears
  have frames : playback.audio.shown (AudioDecoder.side library) =
      AudioOut.missedFrames playback.audio.calls ++ AudioOut.heardFrames playback.audio.calls :=
    AudioOut.frames_split _
  -- the blocks that were pushed are those that were missed, were heard or are on their way
  obtain ⟨rest, pushed, waiting⟩ := flows.audio.waiting
  have samples := (@AudioDecoder.pushed_samples _ library _ fullband
    playback.audio.decodes).2
  rw [← flows.audio.pushed, pushed, frames, List.flatMap_append, List.flatMap_append] at samples
  have packets : playback.audio.decodes.map (fun call => call.1.data) =
      playback.audio.task.handed.map SentFrame.data := by
    rw [← flows.audio.decodes, List.map_map]
    rfl
  rw [packets] at samples
  have done : SoundIdle playback → rest = [] := by
    rintro ⟨idle, empty⟩
    have none : playback.audio.rendering.toList ++ playback.sync.queue .audio = [] := by
      rw [idle]
      exact empty
    rw [none] at waiting
    cases rest with
    | nil => rfl
    | cons block rest => cases waiting
  refine ⟨rest.flatMap AudioOut.samplesOf, ?_, fun idle => by rw [done idle]; rfl⟩
  generalize events : playback.audio.output = output at hears
  cases hears with
  | closed none closed =>
    have heldBack : playback.audio.renderer.heldBack = [] := if_pos closed
    constructor
    case stream =>
      rw [events, heldBack]
      rw [AudioOut.heardFrames_of_closed none] at samples
      exact samples
    case sizes =>
      intro half block member
      rw [events] at member
      cases member
    case heldBack =>
      rw [heldBack]
      decide
    case quiet =>
      intro before half block between other index sample after split
      rw [events] at split
      simp at split
  | sounding some sounding =>
    have opened : playback.audio.renderer.channels ≠ 0 := by
      rw [sounding.channels]
      decide
    have heldBack : playback.audio.renderer.heldBack = playback.audio.renderer.pending :=
      if_neg opened
    constructor
    case stream =>
      rw [events, heldBack, sounding.blocked.stream]
      exact samples
    case sizes =>
      intro half block member
      rw [events] at member
      rw [sounding.blocked.sizes half block member, sounding.outBufSamples]
    case heldBack =>
      rw [heldBack, AudioOut.pending, Memory.slice_length, ← sounding.outBufSamples]
      exact sounding.blocked.room
    case quiet =>
      rw [events]
      exact sounding.blocked.waits.quiet

end

end Playback

end RtpPlayer
