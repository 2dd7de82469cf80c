import RtpPlayer.Player.ShownPictures

/-! # Buffering

Pictures that are buffered hold back the sound, and only more pictures let both go on. -/

namespace RtpPlayer

open Foundations

namespace Playback

variable {σ α β : Type} [OnRtpPacket σ] {library : OpusLibrary α} {dfDecode : DfDecode β}
  {playback next : Playback σ α β}

/-- The synchroniser buffers, and no frame has got past it. -/
structure Buffers (playback : Playback σ α β) : Prop where
  buffering : playback.sync.buffering = true
  outside : playback.pushing = .outside
  noImage : playback.video.rendering = none
  noPcm : playback.audio.rendering = none

/-- Nothing has come out since. -/
structure Stalls (playback next : Playback σ α β) : Prop where
  buffers : next.Buffers
  video : next.video.output = playback.video.output
  audio : next.audio.output = playback.audio.output

/-- An action that decodes no picture. -/
def NoPicture : Action → Prop
  | .decodeImage _ => False
  | _ => True

theorem getFrame_of_buffering {kind : StreamKind} {sync : AVSync} {clockMs : Int32}
    {call : AVSync.FrameCall} (buffering : sync.buffering = true)
    (called : sync.getFrame kind clockMs = some call) :
    call.sync = sync ∧ call.frame = none ∧ call.restarted = none := by
  cases kind with
  | video =>
    simp only [AVSync.getFrame, AVSync.videoFrame, buffering, if_true] at called
    split at called <;> cases called <;> exact ⟨rfl, rfl, rfl⟩
  | audio =>
    simp only [AVSync.getFrame, AVSync.audioFrame, buffering, if_true] at called
    split at called <;> cases called <;> exact ⟨rfl, rfl, rfl⟩

/-- Decoding shows nothing by itself. -/
theorem onMediaFrame_output {δ φ ι ρ κ γ ο τ : Type} [OnRtpPacket τ]
    {side : MediaSide δ φ ι ρ κ γ ο} {path after : MediaPath τ δ φ ι ρ γ ο} {found : ι}
    {pushed : Option AVFrame} (decoded : path.onMediaFrame side found = some (after, pushed)) :
    after.output = path.output ∧ after.rendering = path.rendering := by
  unfold MediaPath.onMediaFrame at decoded
  split at decoded
  · obtain ⟨task, -, same⟩ := Option.map_eq_some_iff.mp decoded
    dsimp only at same
    split at same <;> cases same <;> exact ⟨rfl, rfl⟩
  · cases decoded

/-- Neither do the threads of the stream. -/
theorem stream_output {δ φ ι ρ γ ο τ : Type} [OnRtpPacket τ] {path after : MediaPath τ δ φ ι ρ γ ο}
    {action : StreamTask.Action} (stepped : path.stream action = some after) :
    after.output = path.output ∧ after.rendering = path.rendering := by
  cases action with
  | onMediaFrame => cases stepped
  | receive | takeCommand | deleteFrame =>
    obtain ⟨task, -, rfl⟩ := Option.map_eq_some_iff.mp stepped
    exact ⟨rfl, rfl⟩

theorem Buffers.step (buffers : playback.Buffers) {action : Action} (noPicture : NoPicture action)
    (stepped : playback.step library dfDecode action = some next) : Stalls playback next := by
  obtain ⟨buffering, outside, noImage, noPcm⟩ := buffers
  cases action with
  | videoStream action =>
    obtain ⟨video, streamed, rfl⟩ := videoStream_step stepped
    obtain ⟨output, rendering⟩ := stream_output streamed
    exact ⟨⟨buffering, outside, rendering.trans noImage, noPcm⟩, output, rfl⟩
  | audioStream action =>
    obtain ⟨audio, streamed, rfl⟩ := Option.map_eq_some_iff.mp stepped
    obtain ⟨output, rendering⟩ := stream_output streamed
    exact ⟨⟨buffering, outside, noImage, rendering.trans noPcm⟩, rfl, output⟩
  | decodeImage malloc => exact noPicture.elim
  | measureLatency => simp [Playback.step, outside] at stepped
  | stopBuffering => simp [Playback.step, outside] at stepped
  | decodePcm beyond =>
    simp only [Playback.step, Option.map_eq_some_iff] at stepped
    obtain ⟨⟨audio, pushed⟩, decoded, rfl⟩ := stepped
    obtain ⟨output, rendering⟩ := onMediaFrame_output decoded
    cases pushed with
    | none => exact ⟨⟨buffering, outside, noImage, rendering.trans noPcm⟩, rfl, output⟩
    | some frame => exact ⟨⟨buffering, outside, noImage, rendering.trans noPcm⟩, rfl, output⟩
  | setClock clock =>
    cases stepped
    exact ⟨⟨buffering, outside, noImage, noPcm⟩, rfl, rfl⟩
  | videoFrame timerMs =>
    simp only [Playback.step, noImage, Option.map_eq_some_iff] at stepped
    obtain ⟨call, called, rfl⟩ := stepped
    obtain ⟨same, noFrame, noRestart⟩ := getFrame_of_buffering buffering called
    rw [noRestart]
    exact ⟨⟨same ▸ buffering, outside, noFrame, noPcm⟩, rfl, rfl⟩
  | audioFrame =>
    simp only [Playback.step, noPcm, Option.map_eq_some_iff] at stepped
    obtain ⟨call, called, rfl⟩ := stepped
    obtain ⟨same, noFrame, -⟩ := getFrame_of_buffering buffering called
    exact ⟨⟨same ▸ buffering, outside, noImage, noFrame⟩, rfl, rfl⟩
  | renderImage initSucceeds => simp [Playback.step, MediaPath.onFrame, noImage] at stepped
  | renderPcm found => simp [Playback.step, MediaPath.onFrame, noPcm] at stepped

/-- As long as no picture is decoded, nothing is shown and nothing is played, however much sound
arrives and however late it gets. -/
theorem buffering_stalls {actions : List Action} (noPicture : ∀ action ∈ actions, NoPicture action)
    (buffers : playback.Buffers)
    (ran : (system library dfDecode).run playback actions = some next) :
    Stalls playback next := by
  induction actions generalizing playback with
  | nil =>
    cases ran
    exact ⟨buffers, rfl, rfl⟩
  | cons action actions ih =>
    rw [List.forall_mem_cons] at noPicture
    rw [Transitions.run_cons, Option.bind_eq_some_iff] at ran
    obtain ⟨middle, stepped, ran⟩ := ran
    have first := buffers.step noPicture.1 stepped
    have rest := ih noPicture.2 first.buffers ran
    exact ⟨rest.buffers, rest.video.trans first.video, rest.audio.trans first.audio⟩

/-- The first picture has been pushed, and the sound waits behind it. -/
theorem buffering_stalls_first :
    ∃ playback next : Playback (VideoStream RtpDepacketizerVp8) Unit Unit,
      playback.video.pushed.length = 1 ∧ Stalls playback next := by
  let first := sampleActions.take 6
  let waits : List Action := [.videoFrame 1000, .audioFrame, .videoFrame 2000, .audioFrame]
  have reached : ((system silentOpus (vp8DecDecode sampleVpx)).run sampleStart first).map
      (fun playback => (playback.video.pushed.length, playback.sync.buffering,
        playback.video.rendering, playback.audio.rendering)) = some (1, true, none, none) := by
    decide +kernel
  have idle : ((system silentOpus (vp8DecDecode sampleVpx)).run sampleStart first).all
      (fun playback => playback.pushing = .outside) = true := by decide +kernel
  have goes : (((system silentOpus (vp8DecDecode sampleVpx)).run sampleStart first).bind
      fun playback =>
        (system silentOpus (vp8DecDecode sampleVpx)).run playback waits).isSome = true := by
    decide +kernel
  obtain ⟨playback, ran, same⟩ := Option.map_eq_some_iff.mp reached
  simp only [Prod.mk.injEq] at same
  obtain ⟨pushed, buffering, noImage, noPcm⟩ := same
  rw [ran] at idle goes
  have outside : playback.pushing = .outside := by simpa using idle
  obtain ⟨next, goes⟩ := Option.isSome_iff_exists.mp goes
  have buffers : playback.Buffers := ⟨buffering, outside, noImage, noPcm⟩
  exact ⟨playback, next, pushed, buffering_stalls (by simp [waits, NoPicture]) buffers goes⟩

end Playback

end RtpPlayer
