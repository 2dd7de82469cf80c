import RtpPlayer.Player.PlaybackFlow

/-! # The sound of a stream

From the datagrams of an Opus stream to OpenSL, beside a player of pictures that shares the
synchroniser.  While the synchroniser does not buffer, the threads of the sound need no one else to
play all that has arrived. -/

namespace RtpPlayer

open Foundations
open RtpClient (Listening)

namespace Playback

variable {σ α β : Type} [OnRtpPacket σ] {library : OpusLibrary α} {dfDecode : DfDecode β}
  {start playback next : Playback σ α β} {actions : List Action}

/-! ## The sound catches up -/

/-- An action of the task or the renderer of the sound, to which OpenSL opens the device. -/
def OfSound : Action → Prop
  | .audioStream action => action.arrival = none
  | .decodePcm _ => True
  | .audioFrame => True
  | .renderPcm found => found.1 = true
  | _ => False

/-- How many actions are at most left to the threads of the sound. -/
def soundLeft (playback : Playback σ α β) : Nat :=
  let thread := match playback.audio.task.thread with
    | .waiting => 0
    | .entered _ _ => 5
    | .observed _ => 1
  6 * playback.audio.task.commands.waiting.length + thread +
    2 * playback.sync.audioFrames.length + playback.audio.rendering.toList.length

/-- The sound is played but for what is pending in a half buffer. -/
def SoundDone (playback : Playback σ α β) : Prop :=
  playback.audio.task.Settled ∧ SoundIdle playback

/-- A state of a run in which the synchroniser lets frames out. -/
def Playing (library : OpusLibrary α) (dfDecode : DfDecode β) (start playback : Playback σ α β) :
    Prop :=
  (∃ actions, Flows library dfDecode start actions playback) ∧ playback.sync.buffering = false

/-- A frame that was taken is played. -/
theorem plays_rendering (playing : Playing library dfDecode start playback) {front : AVFrame}
    (rendering : playback.audio.rendering = some front) :
    ∃ action next, OfSound action ∧ playback.step library dfDecode action = some next ∧
      Playing library dfDecode start next ∧ next.soundLeft < playback.soundLeft := by
  obtain ⟨⟨actions, flows⟩, buffering⟩ := playing
  let found : Bool × (Bool → Memory Int16) := (true, fun _ _ => 0)
  obtain ⟨audio, rendered⟩ := flows.audio.onFrame_possible rendering found
  have stepped : playback.step library dfDecode (.renderPcm found) =
      some { playback with audio := audio } := by
    simp only [Playback.step, rendered, Option.map_some]
  refine ⟨.renderPcm found, _, rfl, stepped, ⟨⟨_, flows.step stepped⟩, buffering⟩, ?_⟩
  obtain ⟨shown, rfl⟩ : ∃ shown, audio =
      { playback.audio.call (AudioDecoder.side library) shown with rendering := none } := by
    simp only [MediaPath.onFrame, rendering, Option.map_eq_some_iff] at rendered
    obtain ⟨block, -, rfl⟩ := rendered
    exact ⟨_, rfl⟩
  simp only [soundLeft, MediaPath.call, rendering]
  simp

/-- A frame that waits is taken. -/
theorem takes_frame (playing : Playing library dfDecode start playback)
    (idle : playback.audio.rendering = none) {front : AVFrame} {rest : List AVFrame}
    (queued : playback.sync.audioFrames = front :: rest) :
    ∃ action next, OfSound action ∧ playback.step library dfDecode action = some next ∧
      Playing library dfDecode start next ∧ next.soundLeft < playback.soundLeft := by
  obtain ⟨⟨actions, flows⟩, buffering⟩ := playing
  let taken : Playback σ α β :=
    { playback with
      sync := { playback.sync with audioFrames := rest }
      audio := { playback.audio with rendering := some front } }
  have stepped : playback.step library dfDecode .audioFrame = some taken := by
    simp [Playback.step, idle, AVSync.getFrame, AVSync.audioFrame, queued, buffering, taken]
  refine ⟨.audioFrame, _, trivial, stepped, ⟨⟨_, flows.step stepped⟩, buffering⟩, ?_⟩
  simp only [soundLeft, taken, idle, queued, List.length_cons, Option.toList_none,
    Option.toList_some, List.length_nil]
  omega

/-- A packet that the thread of the task is at is decoded. -/
theorem decodes_packet (playing : Playing library dfDecode start playback) {name : Nat}
    {frame : SentFrame} (entered : playback.audio.task.thread = .entered name frame) :
    ∃ action next, OfSound action ∧ playback.step library dfDecode action = some next ∧
      Playing library dfDecode start next ∧ next.soundLeft < playback.soundLeft := by
  obtain ⟨⟨actions, flows⟩, buffering⟩ := playing
  let beyond : Memory Int16 := fun _ => 0
  obtain ⟨⟨audio, pushed⟩, decoded⟩ : ∃ output,
      playback.audio.onMediaFrame (AudioDecoder.side library) beyond = some output := by
    simp [MediaPath.onMediaFrame, entered, StreamTask.step]
  obtain ⟨thread, commands, rendering⟩ : audio.task.thread = .observed name ∧
      audio.task.commands = playback.audio.task.commands ∧
      audio.rendering = playback.audio.rendering := by
    simp only [MediaPath.onMediaFrame, entered, StreamTask.step, Option.map_some,
      Option.some.injEq] at decoded
    split at decoded <;> cases decoded <;> exact ⟨rfl, rfl, rfl⟩
  cases pushed with
  | none =>
    have stepped : playback.step library dfDecode (.decodePcm beyond) =
        some { playback with audio := audio } := by
      simp only [Playback.step, decoded, Option.map_some]
    refine ⟨.decodePcm beyond, _, trivial, stepped, ⟨⟨_, flows.step stepped⟩, buffering⟩, ?_⟩
    simp only [soundLeft, thread, commands, rendering, entered]
    omega
  | some block =>
    have stepped : playback.step library dfDecode (.decodePcm beyond) =
        some { playback with audio := audio, sync := playback.sync.push .audio block } := by
      simp only [Playback.step, decoded, Option.map_some]
    refine ⟨.decodePcm beyond, _, trivial, stepped, ⟨⟨_, flows.step stepped⟩, buffering⟩, ?_⟩
    simp only [soundLeft, thread, commands, rendering, entered, AVSync.push, AVSync.pushAudio,
      List.length_append, List.length_singleton]
    omega

/-- A command is taken, or a frame deleted. -/
theorem task_moves (playing : Playing library dfDecode start playback)
    {action : StreamTask.Action} (silent : action.arrival = none) (quiet : action ≠ .onMediaFrame)
    {task : StreamTask AudioStream} (moves : playback.audio.task.step action = some task)
    (smaller : { playback with audio := { playback.audio with task := task } }.soundLeft <
      playback.soundLeft) :
    ∃ action next, OfSound action ∧ playback.step library dfDecode action = some next ∧
      Playing library dfDecode start next ∧ next.soundLeft < playback.soundLeft := by
  obtain ⟨⟨actions, flows⟩, buffering⟩ := playing
  have stepped : playback.step library dfDecode (.audioStream action) =
      some { playback with audio := { playback.audio with task := task } } := by
    cases action with
    | onMediaFrame => exact absurd rfl quiet
    | receive | takeCommand | deleteFrame =>
      simp only [Playback.step, MediaPath.stream, moves, Option.map_some]
  exact ⟨.audioStream action, _, silent, stepped, ⟨⟨_, flows.step stepped⟩, buffering⟩, smaller⟩

/-- While the synchroniser does not buffer, the threads of the sound can play all that they have. -/
theorem sound_catches_up (playing : Playing library dfDecode start playback) :
    ∃ final, (system library dfDecode).Leads OfSound playback final ∧
      Playing library dfDecode start final ∧ SoundDone final := by
  refine (system library dfDecode).leads_of_measure soundLeft ?_ playing
  intro playback playing left
  cases rendering : playback.audio.rendering with
  | some front => exact plays_rendering playing rendering
  | none =>
    cases queued : playback.sync.audioFrames with
    | cons front rest => exact takes_frame playing rendering queued
    | nil =>
      cases thread : playback.audio.task.thread with
      | entered name frame => exact decodes_packet playing thread
      | observed name =>
        let task := playback.audio.task
        have moves : task.step .deleteFrame =
            some { task with thread := .waiting, deleted := task.deleted ++ [name] } := by
          simp only [StreamTask.step, task, thread]
        refine task_moves playing rfl (by simp) moves ?_
        simp only [soundLeft, thread, task]
        omega
      | waiting =>
        cases waiting : playback.audio.task.commands.waiting with
        | nil =>
          refine absurd ⟨?_, rendering, queued⟩ left
          simp [StreamTask.Settled, StreamTask.live, thread, waiting, OnSendFrame.name]
        | cons command rest =>
          let task := playback.audio.task
          have moves : task.step .takeCommand = some { task with
              commands := ⟨rest, task.commands.taken ++ [command]⟩
              thread := .entered command.1 command.2 } := by
            simp only [StreamTask.step, task, thread, Channel.take, waiting, Option.map_some]
          refine task_moves playing rfl (by simp) moves ?_
          simp only [soundLeft, thread, waiting, List.length_cons]
          omega

/-! ## From the datagrams to OpenSL -/

omit [OnRtpPacket σ] in
/-- More packets only bring more that is yet to come. -/
theorem Sounds.append {samples later : List Int16} (sounds : Sounds samples playback later)
    (more : List Int16) : Sounds (samples ++ more) playback (later ++ more) :=
  { sounds with
    stream := by rw [← sounds.stream, ← List.append_assoc] }

/-- The datagrams of the sound, in the order in which the client read them. -/
def heardOf (actions : List Action) : List (List UInt8 × PacketSurroundings) :=
  StreamTask.arrivals (actions.filterMap Action.audio)

theorem heardOf_append_ofSound {more : List Action} (sound : ∀ action ∈ more, OfSound action) :
    heardOf (actions ++ more) = heardOf actions := by
  have none : heardOf more = [] := by
    rw [heardOf, StreamTask.arrivals, List.filterMap_filterMap, List.filterMap_eq_nil_iff]
    intro action member
    have allowed := sound action member
    cases action with
    | audioStream action => exact allowed
    | decodePcm => rfl
    | _ => rfl
  rw [heardOf, List.filterMap_append, StreamTask.arrivals, List.filterMap_append]
  exact (congrArg _ none).trans (List.append_nil _)

/-- What is heard of an Opus stream are the samples of its packets, in order and whole from the
first buffer for which OpenSL opens the device, whatever else arrives and whatever the pictures do.
Unless the synchroniser buffers, the sound can go on to its last sample by itself. -/
theorem plays_opus_packets (library : OpusLibrary α) (dfDecode : DfDecode β)
    (videoClient audioClient : RtpClient) (videoStream : StreamObject σ) (imageDecoder : β)
    (pcmDecoder : α) (index : Nat) (half : Bool) (buffers : Bool → Memory Int16) (size : Nat)
    (listening : Listening audioClient) {payloadType : BitVec 7} {all : List Arrival}
    {own : List (List Arrival)} (multiplexed : Multiplexed payloadType all own)
    (ran : (system library dfDecode).run (create videoClient audioClient videoStream
      (AudioStream.setAudioMedia .audioOpus payloadType.toNat) imageDecoder (.init pcmDecoder)
      (.create index half buffers size)) actions = some playback)
    (arrived : heardOf actions <+: all.map Arrival.bytes) :
    let samples := library.samples pcmDecoder
      (own.flatten.map fun arrival => arrival.datagram.payload)
    (∃ later, Sounds samples playback later) ∧
      (heardOf actions = all.map Arrival.bytes → playback.sync.buffering = false →
        ∃ more final, (∀ action ∈ more, OfSound action) ∧
          (system library dfDecode).run playback more = some final ∧
          Sounds samples final []) := by
  intro samples
  have begun := @flows_create _ _ _ _ library dfDecode videoClient audioClient videoStream
    (AudioStream.setAudioMedia .audioOpus payloadType.toNat) imageDecoder (.init pcmDecoder)
    (.create index half buffers size)
  have payloads : ((receiving AudioStream).emissions (audioClient,
      AudioStream.setAudioMedia .audioOpus payloadType.toNat) (all.map Arrival.bytes)).map
        SentFrame.data = own.flatten.map fun arrival => arrival.datagram.payload := by
    have sent := congrArg (List.map Prod.fst) (@receiving_packets _ _ _ _
      (.create .audioOpus payloadType.toNat) listening rfl multiplexed)
    rw [List.map_map, List.map_map] at sent
    exact sent
  have flows := flows_of_run ran begun
  constructor
  · obtain ⟨later, sounds, -⟩ := flows.sounds (OpusDecContext.fullband_init pcmDecoder) rfl
    obtain ⟨rest, whole⟩ := flows.audio.relays.handed_isPrefix_of payloads arrived
    obtain ⟨decoder, same⟩ := library.samples_append pcmDecoder
      (playback.audio.task.handed.map SentFrame.data) rest
    rw [whole] at same
    exact ⟨_, same ▸ sounds.append _⟩
  · intro complete playing
    obtain ⟨final, ⟨more, sound, goes⟩, -, settled, idle⟩ :=
      sound_catches_up ⟨⟨actions, flows⟩, playing⟩
    have finalFlows := flows_of_run ((system library dfDecode).run_trans ran goes) begun
    obtain ⟨later, sounds, done⟩ :=
      finalFlows.sounds (OpusDecContext.fullband_init pcmDecoder) rfl
    have handed : final.audio.task.handed.map SentFrame.data =
        own.flatten.map fun arrival => arrival.datagram.payload := by
      rw [finalFlows.audio.relays.handed_of_settled settled, ← payloads, ← complete]
      exact congrArg (fun datagrams => ((receiving AudioStream).emissions _ datagrams).map _)
        (heardOf_append_ofSound sound)
    rw [done idle, handed] at sounds
    exact ⟨more, final, sound, goes, sounds⟩

/-- A library that finds the first two bytes of a packet to be one sample of each channel. -/
def sampleOpus : OpusLibrary Unit where
  opusDecode _ packet frameSize :=
    ((), min 1 frameSize, Memory.ofList (packet.map fun byte => Int16.ofNat byte.toNat) fun _ => 0)
  samples_le _ _ _ := by
    dsimp only
    omega

/-- A decoder that makes no picture of anything. -/
def blindDecoder : DfDecode Unit := fun decoder _ _ _ => (decoder, 0, none)

theorem plays_opus_packets_sample :
    ∃ (playback : Playback AudioStream Unit Unit) (more : List Action)
      (final : Playback AudioStream Unit Unit),
      (system sampleOpus blindDecoder).run playback more = some final ∧
        Sounds [7, 8] final [] := by
  let client := RtpClient.onNetworkAccept .built .create
  let stream := AudioStream.setAudioMedia .audioOpus (96 : BitVec 7).toNat
  let arrival := StreamTask.sampleArrival 3000 7 [8] true
  let start : Playback AudioStream Unit Unit := create client client stream stream () (.init ())
    (.create 0 false (fun _ _ => 0) 0)
  obtain ⟨task, received⟩ := start.audio.task.exists_receive arrival.bytes.1 arrival.bytes.2
  let playback : Playback AudioStream Unit Unit :=
    { start with audio := { start.audio with task := task } }
  let receive : Action := .audioStream (.receive arrival.bytes.1 arrival.bytes.2)
  have ran : (system sampleOpus blindDecoder).run start [receive] = some playback := by
    simp [system, Playback.step, MediaPath.stream, receive, received, playback]
  have multiplexed : Multiplexed 96 [arrival] [[arrival]] :=
    ⟨rfl, by simp [arrival, StreamTask.sampleArrival, Arrival.Accepted]⟩
  have arrived : heardOf [receive] = [arrival].map Arrival.bytes := rfl
  obtain ⟨-, whole⟩ := plays_opus_packets sampleOpus blindDecoder client client stream () () 0
    false (fun _ _ => 0) 0 RtpClient.listening_accepted multiplexed ran (by rw [arrived])
  obtain ⟨more, final, -, goes, sounds⟩ := whole arrived rfl
  exact ⟨playback, more, final, goes, sounds⟩

end Playback

end RtpPlayer
