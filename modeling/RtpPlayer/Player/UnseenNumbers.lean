import RtpPlayer.Player.ShownPictures
import RtpPlayer.Rtp.PacketNumbers

/-! # Numbers that the player does not see

The sequence numbers and the SSRCs of the packets go to the statistics and nowhere else: with other
numbers in its datagrams, the player shows and plays the same at the same time.  A packet that is
lost, repeated or late is therefore seen by nobody but the statistics; `on_rtp_packet` is told of a
discontinuity, but the code that would look at that is compiled out. -/

namespace RtpPlayer

open Foundations

/-! ## One stream -/

/-- A stream but for what the statistics of losses got. -/
def RtpStream.withoutLosses (stream : RtpStream) : RtpStream := { stream with lossrate := [] }

theorem RtpStream.exists_losses {stream twin : RtpStream}
    (same : stream.withoutLosses = twin.withoutLosses) :
    ∃ losses, twin = { stream with lossrate := losses } := by
  obtain ⟨media, payloadType, framerate, bitrate, losses⟩ := twin
  simp only [withoutLosses, mk.injEq, and_true] at same
  obtain ⟨rfl, rfl, rfl, rfl⟩ := same
  exact ⟨losses, rfl⟩

def StreamObject.withoutLosses {σ : Type} (stream : StreamObject σ) : StreamObject σ :=
  { stream with base := stream.base.withoutLosses }

/-- The virtual `on_rtp_packet` looks neither at the numbers nor at the losses. -/
def LooksPast (σ : Type) [OnRtpPacket σ] : Prop :=
  ∀ (base twin : RtpStream) (derived : σ) (packet other : RtpPacket) (around : PacketSurroundings),
    base.withoutLosses = twin.withoutLosses → packet.withoutNumbers = other.withoutNumbers →
    OnRtpPacket.onRtpPacket base derived packet around =
      OnRtpPacket.onRtpPacket twin derived other around

theorem AudioStream.looksPast : LooksPast AudioStream := by
  intro base twin derived packet other around bases packets
  obtain ⟨losses, rfl⟩ := RtpStream.exists_losses bases
  change onRtpPacket .. = onRtpPacket ..
  rw [onRtpPacket, onRtpPacket, RtpPacket.size_eq packets, RtpPacket.payload_eq packets,
    RtpPacket.timestamp_eq packets]

theorem VideoStream.looksPast {δ : Type} [RtpDepacketizer δ] : LooksPast (VideoStream δ) := by
  intro base twin derived packet other around _ packets
  have calls : parseCall packet around = parseCall other around := by
    rw [parseCall, parseCall, RtpPacket.size_eq packets, RtpPacket.payload_eq packets,
      RtpPacket.timestamp_eq packets, RtpPacket.marker_eq packets, RtpPacket.payloadType_eq packets]
  change onRtpPacket .. = onRtpPacket ..
  rw [onRtpPacket, onRtpPacket, calls]

namespace StreamObject

variable {σ : Type} [OnRtpPacket σ]

theorem onRtpPacket_same (looksPast : LooksPast σ) {stream twin : StreamObject σ}
    {packet other : RtpPacket} (streams : stream.withoutLosses = twin.withoutLosses)
    (packets : packet.withoutNumbers = other.withoutNumbers) (around : PacketSurroundings) :
    (stream.onRtpPacket packet around).1.withoutLosses =
        (twin.onRtpPacket other around).1.withoutLosses ∧
      (stream.onRtpPacket packet around).2 = (twin.onRtpPacket other around).2 := by
  obtain ⟨base, derived⟩ := stream
  obtain ⟨base', derived'⟩ := twin
  simp only [withoutLosses, mk.injEq] at streams
  obtain ⟨bases, rfl⟩ := streams
  obtain ⟨losses, rfl⟩ := RtpStream.exists_losses bases
  have pushed : (base.pushStatistics packet).withoutLosses =
      ({ base with lossrate := losses }.pushStatistics other).withoutLosses := by
    simp only [RtpStream.pushStatistics, RtpStream.withoutLosses, RtpPacket.marker_eq packets,
      RtpPacket.size_eq packets]
  have called := looksPast _ _ derived packet other around pushed packets
  unfold onRtpPacket
  rw [RtpPacket.payloadType_eq packets]
  split
  · exact ⟨rfl, rfl⟩
  · simp only [called, withoutLosses, pushed]
    exact ⟨trivial, rfl⟩

end StreamObject

/-! ## One task -/

namespace StreamTask

variable {σ : Type}

/-- What arrives differs in the numbers only. -/
inductive Action.Renumbered : Action → Action → Prop where
  | receive {datagram other : List UInt8} (renumbered : RtpPlayer.Renumbered datagram other)
    (around : PacketSurroundings) :
    Renumbered (.receive datagram around) (.receive other around)
  | same (action : Action) : Renumbered action action

def withoutNumbers (task : StreamTask σ) : StreamTask σ :=
  { task with client := task.client.withoutWaiting, stream := task.stream.withoutLosses }

theorem withoutNumbers_iff {task twin : StreamTask σ} :
    task.withoutNumbers = twin.withoutNumbers ↔ ∃ client stream,
      task.client.withoutWaiting = client.withoutWaiting ∧
        task.stream.withoutLosses = stream.withoutLosses ∧
        twin = { task with client := client, stream := stream } := by
  constructor
  · intro same
    obtain ⟨client, stream, commands, thread, allocated, deleted, handed⟩ := twin
    simp only [withoutNumbers, mk.injEq] at same
    obtain ⟨clients, streams, rfl, rfl, rfl, rfl, rfl⟩ := same
    exact ⟨client, stream, clients, streams, rfl⟩
  · rintro ⟨client, stream, clients, streams, rfl⟩
    simp only [withoutNumbers, clients, streams]

variable [OnRtpPacket σ]

/-- The frame of a packet, and what is left of it, are the same. -/
theorem onRtpPacket_same (looksPast : LooksPast σ) {task twin : StreamTask σ}
    (same : task.withoutNumbers = twin.withoutNumbers) {packet other : RtpPacket}
    (packets : packet.withoutNumbers = other.withoutNumbers) (around : PacketSurroundings) :
    (task.onRtpPacket packet around).withoutNumbers =
      (twin.onRtpPacket other around).withoutNumbers := by
  obtain ⟨client, stream, clients, streams, rfl⟩ := withoutNumbers_iff.mp same
  obtain ⟨after, frame⟩ := StreamObject.onRtpPacket_same looksPast streams packets around
  simp only [onRtpPacket, ← frame]
  cases (task.stream.onRtpPacket packet around).2 with
  | none => simp only [withoutNumbers, after, clients]
  | some sent =>
    simp only [sendFrame]
    split
    · simp only [withoutNumbers, after, clients]
    · simp only [withoutNumbers, after, clients]

theorem receive_same (looksPast : LooksPast σ) {task twin : StreamTask σ}
    (same : task.withoutNumbers = twin.withoutNumbers) {datagram other : List UInt8}
    (renumbered : RtpPlayer.Renumbered datagram other) (around : PacketSurroundings) :
    Option.Rel (fun next after => next.withoutNumbers = after.withoutNumbers)
      (task.step (.receive datagram around)) (twin.step (.receive other around)) := by
  obtain ⟨client, stream, clients, streams, rfl⟩ := withoutNumbers_iff.mp same
  obtain ⟨listens, packets⟩ := RtpClient.deliver_same clients renumbered
  simp only [step]
  generalize task.client.deliver datagram = delivery at listens packets
  generalize client.deliver other = delivery' at listens packets
  obtain ⟨next, packet⟩ := delivery
  obtain ⟨next', packet'⟩ := delivery'
  cases packet with
  | none =>
    cases packet' with
    | none => exact .some (by simp only [withoutNumbers, listens, streams])
    | some packet' => cases packets
  | some packet =>
    cases packet' with
    | none => cases packets
    | some packet' =>
      refine .some (onRtpPacket_same looksPast ?_ (Option.some.inj packets) around)
      simp only [withoutNumbers, listens, streams]

/-- No other step looks at the client or at the stream. -/
theorem step_same (looksPast : LooksPast σ) {task twin : StreamTask σ}
    (same : task.withoutNumbers = twin.withoutNumbers) {action other : Action}
    (renumbered : Action.Renumbered action other) :
    Option.Rel (fun next after => next.withoutNumbers = after.withoutNumbers) (task.step action)
      (twin.step other) := by
  cases renumbered with
  | receive renumbered around => exact receive_same looksPast same renumbered around
  | same action =>
    obtain ⟨client, stream, clients, streams, rfl⟩ := withoutNumbers_iff.mp same
    have parts : ∀ next : StreamTask σ, next.client = task.client → next.stream = task.stream →
        next.withoutNumbers =
          { next with client := client, stream := stream }.withoutNumbers := by
      intro next sameClient sameStream
      simp only [withoutNumbers, sameClient, sameStream, clients, streams]
    cases action with
    | receive datagram around =>
      exact receive_same looksPast same ⟨rfl, fun _ _ => rfl⟩ around
    | takeCommand =>
      simp only [step]
      split
      case h_1 =>
        cases task.commands.take with
        | none => exact .none
        | some taken => exact .some (parts _ rfl rfl)
      case h_2 => exact .none
    | onMediaFrame =>
      simp only [step]
      split
      case h_1 => exact .some (parts _ rfl rfl)
      case h_2 => exact .none
    | deleteFrame =>
      simp only [step]
      split
      case h_1 => exact .some (parts _ rfl rfl)
      case h_2 => exact .none

end StreamTask

/-! ## One side of the player -/

namespace MediaPath

variable {σ δ φ ι ρ κ γ ο : Type}

def withTask (path : MediaPath σ δ φ ι ρ γ ο) (task : StreamTask σ) : MediaPath σ δ φ ι ρ γ ο :=
  { path with task := task }

@[simp] theorem withTask_rendering (path : MediaPath σ δ φ ι ρ γ ο) (task : StreamTask σ) :
    (path.withTask task).rendering = path.rendering := rfl

def withoutNumbers (path : MediaPath σ δ φ ι ρ γ ο) : MediaPath σ δ φ ι ρ γ ο :=
  path.withTask path.task.withoutNumbers

theorem withoutNumbers_iff {path twin : MediaPath σ δ φ ι ρ γ ο} :
    path.withoutNumbers = twin.withoutNumbers ↔ ∃ task,
      path.task.withoutNumbers = task.withoutNumbers ∧ twin = path.withTask task := by
  constructor
  · intro same
    obtain ⟨task, decoder, decodes, pushed, rendering, renderer, calls, output⟩ := twin
    simp only [withoutNumbers, withTask, mk.injEq] at same
    obtain ⟨tasks, rfl, rfl, rfl, rfl, rfl, rfl, rfl⟩ := same
    exact ⟨task, tasks, rfl⟩
  · rintro ⟨task, tasks, rfl⟩
    simp only [withoutNumbers, withTask, tasks]

section

variable [OnRtpPacket σ] {path twin : MediaPath σ δ φ ι ρ γ ο}
  (same : path.withoutNumbers = twin.withoutNumbers)

include same

theorem stream_same (looksPast : LooksPast σ) {action other : StreamTask.Action}
    (renumbered : StreamTask.Action.Renumbered action other) :
    Option.Rel (fun next after => next.withoutNumbers = after.withoutNumbers)
      (path.stream action) (twin.stream other) := by
  obtain ⟨task, tasks, rfl⟩ := withoutNumbers_iff.mp same
  have goes : Option.Rel (fun next after => next.withoutNumbers = after.withoutNumbers)
      ((path.task.step action).map path.withTask) ((task.step other).map path.withTask) :=
    rel_map (StreamTask.step_same looksPast tasks renumbered) fun next after nexts =>
      withoutNumbers_iff.mpr ⟨after, nexts, rfl⟩
  cases renumbered with
  | receive => exact goes
  | same action =>
    cases action with
    | onMediaFrame => exact .none
    | receive | takeCommand | deleteFrame => exact goes

/-- The decoder gets the same frame. -/
theorem onMediaFrame_same (looksPast : LooksPast σ) (side : MediaSide δ φ ι ρ κ γ ο) (found : ι) :
    Option.Rel (fun next after => next.1.withoutNumbers = after.1.withoutNumbers ∧
      next.2 = after.2) (path.onMediaFrame side found) (twin.onMediaFrame side found) := by
  obtain ⟨task, tasks, rfl⟩ := withoutNumbers_iff.mp same
  have thread : task.thread = path.task.thread := (congrArg StreamTask.thread tasks).symm
  have stepped := StreamTask.step_same looksPast tasks (.same .onMediaFrame)
  cases entered : path.task.thread with
  | waiting =>
    simp only [onMediaFrame, withTask, thread, entered]
    exact .none
  | observed name =>
    simp only [onMediaFrame, withTask, thread, entered]
    exact .none
  | entered name frame =>
    simp only [onMediaFrame, withTask, thread, entered]
    refine rel_map stepped fun next after nexts => ?_
    split
    · exact ⟨withoutNumbers_iff.mpr ⟨after, nexts, rfl⟩, rfl⟩
    · exact ⟨withoutNumbers_iff.mpr ⟨after, nexts, rfl⟩, rfl⟩

end

theorem onFrame_withTask [OnRtpPacket σ] (side : MediaSide δ φ ι ρ κ γ ο)
    (path : MediaPath σ δ φ ι ρ γ ο) (task : StreamTask σ) (found : κ) :
    (path.withTask task).onFrame side found =
      (path.onFrame side found).map (·.withTask task) := by
  simp only [onFrame, withTask_rendering]
  cases path.rendering with
  | none => rfl
  | some frame =>
    rw [Option.map_map]
    rfl

end MediaPath

/-! ## The player -/

namespace Playback

variable {σ α β : Type}

inductive Action.Renumbered : Action → Action → Prop where
  | videoStream {action other : StreamTask.Action}
    (renumbered : StreamTask.Action.Renumbered action other) :
    Renumbered (.videoStream action) (.videoStream other)
  | audioStream {action other : StreamTask.Action}
    (renumbered : StreamTask.Action.Renumbered action other) :
    Renumbered (.audioStream action) (.audioStream other)
  | same (action : Action) : Renumbered action action

def withTasks (playback : Playback σ α β) (video : StreamTask σ) (audio : StreamTask AudioStream) :
    Playback σ α β :=
  { playback with video := playback.video.withTask video, audio := playback.audio.withTask audio }

@[simp] theorem withTasks_video (playback : Playback σ α β) (video : StreamTask σ)
    (audio : StreamTask AudioStream) :
    (playback.withTasks video audio).video = playback.video.withTask video := rfl

@[simp] theorem withTasks_audio (playback : Playback σ α β) (video : StreamTask σ)
    (audio : StreamTask AudioStream) :
    (playback.withTasks video audio).audio = playback.audio.withTask audio := rfl

@[simp] theorem withTasks_pushing (playback : Playback σ α β) (video : StreamTask σ)
    (audio : StreamTask AudioStream) :
    (playback.withTasks video audio).pushing = playback.pushing := rfl

/-- All of the player but what the statistics of losses got, and the datagrams that its sockets
hold back. -/
def withoutNumbers (playback : Playback σ α β) : Playback σ α β :=
  playback.withTasks playback.video.task.withoutNumbers playback.audio.task.withoutNumbers

theorem withoutNumbers_iff {playback twin : Playback σ α β} :
    playback.withoutNumbers = twin.withoutNumbers ↔ ∃ video audio,
      playback.video.task.withoutNumbers = video.withoutNumbers ∧
        playback.audio.task.withoutNumbers = audio.withoutNumbers ∧
        twin = playback.withTasks video audio := by
  constructor
  · intro same
    obtain ⟨video, audio, sync, pushing⟩ := twin
    simp only [withoutNumbers, withTasks, mk.injEq] at same
    obtain ⟨videos, audios, rfl, rfl⟩ := same
    obtain ⟨videoTask, videoTasks, rfl⟩ := MediaPath.withoutNumbers_iff.mp videos
    obtain ⟨audioTask, audioTasks, rfl⟩ := MediaPath.withoutNumbers_iff.mp audios
    exact ⟨videoTask, audioTask, videoTasks, audioTasks, rfl⟩
  · rintro ⟨video, audio, videos, audios, rfl⟩
    simp only [withoutNumbers, withTasks, MediaPath.withTask, videos, audios]

variable [OnRtpPacket σ] {library : OpusLibrary α} {dfDecode : DfDecode β}

omit [OnRtpPacket σ] in
theorem restart_withTasks (playback : Playback σ α β) (clock : Option AVClock)
    (video : StreamTask σ) (audio : StreamTask AudioStream) :
    (playback.withTasks video audio).restart library clock =
      (playback.restart library clock).withTasks video audio := by
  unfold restart
  split
  · rfl
  · rfl

/-- The other actions do not look at the tasks. -/
def Action.OfRenderers : Action → Prop
  | .videoStream _ | .audioStream _ | .decodeImage _ | .decodePcm _ => False
  | _ => True

theorem step_withTasks (playback : Playback σ α β) (video : StreamTask σ)
    (audio : StreamTask AudioStream) {action : Action} (renders : action.OfRenderers) :
    (playback.withTasks video audio).step library dfDecode action =
      (playback.step library dfDecode action).map (·.withTasks video audio) := by
  cases action with
  | videoStream | audioStream | decodeImage | decodePcm => exact renders.elim
  | measureLatency =>
    simp only [step, withTasks_pushing]
    cases playback.pushing <;> rfl
  | stopBuffering =>
    simp only [step, withTasks_pushing]
    cases playback.pushing <;> rfl
  | setClock clock => rfl
  | videoFrame timerMs =>
    simp only [step, withTasks_video, MediaPath.withTask_rendering]
    cases playback.video.rendering with
    | some frame => rfl
    | none =>
      change Option.map _ (playback.sync.getFrame .video (playback.clockMs timerMs)) = _
      cases playback.sync.getFrame .video (playback.clockMs timerMs) with
      | none => rfl
      | some call =>
        let taken : Playback σ α β := { playback with
          sync := call.sync, video := { playback.video with rendering := call.frame } }
        exact congrArg some (restart_withTasks taken call.restarted video audio)
  | audioFrame =>
    simp only [step, withTasks_audio, MediaPath.withTask_rendering]
    cases playback.audio.rendering with
    | some frame => rfl
    | none =>
      rw [Option.map_map]
      rfl
  | renderImage initSucceeds =>
    have renders := playback.video.onFrame_withTask (VideoDecoder.side dfDecode) video initSucceeds
    simp only [step, Option.map_map]
    change (((playback.video.withTask video).onFrame _ initSucceeds).map fun video => _) = _
    rw [renders, Option.map_map]
    rfl
  | renderPcm found =>
    have renders := playback.audio.onFrame_withTask (AudioDecoder.side library) audio found
    simp only [step, Option.map_map]
    change (((playback.audio.withTask audio).onFrame _ found).map fun audio => _) = _
    rw [renders, Option.map_map]
    rfl

section

variable {playback twin : Playback σ α β} (same : playback.withoutNumbers = twin.withoutNumbers)

include same

theorem videoStream_same (looksPast : LooksPast σ) {action other : StreamTask.Action}
    (renumbered : StreamTask.Action.Renumbered action other) :
    Option.Rel (fun next after => next.withoutNumbers = after.withoutNumbers)
      (playback.step library dfDecode (.videoStream action))
      (twin.step library dfDecode (.videoStream other)) := by
  obtain ⟨video, audio, videos, audios, rfl⟩ := withoutNumbers_iff.mp same
  obtain ⟨path, sound, sync, pushing⟩ := playback
  have streams := MediaPath.stream_same
    (MediaPath.withoutNumbers_iff.mpr ⟨video, videos, rfl⟩) looksPast renumbered
  have goes : Option.Rel (fun next after : Playback σ α β =>
        next.withoutNumbers = after.withoutNumbers)
      ((path.stream action).map (⟨·, sound, sync, pushing⟩))
      (((path.withTask video).stream other).map (⟨·, sound.withTask audio, sync, pushing⟩)) := by
    refine rel_map streams fun next after nexts => ?_
    obtain ⟨task, tasks, rfl⟩ := MediaPath.withoutNumbers_iff.mp nexts
    exact withoutNumbers_iff.mpr ⟨task, audio, tasks, audios, rfl⟩
  -- what the thread of the task can do depends on `push_video`
  cases renumbered with
  | receive => exact goes
  | same action =>
    cases action with
    | receive => exact goes
    | takeCommand | onMediaFrame | deleteFrame =>
      cases pushing with
      | outside => exact goes
      | queued | measured => exact .none

theorem audioStream_same {action other : StreamTask.Action}
    (renumbered : StreamTask.Action.Renumbered action other) :
    Option.Rel (fun next after => next.withoutNumbers = after.withoutNumbers)
      (playback.step library dfDecode (.audioStream action))
      (twin.step library dfDecode (.audioStream other)) := by
  obtain ⟨video, audio, videos, audios, rfl⟩ := withoutNumbers_iff.mp same
  have streams := MediaPath.stream_same
    (MediaPath.withoutNumbers_iff.mpr ⟨audio, audios, rfl⟩) AudioStream.looksPast renumbered
  refine rel_map streams fun next after nexts => ?_
  obtain ⟨task, tasks, rfl⟩ := MediaPath.withoutNumbers_iff.mp nexts
  exact withoutNumbers_iff.mpr ⟨video, task, videos, tasks, rfl⟩

theorem decodeImage_same (looksPast : LooksPast σ) (malloc : Plane → Option (Memory UInt8)) :
    Option.Rel (fun next after => next.withoutNumbers = after.withoutNumbers)
      (playback.step library dfDecode (.decodeImage malloc))
      (twin.step library dfDecode (.decodeImage malloc)) := by
  obtain ⟨video, audio, videos, audios, rfl⟩ := withoutNumbers_iff.mp same
  have decodes := MediaPath.onMediaFrame_same
    (MediaPath.withoutNumbers_iff.mpr ⟨video, videos, rfl⟩) looksPast
    (VideoDecoder.side dfDecode) malloc
  refine rel_map decodes ?_
  rintro ⟨next, pushed⟩ ⟨after, pushed'⟩ ⟨nexts, rfl⟩
  obtain ⟨task, tasks, rfl⟩ := MediaPath.withoutNumbers_iff.mp nexts
  cases pushed with
  | none => exact withoutNumbers_iff.mpr ⟨task, audio, tasks, audios, rfl⟩
  | some frame => exact withoutNumbers_iff.mpr ⟨task, audio, tasks, audios, rfl⟩

theorem decodePcm_same (beyond : Memory Int16) :
    Option.Rel (fun next after => next.withoutNumbers = after.withoutNumbers)
      (playback.step library dfDecode (.decodePcm beyond))
      (twin.step library dfDecode (.decodePcm beyond)) := by
  obtain ⟨video, audio, videos, audios, rfl⟩ := withoutNumbers_iff.mp same
  have decodes := MediaPath.onMediaFrame_same
    (MediaPath.withoutNumbers_iff.mpr ⟨audio, audios, rfl⟩) AudioStream.looksPast
    (AudioDecoder.side library) beyond
  refine rel_map decodes ?_
  rintro ⟨next, pushed⟩ ⟨after, pushed'⟩ ⟨nexts, rfl⟩
  obtain ⟨task, tasks, rfl⟩ := MediaPath.withoutNumbers_iff.mp nexts
  cases pushed with
  | none => exact withoutNumbers_iff.mpr ⟨video, task, videos, tasks, rfl⟩
  | some frame => exact withoutNumbers_iff.mpr ⟨video, task, videos, tasks, rfl⟩

/-- A thread gets as far as with other numbers, and leaves the same. -/
theorem step_same (looksPast : LooksPast σ) {action other : Action}
    (renumbered : Action.Renumbered action other) :
    Option.Rel (fun next after => next.withoutNumbers = after.withoutNumbers)
      (playback.step library dfDecode action) (twin.step library dfDecode other) := by
  have rendering (renders : action.OfRenderers) :
      Option.Rel (fun next after => next.withoutNumbers = after.withoutNumbers)
        (playback.step library dfDecode action) (twin.step library dfDecode action) := by
    obtain ⟨video, audio, videos, audios, rfl⟩ := withoutNumbers_iff.mp same
    have kept := @step_withTasks _ _ _ _ library dfDecode playback playback.video.task
      playback.audio.task _ renders
    rw [step_withTasks playback video audio renders]
    change playback.step library dfDecode action = _ at kept
    cases stepped : playback.step library dfDecode action with
    | none => exact .none
    | some next =>
      -- the tasks are still those of before
      rw [stepped, Option.map_some, Option.some.injEq] at kept
      refine .some (withoutNumbers_iff.mpr ⟨video, audio, ?_, ?_, rfl⟩)
      · rw [kept]
        exact videos
      · rw [kept]
        exact audios
  cases renumbered with
  | videoStream renumbered => exact videoStream_same same looksPast renumbered
  | audioStream renumbered => exact audioStream_same same renumbered
  | same action =>
    cases action with
    | videoStream action => exact videoStream_same same looksPast (.same action)
    | audioStream action => exact audioStream_same same (.same action)
    | decodeImage malloc => exact decodeImage_same same looksPast malloc
    | decodePcm beyond => exact decodePcm_same same beyond
    | measureLatency | stopBuffering | setClock | videoFrame | audioFrame | renderImage
      | renderPcm => exact rendering trivial

end

/-- Two runs of the player in which the same happens, to datagrams that differ in their numbers
only: both get as far, and everything is the same in the end but the statistics. -/
theorem numbers_unseen {δ : Type} [RtpDepacketizer δ] (library : OpusLibrary α)
    (dfDecode : DfDecode β) (start : Playback (VideoStream δ) α β) {actions others : List Action}
    (renumbered : List.Forall₂ Action.Renumbered actions others) :
    Option.Rel (fun playback twin => playback.withoutNumbers = twin.withoutNumbers)
      ((system library dfDecode).run start actions)
      ((system library dfDecode).run start others) := by
  have keeps (playback twin : Playback (VideoStream δ) α β) (action other : Action)
      (same : playback.withoutNumbers = twin.withoutNumbers)
      (renumbered : Action.Renumbered action other) :
      Option.Rel (fun next after => next.withoutNumbers = after.withoutNumbers)
        ((system library dfDecode).step playback action)
        ((system library dfDecode).step twin other) :=
    step_same same VideoStream.looksPast renumbered
  exact (system library dfDecode).run_related keeps rfl renumbered

/-- The sample with one sequence number for all packets. -/
def renumber (number : UInt8) : Action → Action
  | .videoStream (.receive datagram around) =>
    .videoStream (.receive (datagram.set 3 number) around)
  | action => action

theorem renumber_renumbered (number : UInt8) (action : Action) :
    action.Renumbered (renumber number action) := by
  cases action with
  | videoStream action =>
    cases action with
    | receive datagram around =>
      refine .videoStream (.receive ⟨by simp, fun index outside => ?_⟩ around)
      have other : 3 ≠ index := fun same => outside (.inr (.inl same.symm))
      rw [List.getElem?_set_ne other]
    | _ => exact .same _
  | _ => exact .same _

theorem numbers_unseen_sample :
    ∃ playback : Playback (VideoStream RtpDepacketizerVp8) Unit Unit,
      (system silentOpus (vp8DecDecode sampleVpx)).run sampleStart
          (sampleActions.map (renumber 7)) = some playback ∧
        playback.video.output.length = 1 := by
  obtain ⟨playback, ran, shown⟩ := sampleRun
  have renumbered : List.Forall₂ Action.Renumbered sampleActions
      (sampleActions.map (renumber 7)) :=
    List.forall₂_map_right_iff.mpr (List.forall₂_same.mpr fun _ _ => renumber_renumbered ..)
  have related := numbers_unseen silentOpus (vp8DecDecode sampleVpx) sampleStart renumbered
  rw [ran] at related
  generalize (system silentOpus (vp8DecDecode sampleVpx)).run sampleStart
    (sampleActions.map (renumber 7)) = twin at related ⊢
  cases related with
  | @some _ after same =>
    have output : playback.video.output = after.video.output :=
      congrArg (fun playback => playback.video.output) same
    exact ⟨after, rfl, by rw [← output, shown]⟩

end Playback

end RtpPlayer
