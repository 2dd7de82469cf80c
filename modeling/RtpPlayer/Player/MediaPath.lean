import RtpPlayer.Streams.SendFrame

/-! # The way of a medium through the player

What `BasePlayer`, `AVDecoder` and `AVOutBase` do for pictures and for sound alike: the thread of
the task decodes a frame and pushes what comes out to the synchroniser, and the thread of the
renderer takes it from there.  A decoded frame is named by its place in the order of the pushes. -/

namespace RtpPlayer

open Foundations

namespace AVSync

/-- `push_video` up to the end of its first section, or `push_audio`. -/
def push : StreamKind → AVSync → AVFrame → AVSync
  | .video => queueVideo
  | .audio => pushAudio

def queue : StreamKind → AVSync → List AVFrame
  | .video => videoFrames
  | .audio => audioFrames

/-- `m_get_frame` of a renderer. -/
def getFrame : StreamKind → AVSync → Int32 → Option FrameCall
  | .video => videoFrame
  | .audio => fun sync _ => some sync.audioFrame

theorem queue_push (kind other : StreamKind) (sync : AVSync) (frame : AVFrame) :
    (sync.push kind frame).queue other =
      sync.queue other ++ if kind = other then [frame] else [] := by
  cases kind <;> cases other <;> simp [push, queue, queueVideo, pushAudio]

theorem getFrame_queue {kind : StreamKind} {sync : AVSync} {clockMs : Int32} {call : FrameCall}
    (called : sync.getFrame kind clockMs = some call) :
    call.frame.toList ++ call.sync.queue kind = sync.queue kind := by
  cases kind with
  | video => exact videoFrame_queue called
  | audio =>
    cases called
    exact audioFrame_queue sync

theorem getFrame_other {kind other : StreamKind} {sync : AVSync} {clockMs : Int32}
    {call : FrameCall} (called : sync.getFrame kind clockMs = some call) (distinct : kind ≠ other) :
    call.sync.queue other = sync.queue other := by
  cases kind with
  | video =>
    cases other with
    | video => exact absurd rfl distinct
    | audio => exact videoFrame_audioFrames called
  | audio =>
    cases other with
    | video =>
      cases called
      exact audioFrame_videoFrames sync
    | audio => exact absurd rfl distinct

end AVSync

/-- The virtual functions of one side of the player.  `ι` is what a call of the decoder finds, `κ`
what a call of the renderer finds, and `γ` the calls of the renderer. -/
structure MediaSide (δ φ ι ρ κ γ ο : Type) where
  kind : StreamKind
  /-- `decode`, with the frame that `on_decoder_output` is called with. -/
  decode : δ → SentFrame → ι → δ × Option φ
  /-- The check of `on_decoded_image` or `on_decoded_pcm`. -/
  accepts : φ → Bool
  /-- `get_pts` -/
  pts : φ → UInt32
  renderer : Machine ρ γ (List ο)
  onFrame : φ → κ → γ
  /-- The frame of a call of `on_frame`. -/
  frame? : γ → Option φ
  frame?_onFrame : ∀ frame found, frame? (onFrame frame found) = some frame

/-- One side of the player at work. -/
structure MediaPath (σ δ φ ι ρ γ ο : Type) where
  task : StreamTask σ
  decoder : δ
  /-- What `decode` was called with. -/
  decodes : List (SentFrame × ι)
  /-- The decoded frames that were pushed. -/
  pushed : List φ
  /-- The frame that the thread of the renderer has taken and not yet shown. -/
  rendering : Option AVFrame
  renderer : ρ
  /-- What was called on the renderer, and what it put out. -/
  calls : List γ
  output : List ο

variable {σ δ φ ι ρ κ γ ο : Type}

namespace MediaSide

variable (side : MediaSide δ φ ι ρ κ γ ο)

/-- The decoder as a stage: it puts out the frames that are pushed. -/
def decoding : Machine δ (SentFrame × ι) (List φ) where
  step decoder input :=
    let (next, frame) := side.decode decoder input.1 input.2
    (next, (frame.filter side.accepts).toList)

/-- The `AVFrame` of a frame that is pushed behind `count` others. -/
def frameOf (count : Nat) (frame : φ) : AVFrame where
  address := count
  pts := side.pts frame

def framesFrom : Nat → List φ → List AVFrame
  | _, [] => []
  | count, frame :: frames => side.frameOf count frame :: framesFrom (count + 1) frames

theorem framesFrom_append (count : Nat) (first second : List φ) :
    side.framesFrom count (first ++ second) =
      side.framesFrom count first ++ side.framesFrom (count + first.length) second := by
  induction first generalizing count with
  | nil => rfl
  | cons frame first ih =>
    rw [List.cons_append, framesFrom, ih, framesFrom, List.length_cons, List.cons_append,
      Nat.add_assoc, Nat.add_comm 1]

end MediaSide

namespace MediaPath

def create (client : RtpClient) (stream : StreamObject σ) (decoder : δ) (renderer : ρ) :
    MediaPath σ δ φ ι ρ γ ο where
  task := .create client stream
  decoder := decoder
  decodes := []
  pushed := []
  rendering := none
  renderer := renderer
  calls := []
  output := []

/-- An action of the stream that does not call the observer. -/
def stream [OnRtpPacket σ] (path : MediaPath σ δ φ ι ρ γ ο) (action : StreamTask.Action) :
    Option (MediaPath σ δ φ ι ρ γ ο) :=
  match action with
  | .onMediaFrame => none
  | action => (path.task.step action).map fun task => { path with task := task }

/-- `BasePlayer::on_media_frame`, with what it pushes.  Of its sections the only one that the other
threads can tell is the push. -/
def onMediaFrame [OnRtpPacket σ] (side : MediaSide δ φ ι ρ κ γ ο)
    (path : MediaPath σ δ φ ι ρ γ ο) (found : ι) :
    Option (MediaPath σ δ φ ι ρ γ ο × Option AVFrame) :=
  match path.task.thread with
  | .entered _ frame =>
    (path.task.step .onMediaFrame).map fun task =>
      let decoded := side.decode path.decoder frame found
      let path := { path with
        task := task, decoder := decoded.1, decodes := path.decodes ++ [(frame, found)] }
      match decoded.2.filter side.accepts with
      | none => (path, none)
      | some frame =>
        ({ path with pushed := path.pushed ++ [frame] },
          some (side.frameOf path.pushed.length frame))
  | _ => none

/-- What a call brings or does to the renderer. -/
def call (side : MediaSide δ φ ι ρ κ γ ο) (path : MediaPath σ δ φ ι ρ γ ο) (input : γ) :
    MediaPath σ δ φ ι ρ γ ο :=
  { path with
    renderer := (side.renderer.step path.renderer input).1
    calls := path.calls ++ [input]
    output := path.output ++ (side.renderer.step path.renderer input).2 }

/-- The rest of a turn of `Svc`, when there is a frame. -/
def onFrame (side : MediaSide δ φ ι ρ κ γ ο) (path : MediaPath σ δ φ ι ρ γ ο) (found : κ) :
    Option (MediaPath σ δ φ ι ρ γ ο) :=
  match path.rendering with
  | none => none
  | some frame =>
    path.pushed[frame.address]?.map fun frame =>
      { path.call side (side.onFrame frame found) with rendering := none }

end MediaPath

/-! ## What is on its way -/

namespace MediaPath

/-- The frames that were shown, in the order of the calls. -/
def shown (side : MediaSide δ φ ι ρ κ γ ο) (path : MediaPath σ δ φ ι ρ γ ο) : List φ :=
  path.calls.filterMap side.frame?

/-- Each thread has done what its stage does with what it was given, and every frame that was pushed
is shown, with the renderer or in `queue`. -/
structure Flows [OnRtpPacket σ] (side : MediaSide δ φ ι ρ κ γ ο) (client : RtpClient)
    (stream : StreamObject σ) (decoder : δ) (renderer : ρ) (actions : List StreamTask.Action)
    (queue : List AVFrame) (path : MediaPath σ δ φ ι ρ γ ο) : Prop where
  relays : StreamTask.Relays client stream actions path.task
  decodes : path.decodes.map Prod.fst = path.task.handed
  decoder_eq : path.decoder = side.decoding.run decoder path.decodes
  pushed : path.pushed = side.decoding.emissions decoder path.decodes
  renderer_eq : path.renderer = side.renderer.run renderer path.calls
  output : path.output = side.renderer.emissions renderer path.calls
  waiting : ∃ rest, path.pushed = path.shown side ++ rest ∧
    path.rendering.toList ++ queue = side.framesFrom (path.shown side).length rest

variable [OnRtpPacket σ] {side : MediaSide δ φ ι ρ κ γ ο} {client : RtpClient}
  {streamObject : StreamObject σ} {decoder : δ} {renderer : ρ}
  {actions : List StreamTask.Action} {queue : List AVFrame} {path next : MediaPath σ δ φ ι ρ γ ο}

theorem flows_create (client : RtpClient) (streamObject : StreamObject σ) (decoder : δ)
    (renderer : ρ) : Flows side client streamObject decoder renderer [] []
      (create client streamObject decoder renderer) where
  relays := StreamTask.relays_create client streamObject
  decodes := rfl
  decoder_eq := rfl
  pushed := rfl
  renderer_eq := rfl
  output := rfl
  waiting := ⟨[], rfl, rfl⟩

/-- Only `on_media_frame` hands a frame over. -/
theorem handed_of_stream {task after : StreamTask σ} {action : StreamTask.Action}
    (silent : action ≠ .onMediaFrame) (stepped : task.step action = some after) :
    after.handed = task.handed := by
  cases action with
  | receive datagram around =>
    simp only [StreamTask.step] at stepped
    split at stepped
    · cases stepped
      rfl
    · cases stepped
      exact (StreamTask.onRtpPacket_relays ..).2.2.2.2.1
  | takeCommand =>
    simp only [StreamTask.step] at stepped
    split at stepped
    · obtain ⟨_, _, rfl⟩ := Option.map_eq_some_iff.mp stepped
      rfl
    · cases stepped
  | onMediaFrame => exact absurd rfl silent
  | deleteFrame =>
    simp only [StreamTask.step] at stepped
    split at stepped
    · cases stepped
      rfl
    · cases stepped

theorem Flows.stream (flows : Flows side client streamObject decoder renderer actions queue path)
    {action : StreamTask.Action} (stepped : path.stream action = some next) :
    Flows side client streamObject decoder renderer (actions ++ [action]) queue next := by
  have silent : action ≠ .onMediaFrame := by
    rintro rfl
    cases stepped
  have same : path.stream action =
      (path.task.step action).map fun task => { path with task := task } := by
    cases action with
    | onMediaFrame => exact absurd rfl silent
    | receive | takeCommand | deleteFrame => rfl
  rw [same, Option.map_eq_some_iff] at stepped
  obtain ⟨task, stepped, rfl⟩ := stepped
  exact { flows with
    relays := flows.relays.step stepped
    decodes := flows.decodes.trans (handed_of_stream silent stepped).symm }

theorem Flows.onMediaFrame
    (flows : Flows side client streamObject decoder renderer actions queue path) {found : ι}
    {output : Option AVFrame} (stepped : path.onMediaFrame side found = some (next, output)) :
    Flows side client streamObject decoder renderer (actions ++ [.onMediaFrame])
      (queue ++ output.toList) next := by
  unfold MediaPath.onMediaFrame at stepped
  split at stepped
  case h_2 => cases stepped
  case h_1 name frame entered =>
    simp only [Option.map_eq_some_iff] at stepped
    obtain ⟨task, stepped, same⟩ := stepped
    have relays := flows.relays.step stepped
    have handed : task.handed = path.task.handed ++ [frame] := by
      simp only [StreamTask.step, entered, Option.some.injEq] at stepped
      rw [← stepped]
    have decodes : (path.decodes ++ [(frame, found)]).map Prod.fst = task.handed := by
      rw [List.map_append, flows.decodes, handed]
      rfl
    have decoder_eq : (side.decode path.decoder frame found).1 =
        side.decoding.run decoder (path.decodes ++ [(frame, found)]) := by
      rw [Machine.run_concat, ← flows.decoder_eq]
      rfl
    have emitted : side.decoding.emissions decoder (path.decodes ++ [(frame, found)]) =
        path.pushed ++
          ((side.decode path.decoder frame found).2.filter side.accepts).toList := by
      rw [Machine.emissions_concat, ← flows.decoder_eq, ← flows.pushed]
      rfl
    cases decoded : (side.decode path.decoder frame found).2.filter side.accepts with
    | none =>
      simp only [decoded, Prod.mk.injEq] at same
      obtain ⟨rfl, rfl⟩ := same
      rw [decoded, Option.toList_none, List.append_nil] at emitted
      rw [Option.toList_none, List.append_nil]
      exact { flows with
        relays := relays, decodes := decodes, decoder_eq := decoder_eq, pushed := emitted.symm }
    | some picture =>
      simp only [decoded, Prod.mk.injEq] at same
      obtain ⟨rfl, rfl⟩ := same
      rw [decoded] at emitted
      obtain ⟨rest, split, waiting⟩ := flows.waiting
      refine { flows with
        relays := relays, decodes := decodes, decoder_eq := decoder_eq, pushed := emitted.symm,
        waiting := ⟨rest ++ [picture], ?_, ?_⟩ }
      · rw [split, List.append_assoc]
        rfl
      · have length := congrArg List.length split
        rw [List.length_append] at length
        rw [← List.append_assoc, waiting, length]
        exact (side.framesFrom_append (path.shown side).length rest [picture]).symm

/-- The renderer takes the frame in front of the queue, or none. -/
theorem Flows.getFrame
    (flows : Flows side client streamObject decoder renderer actions queue path)
    (idle : path.rendering = none) {frame : Option AVFrame} {after : List AVFrame}
    (taken : frame.toList ++ after = queue) :
    Flows side client streamObject decoder renderer actions after
      { path with rendering := frame } := by
  obtain ⟨rest, split, waiting⟩ := flows.waiting
  rw [idle, ← taken] at waiting
  exact { flows with waiting := ⟨rest, split, waiting⟩ }

/-- A call without a frame. -/
theorem Flows.command
    (flows : Flows side client streamObject decoder renderer actions queue path) {input : γ}
    (silent : side.frame? input = none) :
    Flows side client streamObject decoder renderer actions queue (path.call side input) := by
  have same : (path.call side input).shown side = path.shown side := by
    simp [shown, call, silent]
  exact { flows with
    renderer_eq := by rw [call, Machine.run_concat, ← flows.renderer_eq]
    output := by rw [call, Machine.emissions_concat, ← flows.renderer_eq, ← flows.output]
    waiting := by
      rw [same]
      exact flows.waiting }

theorem Flows.onFrame
    (flows : Flows side client streamObject decoder renderer actions queue path) {found : κ}
    (stepped : path.onFrame side found = some next) :
    Flows side client streamObject decoder renderer actions queue next := by
  unfold MediaPath.onFrame at stepped
  split at stepped
  case h_1 => cases stepped
  case h_2 front rendering =>
    obtain ⟨rest, split, waiting⟩ := flows.waiting
    -- the frame that was taken is the first of those that are not shown
    cases rest with
    | nil => simp [rendering, MediaSide.framesFrom] at waiting
    | cons picture rest =>
      rw [rendering, MediaSide.framesFrom] at waiting
      obtain ⟨rfl, behind⟩ := List.cons.inj waiting
      have found_eq : path.pushed[(path.shown side).length]? = some picture := by
        rw [split]
        simp
      simp only [MediaSide.frameOf, found_eq, Option.map_some, Option.some.injEq] at stepped
      subst stepped
      have grown : (path.call side (side.onFrame picture found)).shown side =
          path.shown side ++ [picture] := by
        simp [shown, call, side.frame?_onFrame]
      exact { flows with
        renderer_eq := by rw [call, Machine.run_concat, ← flows.renderer_eq]
        output := by rw [call, Machine.emissions_concat, ← flows.renderer_eq, ← flows.output]
        waiting := by
          refine ⟨rest, ?_, ?_⟩
          · change path.pushed = (path.call side (side.onFrame picture found)).shown side ++ rest
            rw [grown, split, List.append_assoc]
            rfl
          · change [] ++ queue = side.framesFrom
              ((path.call side (side.onFrame picture found)).shown side).length rest
            rw [grown, List.length_append]
            exact behind }

/-- A frame that was taken can be shown. -/
theorem Flows.onFrame_possible
    (flows : Flows side client streamObject decoder renderer actions queue path) {front : AVFrame}
    (rendering : path.rendering = some front) (found : κ) :
    ∃ next, path.onFrame side found = some next := by
  obtain ⟨rest, split, waiting⟩ := flows.waiting
  cases rest with
  | nil => simp [rendering, MediaSide.framesFrom] at waiting
  | cons picture rest =>
    rw [rendering, MediaSide.framesFrom] at waiting
    obtain ⟨rfl, -⟩ := List.cons.inj waiting
    have found_eq : path.pushed[(path.shown side).length]? = some picture := by
      rw [split]
      simp
    simp [MediaPath.onFrame, rendering, MediaSide.frameOf, found_eq]

/-! ## What comes out -/

/-- What is shown is a beginning of what the decoder makes of a beginning of the stream. -/
theorem Flows.shown_isPrefix
    (flows : Flows side client streamObject decoder renderer actions queue path) :
    path.shown side <+: side.decoding.emissions decoder path.decodes ∧
      path.decodes.map Prod.fst <+:
        (receiving σ).emissions (client, streamObject) (StreamTask.arrivals actions) := by
  constructor
  · obtain ⟨rest, split, -⟩ := flows.waiting
    rw [← flows.pushed, split]
    exact List.prefix_append ..
  · rw [flows.decodes]
    exact flows.relays.handed_isPrefix

end MediaPath

end RtpPlayer
