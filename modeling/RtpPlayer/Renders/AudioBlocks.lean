import RtpPlayer.Renders.AudioOut

/-! # The blocks of the audio renderer

`on_frame` cuts the samples it is given into half buffers of one size, whatever the lengths of the
frames: nothing is lost, and no half buffer is written while it is played. -/

namespace RtpPlayer

open Foundations

/-- The samples the player is given. -/
def AudioEvent.played : AudioEvent → List Int16
  | enqueue _ samples => samples
  | _ => []

/-- Every `Enqueue` is followed by its `Wait` before anything else happens. -/
def WaitsAfterEnqueue (events : List AudioEvent) : Prop :=
  ∀ before half samples after, events = before ++ .enqueue half samples :: after →
    ∃ later, after = .wait :: later

/-- Nothing is stored between an `Enqueue` and the return of the `Wait` that follows. -/
def QuietWhilePlaying (events : List AudioEvent) : Prop :=
  ∀ before half samples between other index sample after,
    events = before ++ .enqueue half samples :: (between ++ .store other index sample :: after) →
      .wait ∈ between

theorem WaitsAfterEnqueue.quiet {events : List AudioEvent} (waits : WaitsAfterEnqueue events) :
    QuietWhilePlaying events := by
  intro before half samples between other index sample after split
  obtain ⟨later, follows⟩ := waits before half samples _ split
  cases between with
  | nil => cases follows
  | cons event between =>
    obtain ⟨rfl, -⟩ := List.cons.inj follows
    exact List.mem_cons_self

theorem WaitsAfterEnqueue.append {first second : List AudioEvent}
    (firstWaits : WaitsAfterEnqueue first) (secondWaits : WaitsAfterEnqueue second) :
    WaitsAfterEnqueue (first ++ second) := by
  intro before half samples after split
  -- the `Enqueue` is in the second list, or in the first with its `Wait`
  rcases List.append_eq_append_iff.mp split with ⟨more, rfl, rest⟩ | ⟨more, rfl, rest⟩
  · exact secondWaits more half samples after rest
  · cases more with
    | nil => exact secondWaits [] half samples after rest.symm
    | cons event more =>
      obtain ⟨rfl, rfl⟩ := List.cons.inj rest
      obtain ⟨later, rfl⟩ := firstWaits before half samples more rfl
      exact ⟨later ++ second, rfl⟩

namespace AudioOut

/-- The first samples of the half buffer that is filled. -/
def pending (out : AudioOut) : List Int16 :=
  (out.outputBuffer out.currentOutputBuffer).slice 0 out.currentOutputIndex

/-- `input` is what has been put in: the half buffers that went to the player, all of one size, and
the pending samples. -/
structure Blocked (out : AudioOut) (events : List AudioEvent) (input : List Int16) : Prop where
  room : out.currentOutputIndex < out.outBufSamples
  stream : events.flatMap AudioEvent.played ++ out.pending = input
  sizes : ∀ half samples, .enqueue half samples ∈ events → samples.length = out.outBufSamples
  waits : WaitsAfterEnqueue events

theorem putSample_outBufSamples (out : AudioOut) (sample : Int16) :
    (out.putSample sample).1.outBufSamples = out.outBufSamples := by
  unfold putSample
  dsimp only
  split <;> rfl

/-- After the sample the half buffer that was filled holds it behind what was pending. -/
theorem slice_putSample (out : AudioOut) (sample : Int16) :
    ((out.putSample sample).1.outputBuffer out.currentOutputBuffer).slice 0
      (out.currentOutputIndex + 1) = out.pending ++ [sample] := by
  have grown : ((out.outputBuffer out.currentOutputBuffer).write out.currentOutputIndex
      [sample]).slice 0 (out.currentOutputIndex + 1) = out.pending ++ [sample] :=
    Memory.slice_write_append _ _ [sample]
  unfold putSample
  dsimp only
  split <;> simpa using grown

theorem putSample_of_more {out : AudioOut} (sample : Int16)
    (more : out.currentOutputIndex + 1 < out.outBufSamples) :
    (out.putSample sample).1.currentOutputIndex = out.currentOutputIndex + 1 ∧
    (out.putSample sample).1.currentOutputBuffer = out.currentOutputBuffer ∧
    (out.putSample sample).2 = [.store out.currentOutputBuffer out.currentOutputIndex sample] := by
  have notFull : ¬ out.currentOutputIndex + 1 ≥ out.outBufSamples := by omega
  simp [putSample, notFull]

theorem putSample_of_full {out : AudioOut} (sample : Int16)
    (full : out.outBufSamples = out.currentOutputIndex + 1) :
    (out.putSample sample).1.currentOutputIndex = 0 ∧
    (out.putSample sample).2 = [.store out.currentOutputBuffer out.currentOutputIndex sample,
      .enqueue out.currentOutputBuffer (out.pending ++ [sample]), .wait] := by
  have played := out.slice_putSample sample
  simp only [putSample, full, ge_iff_le, Nat.le_refl, if_true] at played ⊢
  rw [played]
  exact ⟨trivial, rfl⟩

theorem waitsAfterEnqueue_store (half : Bool) (index : Nat) (sample : Int16) :
    WaitsAfterEnqueue [.store half index sample] := by
  intro before other samples after split
  have member : AudioEvent.enqueue other samples ∈ [AudioEvent.store half index sample] := by
    simp [split]
  simp at member

theorem waitsAfterEnqueue_played (half : Bool) (index : Nat) (sample : Int16)
    (samples : List Int16) :
    WaitsAfterEnqueue [.store half index sample, .enqueue half samples, .wait] := by
  intro before other played after split
  match before with
  | [] => cases split
  | [_] =>
    cases split
    exact ⟨[], rfl⟩
  | [_, _] => cases split
  | _ :: _ :: _ :: before => simp at split

theorem Blocked.putSample {out : AudioOut} {events : List AudioEvent} {input : List Int16}
    (blocked : out.Blocked events input) (sample : Int16) :
    (out.putSample sample).1.Blocked (events ++ (out.putSample sample).2) (input ++ [sample]) := by
  have room := blocked.room
  by_cases more : out.currentOutputIndex + 1 < out.outBufSamples
  · -- the half buffer has room for more: the sample is only stored
    obtain ⟨index, half, puts⟩ := putSample_of_more sample more
    constructor
    case room =>
      rw [index, putSample_outBufSamples]
      exact more
    case stream =>
      rw [pending, index, half, slice_putSample, puts, ← blocked.stream]
      simp [AudioEvent.played]
    case sizes =>
      intro other samples member
      rw [puts] at member
      rw [putSample_outBufSamples]
      exact blocked.sizes other samples (by simpa using member)
    case waits =>
      rw [puts]
      exact blocked.waits.append (waitsAfterEnqueue_store _ _ _)
  · -- the sample completes the half buffer, which goes to the player whole
    have full : out.outBufSamples = out.currentOutputIndex + 1 := by omega
    obtain ⟨index, puts⟩ := putSample_of_full sample full
    constructor
    case room =>
      rw [index, putSample_outBufSamples]
      omega
    case stream =>
      rw [pending, index, Memory.slice_zero, puts, ← blocked.stream]
      simp [AudioEvent.played]
    case sizes =>
      intro other samples member
      rw [puts] at member
      rw [putSample_outBufSamples]
      simp at member
      rcases member with earlier | ⟨-, rfl⟩
      · exact blocked.sizes other samples earlier
      · simp [pending, full]
    case waits =>
      rw [puts]
      exact blocked.waits.append (waitsAfterEnqueue_played _ _ _ _)

theorem Blocked.putSamples {out : AudioOut} {events : List AudioEvent} {input : List Int16}
    (blocked : out.Blocked events input) (samples : List Int16) :
    (out.putSamples samples).1.Blocked (events ++ (out.putSamples samples).2)
      (input ++ samples) := by
  induction samples generalizing out events input with
  | nil => simpa [AudioOut.putSamples] using blocked
  | cons sample samples ih =>
    have rest := ih (blocked.putSample sample)
    rw [List.append_assoc, List.append_assoc] at rest
    exact rest

/-! ## Frames -/

/-- What putting samples leaves as it is. -/
theorem putSamples_eq (out : AudioOut) (samples : List Int16) :
    ∃ index half buffers, (out.putSamples samples).1 =
      { out with
        currentOutputIndex := index
        currentOutputBuffer := half
        outputBuffer := buffers } := by
  induction samples generalizing out with
  | nil => exact ⟨_, _, _, rfl⟩
  | cons sample samples ih =>
    obtain ⟨index, half, buffers, put⟩ : ∃ index half buffers, (out.putSample sample).1 =
        { out with
          currentOutputIndex := index
          currentOutputBuffer := half
          outputBuffer := buffers } := by
      unfold putSample
      dsimp only
      split <;> exact ⟨_, _, _, rfl⟩
    obtain ⟨index', half', buffers', rest⟩ := ih (out.putSample sample).1
    refine ⟨index', half', buffers', ?_⟩
    rw [put] at rest
    rw [putSamples]
    dsimp only
    rw [put]
    exact rest

/-- The clock is not looked at by the half buffers. -/
theorem Blocked.advanceClock {out : AudioOut} {events : List AudioEvent} {input : List Int16}
    (blocked : out.Blocked events input) (frame : AudioDecPcm) :
    (out.advanceClock frame).Blocked events input :=
  ⟨blocked.room, blocked.stream, blocked.sizes, blocked.waits⟩

theorem Blocked.stopClock {out : AudioOut} {events : List AudioEvent} {input : List Int16}
    (blocked : out.Blocked events input) : out.stopClock.Blocked events input :=
  ⟨blocked.room, blocked.stream, blocked.sizes, blocked.waits⟩

/-- A format the device opens with gives half buffers that hold something. -/
theorem blockSamples_pos {sampleRate channels bitsPerSample : Int} {opensl : Bool}
    (opens : opensDevice sampleRate channels bitsPerSample opensl) :
    0 < sampleBlockSizeMs * sampleRate.toNat / 1000 * channels.toNat := by
  simp only [opensDevice, decide_eq_true_eq] at opens
  obtain ⟨someChannels, -, rate, -⟩ := opens
  simp only [samplingRates, List.mem_cons, List.not_mem_nil, or_false] at rate
  -- 20 ms are at least one sample at each of the rates
  apply Nat.mul_pos
  · simp only [sampleBlockSizeMs]
    omega
  · omega

theorem blocked_init {out opened : AudioOut} {sampleRate channels : Int} {opensl : Bool}
    {allocated : Bool → Memory Int16}
    (succeeds : out.init sampleRate channels opensl allocated = some opened) :
    opened.Blocked [] [] ∧ opened.channels = channels ∧ opened.sampleRate = sampleRate := by
  unfold init at succeeds
  split at succeeds
  next opens =>
    cases succeeds
    refine ⟨⟨blockSamples_pos opens, rfl, ?_, ?_⟩, rfl, rfl⟩
    · intro half samples member
      cases member
    · intro before half samples after split
      simp at split
  next => cases succeeds

/-- A frame of the format the device is open for. -/
theorem onFrame_of_open {out : AudioOut} {frame : AudioDecPcm} (opensl : Bool)
    (allocated : Bool → Memory Int16) (bits : frame.bitsPerSample = 16)
    (channels : out.channels = frame.channels) (sampleRate : out.sampleRate = frame.sampleRate) :
    out.onFrame frame opensl allocated =
      ((out.putSamples (samplesOf frame)).1.advanceClock frame,
        (out.putSamples (samplesOf frame)).2) := by
  simp [onFrame, bits, channels, sampleRate]

/-- A frame of another format for which the device opens. -/
theorem onFrame_of_other {out opened : AudioOut} {frame : AudioDecPcm} {opensl : Bool}
    {allocated : Bool → Memory Int16} (bits : frame.bitsPerSample = 16)
    (other : out.channels ≠ frame.channels ∨ out.sampleRate ≠ frame.sampleRate)
    (opens : out.clear.init frame.sampleRate frame.channels opensl allocated = some opened) :
    out.onFrame frame opensl allocated =
      ((opened.putSamples (samplesOf frame)).1.advanceClock frame,
        (opened.putSamples (samplesOf frame)).2) := by
  simp [onFrame, bits, other, opens]

/-! ## Runs -/

/-- A frame, if the call brings one, has 16 bits and the format, and OpenSL opens the device. -/
def Plays (sampleRate channels : Int) : AudioCall → Prop
  | .onFrame frame opensl _ => frame.bitsPerSample = 16 ∧ frame.sampleRate = sampleRate ∧
      frame.channels = channels ∧ opensl = true
  | .stopClock => True

/-- What the renderer has done after the calls: nothing before the first frame. -/
def Reblocks (sampleRate channels : Int) (calls : List AudioCall) (out : AudioOut)
    (events : List AudioEvent) : Prop :=
  AudioCall.frames calls = [] ∧ out.channels = 0 ∧ events = [] ∨
    out.sampleRate = sampleRate ∧ out.channels = channels ∧
      out.Blocked events ((AudioCall.frames calls).flatMap samplesOf)

variable {sampleRate channels : Int}

theorem frames_append (first second : List AudioCall) :
    AudioCall.frames (first ++ second) = AudioCall.frames first ++ AudioCall.frames second :=
  List.filterMap_append ..

/-- A frame whose samples are put into an open device, whichever way it was opened. -/
theorem reblocks_of_puts {calls : List AudioCall} {frame : AudioDecPcm}
    {allocated : Bool → Memory Int16} {out before : AudioOut} {events : List AudioEvent}
    (rate : before.sampleRate = frame.sampleRate) (channels : before.channels = frame.channels)
    (blocked : before.Blocked events ((AudioCall.frames calls).flatMap samplesOf))
    (goes : out.onFrame frame true allocated =
      ((before.putSamples (samplesOf frame)).1.advanceClock frame,
        (before.putSamples (samplesOf frame)).2)) :
    Reblocks frame.sampleRate frame.channels (calls ++ [.onFrame frame true allocated])
      (out.onFrame frame true allocated).1 (events ++ (out.onFrame frame true allocated).2) := by
  have grown : AudioCall.frames (calls ++ [.onFrame frame true allocated]) =
      AudioCall.frames calls ++ [frame] := by
    simp [AudioCall.frames, AudioCall.frame?]
  have put := (blocked.putSamples (samplesOf frame)).advanceClock frame
  obtain ⟨index, half, buffers, same⟩ := before.putSamples_eq (samplesOf frame)
  rw [Reblocks, grown, goes, List.flatMap_append, List.flatMap_singleton]
  refine .inr ⟨?_, ?_, put⟩
  · rw [same]
    exact rate
  · rw [same]
    exact channels

theorem Reblocks.step {calls : List AudioCall} {out : AudioOut} {events : List AudioEvent}
    (accepted : opensDevice sampleRate channels 16 true)
    (reblocks : Reblocks sampleRate channels calls out events) {call : AudioCall}
    (plays : Plays sampleRate channels call) :
    Reblocks sampleRate channels (calls ++ [call]) (machine.step out call).1
      (events ++ (machine.step out call).2) := by
  cases call with
  | stopClock =>
    have same : AudioCall.frames (calls ++ [.stopClock]) = AudioCall.frames calls := by
      simp [AudioCall.frames, AudioCall.frame?]
    have silent : events ++ (machine.step out .stopClock).2 = events := List.append_nil _
    rw [Reblocks, same, silent]
    rcases reblocks with before | ⟨rate, channels, blocked⟩
    · exact .inl before
    · exact .inr ⟨rate, channels, blocked.stopClock⟩
  | onFrame frame opensl allocated =>
    obtain ⟨bits, rfl, rfl, rfl⟩ := plays
    rcases reblocks with ⟨none, closed, rfl⟩ | ⟨rate, channels, blocked⟩
    · -- the first frame opens the device, with nothing pending
      have positive : 0 < frame.channels := by
        simp only [opensDevice, decide_eq_true_eq] at accepted
        exact accepted.1
      have opens : ∃ opened,
          out.clear.init frame.sampleRate frame.channels true allocated = some opened :=
        ⟨_, if_pos accepted⟩
      obtain ⟨opened, opens⟩ := opens
      obtain ⟨blocked, channels, rate⟩ := blocked_init opens
      refine reblocks_of_puts rate channels ?_ (onFrame_of_other bits (.inl (by omega)) opens)
      rw [none]
      exact blocked
    · exact reblocks_of_puts rate channels blocked
        (onFrame_of_open true allocated bits channels rate)

theorem Reblocks.run {calls : List AudioCall} {out : AudioOut} {events : List AudioEvent}
    (accepted : opensDevice sampleRate channels 16 true)
    (reblocks : Reblocks sampleRate channels calls out events) {more : List AudioCall}
    (plays : ∀ call ∈ more, Plays sampleRate channels call) :
    Reblocks sampleRate channels (calls ++ more) (machine.run out more)
      (events ++ (machine.outputs out more).flatten) := by
  induction more generalizing calls out events with
  | nil => simpa using reblocks
  | cons call more ih =>
    rw [List.forall_mem_cons] at plays
    have stepped := ih (reblocks.step accepted plays.1) plays.2
    rw [List.append_assoc, List.append_assoc] at stepped
    exact stepped

theorem reblocking_lossless (currentOutputIndex : Nat) (currentOutputBuffer : Bool)
    (outputBuffer : Bool → Memory Int16) (outBufSamples : Nat) (calls : List AudioCall)
    (accepted : opensDevice sampleRate channels 16 true)
    (plays : ∀ call ∈ calls, Plays sampleRate channels call)
    (begun : AudioCall.frames calls ≠ []) :
    let out := create currentOutputIndex currentOutputBuffer outputBuffer outBufSamples
    let events := (machine.outputs out calls).flatten
    events.flatMap AudioEvent.played ++ (machine.run out calls).pending =
        (AudioCall.frames calls).flatMap samplesOf ∧
      (∀ half samples, .enqueue half samples ∈ events →
        samples.length = (machine.run out calls).outBufSamples) ∧
      (machine.run out calls).currentOutputIndex < (machine.run out calls).outBufSamples ∧
      QuietWhilePlaying events := by
  intro out events
  have reblocks : Reblocks sampleRate channels [] out [] := .inl ⟨rfl, rfl, rfl⟩
  rcases reblocks.run accepted plays with ⟨none, -⟩ | ⟨-, -, blocked⟩
  · exact absurd none begun
  · exact ⟨blocked.stream, blocked.sizes, blocked.room, blocked.waits.quiet⟩

/-- 150 samples of 8 kHz; a half buffer holds 160. -/
def shortFrame : AudioDecPcm where
  pcm := fun index => Int16.ofNat index
  len := 300
  sampleRate := 8000
  channels := 1
  bitsPerSample := 16
  durationMs := 18
  pts := 0

theorem reblocking_lossless_short :
    let calls : List AudioCall := [.stopClock, .onFrame shortFrame true fun _ _ => 0,
      .onFrame shortFrame true fun _ _ => 0]
    let out := create 0 false (fun _ _ => 0) 0
    let events := (machine.outputs out calls).flatten
    events.flatMap AudioEvent.played ++ (machine.run out calls).pending =
        samplesOf shortFrame ++ samplesOf shortFrame ∧
      (machine.run out calls).currentOutputIndex < (machine.run out calls).outBufSamples := by
  have plays : ∀ call ∈ ([.stopClock, .onFrame shortFrame true fun _ _ => 0,
      .onFrame shortFrame true fun _ _ => 0] : List AudioCall), Plays 8000 1 call := by
    simp [Plays, shortFrame]
  obtain ⟨stream, -, room, -⟩ :=
    reblocking_lossless 0 false (fun _ _ => 0) 0 _ (by decide) plays
      (by simp [AudioCall.frames, AudioCall.frame?])
  exact ⟨stream, room⟩

end AudioOut

end RtpPlayer
