import RtpPlayer.Renders.AudioBlocks

/-! # The audio clock

What `clock_ms` shows after each frame since the clock was stopped, against the timestamps of the
frames.  The gap between two timestamps is multiplied by 1000 as an unsigned number: a step back
wraps, and one of 90 seconds. -/

namespace RtpPlayer

open Foundations

namespace AudioOut

/-- The frames since the clock was last stopped. -/
def sinceStop (calls : List AudioCall) : List AudioDecPcm :=
  calls.foldl (fun since call =>
    match call with
    | .onFrame frame _ _ => since ++ [frame]
    | .stopClock => []) []

/-- The timestamp of the first of the frames, if there was one before this one. -/
def origin (since : List AudioDecPcm) (frame : AudioDecPcm) : UInt32 := (since.head?.getD frame).pts

/-- Where the timestamps say the media is after the frame, in milliseconds of 48 samples. -/
def mediaTime (since : List AudioDecPcm) (frame : AudioDecPcm) : Int :=
  (signedStep (origin since frame) frame.pts).tdiv 48 + frame.durationMs.toInt

/-- The frames have 16 bits, 48 kHz and one format and take some time, and from one to the next the
timestamps go by a multiple of 48. -/
def Regular (channels : Int) (past : List AudioCall) (call : AudioCall) : Prop :=
  ∀ frame ∈ call.frame?, frame.bitsPerSample = 16 ∧ frame.sampleRate = 48000 ∧
    frame.channels = channels ∧ 0 < frame.durationMs.toInt ∧
      ∀ last ∈ (sinceStop past).getLast?, 48 ∣ signedStep last.pts frame.pts

/-- After the frame the clock shows the media time, and but for the durations it has gone on from
the last frame as the timestamps have. -/
def FollowsMedia (out : AudioOut) (past : List AudioCall) (call : AudioCall) : Prop :=
  ∀ frame ∈ call.frame?,
    (machine.run out (past ++ [call])).clockMs.toInt = mediaTime (sinceStop past) frame ∧
      ∀ last ∈ (sinceStop past).getLast?,
        (machine.run out (past ++ [call])).clockMs.toInt - frame.durationMs.toInt =
          (machine.run out past).clockMs.toInt - last.durationMs.toInt +
            (signedStep last.pts frame.pts).tdiv 48

/-- The device opens at the first frame, no step goes back or more than 4294967 samples ahead, and
the media time is one that the clock can show. -/
def Steady (past : List AudioCall) (call : AudioCall) : Prop :=
  ∀ frame opensl allocated, call = .onFrame frame opensl allocated →
    (AudioCall.frames past = [] → opensl = true ∧ 0 < frame.channels) ∧
    (∀ last ∈ (sinceStop past).getLast?,
      0 ≤ signedStep last.pts frame.pts ∧ signedStep last.pts frame.pts ≤ 4294967) ∧
    0 ≤ signedStep (origin (sinceStop past) frame) frame.pts ∧
    mediaTime (sinceStop past) frame < 2 ^ 31

/-! ## The arithmetic -/

/-- A gap is right exactly where its product does not wrap. -/
theorem gap_exact {step : Int} (whole : 48 ∣ step) (lower : -2 ^ 31 ≤ step)
    (upper : step < 2 ^ 31) :
    scaled step 1000 48000 = step / 48 ↔ 0 ≤ step ∧ step ≤ 4294967 := by
  unfold scaled
  omega

/-- Whether the clock shows what it should after a frame that goes on. -/
theorem shown_iff {reached step media shown duration : Int}
    (reachedWhole : 48 ∣ reached) (positive : 0 ≤ reached) (reachedBelow : reached < 2 ^ 31)
    (stepWhole : 48 ∣ step) (stepLower : -2 ^ 31 ≤ step) (stepUpper : step < 2 ^ 31)
    (lower : -2 ^ 31 ≤ media) (upper : media < 2 ^ 31)
    (shownLower : -2 ^ 31 ≤ shown) (shownUpper : shown < 2 ^ 31)
    (sum : media % 2 ^ 32 = (reached + step) % 2 ^ 32)
    (goesOn : shown % 2 ^ 32 = (reached / 48 + scaled step 1000 48000 + duration) % 2 ^ 32)
    (some : 0 < duration) :
    shown = media.tdiv 48 + duration ↔
      (0 ≤ step ∧ step ≤ 4294967) ∧ 0 ≤ media ∧ media.tdiv 48 + duration < 2 ^ 31 := by
  have exact := gap_exact stepWhole stepLower stepUpper
  have truncated := tdiv_cases media 48
  have small : 0 ≤ scaled step 1000 48000 ∧ scaled step 1000 48000 < 89479 := by
    unfold scaled
    omega
  generalize scaled step 1000 48000 = gap at exact goesOn small
  constructor
  · intro follows
    have same : reached / 48 + gap = media.tdiv 48 := by omega
    have ahead : 0 ≤ media := by
      by_contra behind
      -- only a step back from the start itself could be shown as it is, and no gap is negative
      have start : reached = 0 := by omega
      have alone : media = step := by omega
      omega
    have straight : media = reached + step := by omega
    omega
  · intro ⟨fits, ahead, below⟩
    have straight : media = reached + step := by omega
    have gap := exact.mpr fits
    omega

/-! ## One frame -/

theorem sinceStop_stopClock (past : List AudioCall) : sinceStop (past ++ [.stopClock]) = [] := by
  simp [sinceStop]

theorem sinceStop_onFrame (past : List AudioCall) (frame : AudioDecPcm) (opensl : Bool)
    (allocated : Bool → Memory Int16) :
    sinceStop (past ++ [.onFrame frame opensl allocated]) = sinceStop past ++ [frame] := by
  simp [sinceStop]

theorem origin_of_last {since : List AudioDecPcm} {last : AudioDecPcm}
    (goes : last ∈ since.getLast?) (frame : AudioDecPcm) :
    origin since frame = origin since last := by
  cases since with
  | nil => simp at goes
  | cons first rest => rfl

theorem origin_concat (since : List AudioDecPcm) (frame : AudioDecPcm) :
    origin (since ++ [frame]) frame = origin since frame := by
  cases since <;> rfl

/-- What the clock depends on after the calls. -/
structure ClockState (channels : Int) (past : List AudioCall) (out : AudioOut) : Prop where
  closed : AudioCall.frames past = [] → out.channels = 0 ∧ out.sampleRate = 0
  opened : AudioCall.frames past ≠ [] → out.channels = channels ∧ out.sampleRate = 48000
  stopped : sinceStop past = [] → out.renderTime = 0
  shows : ∀ last ∈ (sinceStop past).getLast?, out.lastPts = last.pts ∧
    out.lastDuration = last.durationMs.toUInt32 ∧
    out.clockMs.toInt = mediaTime (sinceStop past) last ∧ 0 < last.durationMs.toInt ∧
    0 ≤ signedStep (origin (sinceStop past) last) last.pts ∧
    48 ∣ signedStep (origin (sinceStop past) last) last.pts

theorem advanceClock_begins {out : AudioOut} (frame : AudioDecPcm) (stopped : out.renderTime = 0) :
    (out.advanceClock frame).clockMs.toInt = frame.durationMs.toInt := by
  simp [advanceClock, clockMs, stopped]

theorem advanceClock_goesOn {out : AudioOut} {frame : AudioDecPcm}
    (rate : frame.sampleRate = 48000) (running : out.renderTime ≠ 0) :
    (out.advanceClock frame).clockMs.toInt % 2 ^ 32 =
      (out.clockMs.toInt + scaled (signedStep out.lastPts frame.pts) 1000 48000 -
        out.lastDuration.toNat + frame.durationMs.toInt) % 2 ^ 32 := by
  have hertz : frame.sampleRate.toNat.toUInt32 = 48000 := by
    rw [rate]
    rfl
  have gap := mul_div_toNat out.lastPts frame.pts 1000 48000
  have shown := toInt_emod frame.durationMs
  simp only [advanceClock, clockMs, running, if_false, hertz]
  rw [toInt_add_emod]
  have sum := toInt32_emod ((frame.pts - out.lastPts) * 1000 / 48000 - out.lastDuration +
    frame.durationMs.toUInt32)
  rw [UInt32.toNat_add, UInt32.toNat_sub] at sum
  have below := out.lastDuration.toNat_lt
  change _ = scaled _ 1000 48000 at gap
  omega

theorem sinceStop_of_frames {past : List AudioCall} (none : AudioCall.frames past = []) :
    sinceStop past = [] := by
  induction past using List.reverseRecOn with
  | nil => rfl
  | append_singleton past call ih =>
    rw [frames_append, List.append_eq_nil_iff] at none
    cases call with
    | stopClock => exact sinceStop_stopClock past
    | onFrame frame opensl allocated => simp [AudioCall.frames, AudioCall.frame?] at none

theorem onFrame_refused {out : AudioOut} {frame : AudioDecPcm} {opensl : Bool}
    (allocated : Bool → Memory Int16) (bits : frame.bitsPerSample = 16)
    (other : out.channels ≠ frame.channels ∨ out.sampleRate ≠ frame.sampleRate)
    (refused : ¬ opensDevice frame.sampleRate frame.channels 16 opensl) :
    out.onFrame frame opensl allocated = (out.clear, []) := by
  simp [onFrame, init, bits, other, refused]

section Step

variable {channels : Int} {past : List AudioCall} {out : AudioOut} {frame : AudioDecPcm}
  {opensl : Bool} {allocated : Bool → Memory Int16}

theorem ClockState.advances (state : ClockState channels past out)
    (regular : Regular channels past (.onFrame frame opensl allocated))
    (opens : AudioCall.frames past = [] → opensl = true ∧ 0 < frame.channels) :
    (out.onFrame frame opensl allocated).1.clockMs = (out.advanceClock frame).clockMs ∧
    (out.onFrame frame opensl allocated).1.lastPts = frame.pts ∧
    (out.onFrame frame opensl allocated).1.lastDuration = frame.durationMs.toUInt32 ∧
    (out.onFrame frame opensl allocated).1.channels = channels ∧
    (out.onFrame frame opensl allocated).1.sampleRate = 48000 := by
  obtain ⟨bits, rate, sameChannels, -, -⟩ := regular frame rfl
  by_cases first : AudioCall.frames past = []
  · obtain ⟨rfl, someChannels⟩ := opens first
    obtain ⟨-, closed⟩ := state.closed first
    have stopped := state.stopped (sinceStop_of_frames first)
    have accepted : opensDevice frame.sampleRate frame.channels 16 true := by
      simp [opensDevice, someChannels, rate, samplingRates]
    have opened : out.clear.init frame.sampleRate frame.channels true allocated = some _ :=
      if_pos accepted
    -- neither opening the device nor the samples touch the clock
    obtain ⟨index, half, buffers, put⟩ := putSamples_eq _ (samplesOf frame)
    rw [onFrame_of_other bits (.inr (by rw [closed, rate]; decide)) opened, put]
    refine ⟨?_, rfl, rfl, sameChannels, rate⟩
    simp [advanceClock, clockMs, stopped]
  · obtain ⟨openChannels, openRate⟩ := state.opened first
    obtain ⟨index, half, buffers, put⟩ := putSamples_eq out (samplesOf frame)
    rw [onFrame_of_open opensl allocated bits (openChannels.trans sameChannels.symm)
      (openRate.trans rate.symm), put]
    exact ⟨rfl, rfl, rfl, openChannels, openRate⟩

/-- The clock after the first frame since it was stopped. -/
theorem ClockState.shows_first (state : ClockState channels past out)
    (first : sinceStop past = []) :
    (out.advanceClock frame).clockMs.toInt = mediaTime (sinceStop past) frame := by
  rw [advanceClock_begins frame (state.stopped first), mediaTime, first]
  simp [origin]

/-- Among the frames since the clock was stopped. -/
theorem ClockState.shows_iff {last : AudioDecPcm} (state : ClockState channels past out)
    (regular : Regular channels past (.onFrame frame opensl allocated))
    (goes : last ∈ (sinceStop past).getLast?) :
    (out.advanceClock frame).clockMs.toInt = mediaTime (sinceStop past) frame ↔
      (0 ≤ signedStep last.pts frame.pts ∧ signedStep last.pts frame.pts ≤ 4294967) ∧
        0 ≤ signedStep (origin (sinceStop past) frame) frame.pts ∧
          mediaTime (sinceStop past) frame < 2 ^ 31 := by
  obtain ⟨-, rate, -, some, apart⟩ := regular frame rfl
  obtain ⟨pts, duration, shown, lastSome, ahead, whole⟩ := state.shows last goes
  rw [mediaTime, origin_of_last goes frame]
  rw [mediaTime] at shown
  have reached : out.clockMs.toInt - out.lastDuration.toNat =
      signedStep (origin (sinceStop past) last) last.pts / 48 := by
    have lastDuration := toInt_emod last.durationMs
    have below := last.durationMs.toInt_lt
    rw [shown, duration, Int.tdiv_eq_ediv_of_nonneg ahead]
    omega
  -- 0 stands for a stopped clock, and the last frame took some time
  have running : out.renderTime ≠ 0 := by
    intro stopped
    have zero : out.clockMs.toInt = 0 := by
      rw [clockMs, stopped]
      rfl
    rw [zero, Int.tdiv_eq_ediv_of_nonneg ahead] at shown
    omega
  have goesOn := advanceClock_goesOn rate running
  rw [pts] at goesOn
  have sum : out.clockMs.toInt + scaled (signedStep last.pts frame.pts) 1000 48000 -
      out.lastDuration.toNat + frame.durationMs.toInt =
        signedStep (origin (sinceStop past) last) last.pts / 48 +
          scaled (signedStep last.pts frame.pts) 1000 48000 + frame.durationMs.toInt := by
    omega
  rw [sum] at goesOn
  exact shown_iff whole ahead (signedStep_bounds ..).2 (apart last goes) (signedStep_bounds ..).1
    (signedStep_bounds ..).2 (signedStep_bounds ..).1 (signedStep_bounds ..).2
    (Int32.le_toInt _) (Int32.toInt_lt _) (signedStep_add ..) goesOn some

theorem steady_onFrame : Steady past (.onFrame frame opensl allocated) ↔
    (AudioCall.frames past = [] → opensl = true ∧ 0 < frame.channels) ∧
    (∀ last ∈ (sinceStop past).getLast?,
      0 ≤ signedStep last.pts frame.pts ∧ signedStep last.pts frame.pts ≤ 4294967) ∧
    0 ≤ signedStep (origin (sinceStop past) frame) frame.pts ∧
    mediaTime (sinceStop past) frame < 2 ^ 31 := by
  constructor
  · intro steady
    exact steady frame opensl allocated rfl
  · intro holds frame' opensl' allocated' same
    cases same
    exact holds

theorem ClockState.shows_onFrame_iff (state : ClockState channels past out)
    (regular : Regular channels past (.onFrame frame opensl allocated)) :
    (out.onFrame frame opensl allocated).1.clockMs.toInt = mediaTime (sinceStop past) frame ↔
      Steady past (.onFrame frame opensl allocated) := by
  obtain ⟨bits, rate, sameChannels, positive, -⟩ := regular frame rfl
  rw [steady_onFrame]
  by_cases opens : AudioCall.frames past = [] → opensl = true ∧ 0 < frame.channels
  · rw [(state.advances regular opens).1]
    cases goes : (sinceStop past).getLast? with
    | none =>
      have first := List.getLast?_eq_none_iff.mp goes
      have time : mediaTime (sinceStop past) frame = frame.durationMs.toInt := by
        simp [mediaTime, origin, first]
      refine iff_of_true (state.shows_first first) ⟨opens, ?_, ?_, ?_⟩
      · intro last member
        cases member
      · simp [origin, first]
      · rw [time]
        exact frame.durationMs.toInt_lt
    | some last =>
      rw [state.shows_iff regular goes]
      simp only [Option.mem_some_iff, forall_eq']
      exact ⟨fun holds => ⟨opens, holds⟩, fun holds => holds.2⟩
  · obtain ⟨first, fails⟩ := Classical.not_imp.mp opens
    obtain ⟨-, closed⟩ := state.closed first
    have since := sinceStop_of_frames first
    have refused : ¬ opensDevice frame.sampleRate frame.channels 16 opensl := by
      simp only [opensDevice, decide_eq_true_eq]
      exact fun accepted => fails ⟨accepted.2.2.2, accepted.1⟩
    rw [onFrame_refused allocated bits (.inr (by rw [closed, rate]; decide)) refused]
    refine iff_of_false ?_ fun holds => opens holds.1
    -- the clock stands still
    have stands : out.clear.clockMs.toInt = 0 := by
      rw [clockMs, clear, state.stopped since]
      rfl
    rw [stands, mediaTime, since]
    simp [origin]
    omega

/-- As long as no step goes back the steps add up to the way from the first frame. -/
theorem ClockState.straight {last : AudioDecPcm} (state : ClockState channels past out)
    (steady : Steady past (.onFrame frame opensl allocated))
    (goes : last ∈ (sinceStop past).getLast?) :
    signedStep (origin (sinceStop past) frame) frame.pts =
      signedStep (origin (sinceStop past) last) last.pts + signedStep last.pts frame.pts := by
  obtain ⟨-, steps, ahead, -⟩ := steady_onFrame.mp steady
  obtain ⟨-, -, -, -, reached, -⟩ := state.shows last goes
  rw [origin_of_last goes frame] at ahead ⊢
  have sum := signedStep_add (origin (sinceStop past) last) last.pts frame.pts
  have below := (signedStep_bounds (origin (sinceStop past) last) last.pts).2
  have below' := (signedStep_bounds (origin (sinceStop past) last) frame.pts).2
  have step := steps last goes
  omega

/-- Where the clock shows the media time it has gone on as the timestamps have. -/
theorem ClockState.goesOn {last : AudioDecPcm} (state : ClockState channels past out)
    (regular : Regular channels past (.onFrame frame opensl allocated))
    (steady : Steady past (.onFrame frame opensl allocated))
    (goes : last ∈ (sinceStop past).getLast?) :
    mediaTime (sinceStop past) frame - frame.durationMs.toInt =
      out.clockMs.toInt - last.durationMs.toInt + (signedStep last.pts frame.pts).tdiv 48 := by
  obtain ⟨-, -, shown, -, -, whole⟩ := state.shows last goes
  obtain ⟨-, -, -, -, apart⟩ := regular frame rfl
  have between := apart last goes
  -- multiples of 48 only, so the divisions add up
  rw [shown, mediaTime, mediaTime, state.straight steady goes,
    Int.tdiv_eq_ediv_of_dvd (Int.dvd_add whole between), Int.tdiv_eq_ediv_of_dvd whole,
    Int.tdiv_eq_ediv_of_dvd between]
  omega

theorem ClockState.onFrame (state : ClockState channels past out)
    (regular : Regular channels past (.onFrame frame opensl allocated))
    (steady : Steady past (.onFrame frame opensl allocated)) :
    ClockState channels (past ++ [.onFrame frame opensl allocated])
      (out.onFrame frame opensl allocated).1 := by
  have shows := (state.shows_onFrame_iff regular).mpr steady
  obtain ⟨opens, -, ahead, -⟩ := steady_onFrame.mp steady
  obtain ⟨-, rate, sameChannels, positive, apart⟩ := regular frame rfl
  obtain ⟨-, pts, duration, openChannels, openRate⟩ := state.advances regular opens
  have some : AudioCall.frames (past ++ [.onFrame frame opensl allocated]) ≠ [] := by
    simp [AudioCall.frames, AudioCall.frame?]
  constructor
  case closed => exact fun none => absurd none some
  case opened => exact fun _ => ⟨openChannels, openRate⟩
  case stopped => simp [sinceStop_onFrame]
  case shows =>
    intro last ends
    rw [sinceStop_onFrame, List.getLast?_concat] at ends
    obtain rfl := Option.mem_some_iff.mp ends
    rw [sinceStop_onFrame, mediaTime, origin_concat]
    refine ⟨pts, duration, shows, positive, ahead, ?_⟩
    cases goes : (sinceStop past).getLast? with
    | none => simp [origin, List.getLast?_eq_none_iff.mp goes]
    | some last =>
      obtain ⟨-, -, -, -, -, whole⟩ := state.shows last goes
      rw [state.straight steady goes]
      exact Int.dvd_add whole (apart last goes)

theorem ClockState.stopClock (state : ClockState channels past out) :
    ClockState channels (past ++ [.stopClock]) out.stopClock := by
  have same : AudioCall.frames (past ++ [.stopClock]) = AudioCall.frames past := by
    simp [AudioCall.frames, AudioCall.frame?]
  constructor
  case closed => rw [same]; exact state.closed
  case opened => rw [same]; exact state.opened
  case stopped => exact fun _ => rfl
  case shows => simp [sinceStop_stopClock]

/-! ## Runs -/

theorem run_onFrame (calls : List AudioCall) :
    machine.run out (calls ++ [.onFrame frame opensl allocated]) =
      ((machine.run out calls).onFrame frame opensl allocated).1 := by
  rw [machine.run_append]
  rfl

theorem ClockState.followsMedia_iff (state : ClockState channels past (machine.run out past))
    {call : AudioCall} (regular : Regular channels past call) :
    FollowsMedia out past call ↔ Steady past call := by
  cases call with
  | stopClock =>
    constructor
    · intro follows frame opensl allocated same
      cases same
    · intro steady frame brings
      cases brings
  | onFrame frame opensl allocated =>
    rw [← state.shows_onFrame_iff regular]
    constructor
    · intro follows
      have shows := (follows frame rfl).1
      rwa [run_onFrame] at shows
    · intro shows frame' brings
      cases brings
      rw [run_onFrame, shows]
      have steady := (state.shows_onFrame_iff regular).mp shows
      exact ⟨rfl, fun last goes => state.goesOn regular steady goes⟩

theorem ClockState.step (state : ClockState channels past (machine.run out past))
    {call : AudioCall} (regular : Regular channels past call) (steady : Steady past call) :
    ClockState channels (past ++ [call]) (machine.run out (past ++ [call])) := by
  cases call with
  | stopClock =>
    rw [machine.run_append]
    exact state.stopClock
  | onFrame frame opensl allocated =>
    rw [run_onFrame]
    exact state.onFrame regular steady

end Step

theorem clockState_create (channels : Int) (currentOutputIndex : Nat) (currentOutputBuffer : Bool)
    (outputBuffer : Bool → Memory Int16) (outBufSamples : Nat) :
    ClockState channels []
      (create currentOutputIndex currentOutputBuffer outputBuffer outBufSamples) := by
  constructor
  case closed => exact fun _ => ⟨rfl, rfl⟩
  case opened => exact fun some => absurd rfl some
  case stopped => exact fun _ => rfl
  case shows => simp [sinceStop]

theorem clock_followsMedia_iff (channels : Int) (currentOutputIndex : Nat)
    (currentOutputBuffer : Bool) (outputBuffer : Bool → Memory Int16) (outBufSamples : Nat)
    (calls : List AudioCall) (regular : AtEachStep (Regular channels) calls) :
    AtEachStep (FollowsMedia
      (create currentOutputIndex currentOutputBuffer outputBuffer outBufSamples)) calls ↔
        AtEachStep Steady calls := by
  let good (past : List AudioCall) : Prop := ClockState channels past (machine.run
    (create currentOutputIndex currentOutputBuffer outputBuffer outBufSamples) past)
  have begins : good [] := clockState_create ..
  refine atEachStep_iff begins ?_ ?_ regular
  · intro past call state regular
    exact state.followsMedia_iff regular
  · intro past call state regular follows
    exact state.step regular ((state.followsMedia_iff regular).mp follows)

/-- 20 ms at 48 kHz. -/
def audioFrame (pts : UInt32) : AudioDecPcm where
  pcm := fun _ => 0
  len := 1920
  sampleRate := 48000
  channels := 1
  bitsPerSample := 16
  durationMs := 20
  pts := pts

def audioCall (pts : UInt32) : AudioCall := .onFrame (audioFrame pts) true fun _ _ => 0

theorem regular_audioCall {past : List AudioCall} {pts : UInt32}
    (apart : ∀ last ∈ (sinceStop past).getLast?, 48 ∣ signedStep last.pts pts) :
    Regular 1 past (audioCall pts) := by
  intro frame brings
  cases brings
  exact ⟨rfl, rfl, rfl, show 0 < (20 : Int32).toInt by decide, apart⟩

theorem regular_pair {first second : UInt32} (apart : 48 ∣ signedStep first second) :
    AtEachStep (Regular 1) [audioCall first, audioCall second] := by
  have both : AtEachStep (Regular 1) ([] ++ [audioCall first] ++ [audioCall second]) := by
    rw [atEachStep_concat, atEachStep_concat]
    refine ⟨⟨atEachStep_nil _, regular_audioCall ?_⟩, regular_audioCall ?_⟩
    · simp [sinceStop]
    · simpa [sinceStop, audioCall, audioFrame] using apart
  exact both

theorem clock_followsMedia_inOrder :
    AtEachStep (FollowsMedia (create 0 false (fun _ _ => 0) 0)) [audioCall 0, audioCall 960] ↔
      AtEachStep Steady [audioCall 0, audioCall 960] :=
  clock_followsMedia_iff 1 0 false (fun _ _ => 0) 0 _ (regular_pair (by decide))

/-- Two frames change places. -/
theorem clock_reordered :
    ¬ ∀ calls, AtEachStep (Regular 1) calls →
      (∀ call ∈ calls, ∃ pts, call = audioCall pts) →
        AtEachStep (FollowsMedia (create 0 false (fun _ _ => 0) 0)) calls := by
  intro follows
  have regular : AtEachStep (Regular 1) [audioCall 960, audioCall 0] := regular_pair (by decide)
  have every := follows _ regular (by simp)
  have state : ClockState 1 [] (create 0 false (fun _ _ => 0) 0) := clockState_create ..
  -- the first frame shows its duration, and the step to the second goes back
  have firstRegular := regular [] _ _ rfl
  have first := (state.followsMedia_iff firstRegular).mp (every [] _ _ rfl)
  have secondRegular := regular [audioCall 960] _ _ rfl
  have second := ((state.step firstRegular first).followsMedia_iff secondRegular).mp
    (every [audioCall 960] _ _ rfl)
  obtain ⟨back, -⟩ := (steady_onFrame.mp second).2.1 (audioFrame 960) rfl
  exact absurd back (by decide)

end AudioOut

end RtpPlayer
