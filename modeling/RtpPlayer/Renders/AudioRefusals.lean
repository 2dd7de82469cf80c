import Mathlib.Data.List.TakeWhile
import RtpPlayer.Foundations.Pipelines
import RtpPlayer.Renders.AudioBlocks

/-! # A device that OpenSL refuses

The device is opened for a frame, so until OpenSL first opens it the frames are dropped.  From then
on no sample is lost, as long as the format stays what it is. -/

namespace RtpPlayer

open Foundations

namespace AudioOut

/-- A frame, if the call brings one, has 16 bits and the format. -/
def OfFormat (sampleRate channels : Int) : AudioCall → Prop
  | .onFrame frame _ _ => frame.bitsPerSample = 16 ∧ frame.sampleRate = sampleRate ∧
      frame.channels = channels
  | .stopClock => True

/-- OpenSL opens the device for the call, if it is asked to. -/
def Opens : AudioCall → Bool
  | .onFrame _ opensl _ => opensl
  | .stopClock => false

/-- The frames before the first for which the device opens. -/
def missedFrames (calls : List AudioCall) : List AudioDecPcm :=
  AudioCall.frames (calls.takeWhile fun call => !Opens call)

/-- The frames from the first for which the device opens on. -/
def heardFrames (calls : List AudioCall) : List AudioDecPcm :=
  AudioCall.frames (calls.dropWhile fun call => !Opens call)

/-- What is pending in the half buffer of a device that is open. -/
def heldBack (out : AudioOut) : List Int16 := if out.channels = 0 then [] else out.pending

/-- How many samples a half buffer takes of a format. -/
def blockSamples (sampleRate channels : Int) : Nat :=
  sampleBlockSizeMs * sampleRate.toNat / 1000 * channels.toNat

/-- The renderer has an open device for the format, into which the samples went. -/
structure Sounding (sampleRate channels : Int) (out : AudioOut) (events : List AudioEvent)
    (input : List Int16) : Prop where
  blocked : out.Blocked events input
  outBufSamples : out.outBufSamples = blockSamples sampleRate channels
  sampleRate : out.sampleRate = sampleRate
  channels : out.channels = channels

/-- Until the device opens nothing is put out, and from then on every frame goes into it. -/
inductive Hears (sampleRate channels : Int) (calls : List AudioCall) (out : AudioOut) :
    List AudioEvent → Prop where
  | closed (none : ∀ call ∈ calls, Opens call = false) (closed : out.channels = 0) :
      Hears sampleRate channels calls out []
  | sounding {events : List AudioEvent} (some : ∃ call ∈ calls, Opens call = true)
      (sounding : Sounding sampleRate channels out events
        ((heardFrames calls).flatMap samplesOf)) :
      Hears sampleRate channels calls out events

theorem frames_split (calls : List AudioCall) :
    AudioCall.frames calls = missedFrames calls ++ heardFrames calls := by
  rw [missedFrames, heardFrames, ← frames_append, List.takeWhile_append_dropWhile]

theorem heardFrames_of_closed {calls : List AudioCall}
    (none : ∀ call ∈ calls, Opens call = false) : heardFrames calls = [] := by
  rw [heardFrames, List.dropWhile_eq_nil_iff.mpr (by simpa using none)]
  rfl

/-- The first frame for which the device opens. -/
theorem heardFrames_concat_of_opens {calls : List AudioCall}
    (none : ∀ call ∈ calls, Opens call = false) {call : AudioCall} (opens : Opens call = true) :
    heardFrames (calls ++ [call]) = AudioCall.frames [call] := by
  rw [heardFrames, List.dropWhile_append_of_pos (by simpa using none),
    List.dropWhile_cons_of_neg (by simpa using opens)]

theorem heardFrames_concat_of_sounding {calls : List AudioCall}
    (some : ∃ call ∈ calls, Opens call = true) (call : AudioCall) :
    heardFrames (calls ++ [call]) = heardFrames calls ++ AudioCall.frames [call] := by
  have rest : ¬ (calls.dropWhile fun call => !Opens call).isEmpty := by
    simpa [List.dropWhile_eq_nil_iff] using some
  rw [heardFrames, List.dropWhile_append, if_neg rest, frames_append]
  rfl

variable {sampleRate channels : Int} {out : AudioOut} {events : List AudioEvent}

theorem Sounding.puts {input : List Int16} {opened : AudioOut} {frame : AudioDecPcm}
    {allocated : Bool → Memory Int16} {opensl : Bool}
    (sounding : Sounding sampleRate channels opened events input)
    (goes : out.onFrame frame opensl allocated =
      ((opened.putSamples (samplesOf frame)).1.advanceClock frame,
        (opened.putSamples (samplesOf frame)).2)) :
    Sounding sampleRate channels (out.onFrame frame opensl allocated).1
      (events ++ (out.onFrame frame opensl allocated).2) (input ++ samplesOf frame) := by
  have put := (sounding.blocked.putSamples (samplesOf frame)).advanceClock frame
  obtain ⟨index, half, buffers, same⟩ := opened.putSamples_eq (samplesOf frame)
  rw [goes]
  constructor
  case sampleRate =>
    rw [same]
    exact sounding.sampleRate
  case channels =>
    rw [same]
    exact sounding.channels
  case outBufSamples =>
    rw [same]
    exact sounding.outBufSamples
  case blocked => exact put

/-- A device that is opened is ready for the first samples. -/
theorem sounding_init {opened : AudioOut} {opensl : Bool} {allocated : Bool → Memory Int16}
    (succeeds : out.init sampleRate channels opensl allocated = some opened) :
    Sounding sampleRate channels opened [] [] := by
  obtain ⟨blocked, sameChannels, sameRate⟩ := blocked_init succeeds
  refine ⟨blocked, ?_, sameRate, sameChannels⟩
  unfold init at succeeds
  split at succeeds
  · cases succeeds
    rfl
  · cases succeeds

theorem Hears.step {calls : List AudioCall}
    (accepted : opensDevice sampleRate channels 16 true)
    (hears : Hears sampleRate channels calls out events) {call : AudioCall}
    (formed : OfFormat sampleRate channels call) :
    Hears sampleRate channels (calls ++ [call]) (machine.step out call).1
      (events ++ (machine.step out call).2) := by
  cases hears with
  | closed none closed =>
    cases call with
    | stopClock => exact .closed (List.forall_mem_append.mpr ⟨none, by simp [Opens]⟩) closed
    | onFrame frame opensl allocated =>
      obtain ⟨bits, rfl, rfl⟩ := formed
      have positive : 0 < frame.channels := by
        simp only [opensDevice, decide_eq_true_eq] at accepted
        exact accepted.1
      have other : out.channels ≠ frame.channels ∨ out.sampleRate ≠ frame.sampleRate :=
        .inl (by omega)
      cases opensl with
      | true =>
        -- the frame opens the device, with nothing pending
        obtain ⟨opened, opens⟩ : ∃ opened,
            out.clear.init frame.sampleRate frame.channels true allocated = some opened :=
          ⟨_, if_pos accepted⟩
        have puts := (sounding_init opens).puts (onFrame_of_other bits other opens)
        refine .sounding ⟨_, List.mem_append_right _ (List.mem_singleton_self _), rfl⟩ ?_
        rw [heardFrames_concat_of_opens none rfl]
        exact (List.flatMap_singleton samplesOf frame).symm ▸ puts
      | false =>
        -- the frame is dropped, and the next one tries again
        have fails : out.clear.init frame.sampleRate frame.channels false allocated = Option.none := by
          simp [init, opensDevice]
        have drops : machine.step out (.onFrame frame false allocated) = (out.clear, []) := by
          simp [machine, onFrame, bits, other, fails]
        rw [drops]
        exact .closed (List.forall_mem_append.mpr ⟨none, by simp [Opens]⟩) rfl
  | sounding some sounding =>
    have still : ∃ other ∈ calls ++ [call], Opens other = true := by
      obtain ⟨other, member, opens⟩ := some
      exact ⟨other, List.mem_append_left _ member, opens⟩
    refine .sounding still ?_
    rw [heardFrames_concat_of_sounding some, List.flatMap_append]
    cases call with
    | stopClock =>
      have silent : events ++ (machine.step out .stopClock).2 = events := List.append_nil _
      have same : (heardFrames calls).flatMap samplesOf ++
          (AudioCall.frames [.stopClock]).flatMap samplesOf =
          (heardFrames calls).flatMap samplesOf := List.append_nil _
      rw [silent, same]
      exact ⟨sounding.blocked.stopClock, sounding.outBufSamples, sounding.sampleRate,
        sounding.channels⟩
    | onFrame frame opensl allocated =>
      obtain ⟨bits, rfl, rfl⟩ := formed
      have same : (AudioCall.frames [.onFrame frame opensl allocated]).flatMap samplesOf =
          samplesOf frame := List.flatMap_singleton ..
      rw [same]
      exact sounding.puts (onFrame_of_open opensl allocated bits sounding.channels
        sounding.sampleRate)

theorem hears_run {out : AudioOut} (accepted : opensDevice sampleRate channels 16 true)
    (closed : out.channels = 0) {calls : List AudioCall}
    (formed : ∀ call ∈ calls, OfFormat sampleRate channels call) :
    Hears sampleRate channels calls (machine.run out calls) (machine.emissions out calls) := by
  induction calls using List.reverseRecOn with
  | nil => exact .closed (List.forall_mem_nil _) closed
  | append_singleton calls call ih =>
    rw [List.forall_mem_append, List.forall_mem_singleton] at formed
    rw [Machine.emissions_concat, Machine.run_concat]
    exact (ih formed.1).step accepted formed.2

end AudioOut

end RtpPlayer
