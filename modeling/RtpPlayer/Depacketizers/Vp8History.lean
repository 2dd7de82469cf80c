import RtpPlayer.Depacketizers.Vp8Steps

/-! # Where the bytes of a VP8 frame come from

A depacketizer run beside a list of the packets whose payloads are in `m_frame`.  The list never
influences the depacketizer; it says of every byte which `parse` call brought it. -/

namespace RtpPlayer

open Foundations
open RtpDepacketizer
open RtpDepacketizerVp8 (Accepts Step step_answer)

namespace Vp8Payload

/-- The payload bytes of a packet; none where its descriptor is refused. -/
def bytesOf (call : ParseCall) : List UInt8 := (ofCall call).elim [] bytes

def BeginsFrame (call : ParseCall) : Prop := ∃ payload, ofCall call = some payload ∧ payload.isFirst

def StartsKeyFrame (call : ParseCall) : Prop :=
  ∃ payload, ofCall call = some payload ∧ payload.BeginsKeyFrame

variable {call : ParseCall} {payload : Vp8Payload}

theorem bytesOf_eq (carries : ofCall call = some payload) : bytesOf call = payload.bytes := by
  rw [bytesOf, carries]
  rfl

theorem beginsFrame_iff (carries : ofCall call = some payload) :
    BeginsFrame call ↔ payload.isFirst = true := by
  simp [BeginsFrame, carries]

theorem startsKeyFrame_iff (carries : ofCall call = some payload) :
    StartsKeyFrame call ↔ payload.BeginsKeyFrame := by
  simp [StartsKeyFrame, carries]

end Vp8Payload

/-- The packet is accepted somewhere in these calls. -/
def RtpDepacketizerVp8.AcceptedIn (depacketizer : RtpDepacketizerVp8)
    (calls : List DepacketizerCall) (packet : ParseCall) : Prop :=
  ∃ before after payload, calls = before ++ .parse packet :: after ∧
    ((machine _).run depacketizer before).Accepts packet payload

structure Vp8History where
  depacketizer : RtpDepacketizerVp8
  held : List ParseCall

namespace Vp8History

/-- What is held after `parse` has returned `result`. -/
def heldAfter (history : Vp8History) (call : ParseCall) (result : ParseResult RtpDepacketizerVp8) :
    List ParseCall :=
  -- delivered, dropped by the gate or by the size limit
  if result.depacketizer.frameLen = 0 then []
  else if result.status = .error then history.held
  else history.held ++ [call]

/-- The packets whose payloads make up the frame that `call` delivers. -/
def delivers (history : Vp8History) (call : ParseCall) : List ParseCall := history.held ++ [call]

def next (history : Vp8History) : DepacketizerCall → Vp8History
  | .parse call =>
    ⟨(answer history.depacketizer call).depacketizer,
      history.heldAfter call (answer history.depacketizer call)⟩
  | .setSyncPoint => ⟨history.depacketizer.setSyncPoint, []⟩

def machine : Machine Vp8History DepacketizerCall (Option (ParseResult RtpDepacketizerVp8)) where
  step history call :=
    (history.next call, ((RtpDepacketizer.machine _).step history.depacketizer call).2)

def begin (depacketizer : RtpDepacketizerVp8) : Vp8History := ⟨depacketizer, []⟩

@[simp] theorem machine_step_fst (history : Vp8History) (call : DepacketizerCall) :
    (machine.step history call).1 = history.next call := rfl

theorem next_depacketizer (history : Vp8History) (call : DepacketizerCall) :
    (history.next call).depacketizer =
      ((RtpDepacketizer.machine _).step history.depacketizer call).1 := by
  cases call with
  | parse call => rfl
  | setSyncPoint => rfl

theorem projects : machine.Projects (RtpDepacketizer.machine _) depacketizer := next_depacketizer

theorem run_begin (depacketizer : RtpDepacketizerVp8) (calls : List DepacketizerCall) :
    (machine.run (begin depacketizer) calls).depacketizer =
      (RtpDepacketizer.machine _).run depacketizer calls :=
  projects.run _ _

/-- `m_frame` holds the payloads of the held packets, one after the other. -/
structure Tracks (history : Vp8History) : Prop where
  frameLen : history.depacketizer.frameLen = (history.held.flatMap Vp8Payload.bytesOf).length
  frame : history.depacketizer.frame.slice 0 (history.held.flatMap Vp8Payload.bytesOf).length =
    history.held.flatMap Vp8Payload.bytesOf
  carries : ∀ call ∈ history.held, ∃ payload, Vp8Payload.ofCall call = some payload

theorem tracks_begin {depacketizer : RtpDepacketizerVp8} (empty : depacketizer.frameLen = 0) :
    (begin depacketizer).Tracks :=
  ⟨empty, rfl, fun _ member => absurd member List.not_mem_nil⟩

variable {history : Vp8History} {call : ParseCall}

/-- A payload is never empty, so an empty buffer holds no packet. -/
theorem Tracks.held_eq_nil_iff (tracks : history.Tracks) :
    history.held = [] ↔ history.depacketizer.frameLen = 0 := by
  rw [tracks.frameLen, List.length_eq_zero_iff]
  constructor
  · intro none
    rw [none]
    rfl
  · intro empty
    refine List.eq_nil_iff_forall_not_mem.mpr fun call member => ?_
    obtain ⟨payload, carries⟩ := tracks.carries call member
    have noBytes := List.flatMap_eq_nil_iff.mp empty call member
    rw [Vp8Payload.bytesOf_eq carries] at noBytes
    exact Vp8Payload.bytes_ne_nil carries noBytes

theorem heldAfter_of_emptied {result : ParseResult RtpDepacketizerVp8}
    (emptied : result.depacketizer.frameLen = 0) : history.heldAfter call result = [] :=
  if_pos emptied

theorem Tracks.heldAfter_of_error (tracks : history.Tracks)
    {result : ParseResult RtpDepacketizerVp8} (error : result.status = .error)
    (same : result.depacketizer.frameLen = history.depacketizer.frameLen) :
    history.heldAfter call result = history.held := by
  rw [heldAfter, same, if_pos error]
  split
  next empty => exact (tracks.held_eq_nil_iff.mpr empty).symm
  next occupied => rfl

theorem heldAfter_of_held {payload : Vp8Payload}
    (accepts : history.depacketizer.Accepts call payload) :
    history.heldAfter call ⟨.needMore, history.depacketizer.hold payload, call.frame⟩ =
      history.held ++ [call] := by
  have occupied : (history.depacketizer.hold payload).frameLen ≠ 0 := by
    have := List.length_pos_of_ne_nil (Vp8Payload.bytes_ne_nil accepts.carries)
    rw [RtpDepacketizerVp8.hold]
    dsimp only
    omega
  rw [heldAfter, if_neg occupied]
  rfl

theorem Tracks.hold (tracks : history.Tracks) {payload : Vp8Payload}
    (accepts : history.depacketizer.Accepts call payload) :
    (Vp8History.mk (history.depacketizer.hold payload) (history.held ++ [call])).Tracks := by
  have bytes : (history.held ++ [call]).flatMap Vp8Payload.bytesOf =
      history.held.flatMap Vp8Payload.bytesOf ++ payload.bytes := by
    rw [List.flatMap_append, List.flatMap_singleton, Vp8Payload.bytesOf_eq accepts.carries]
  refine ⟨?_, ?_, ?_⟩
  · rw [bytes, List.length_append, RtpDepacketizerVp8.hold, tracks.frameLen]
  · rw [bytes, RtpDepacketizerVp8.hold, List.length_append]
    dsimp only
    rw [tracks.frameLen, Memory.slice_write_append, tracks.frame]
  · intro held member
    rcases List.mem_append.mp member with before | last
    · exact tracks.carries held before
    · rw [List.mem_singleton.mp last]
      exact ⟨payload, accepts.carries⟩

theorem Tracks.next (tracks : history.Tracks) (call : DepacketizerCall) :
    (history.next call).Tracks := by
  cases call with
  | setSyncPoint => exact tracks_begin rfl
  | parse call =>
    have step := step_answer history.depacketizer call
    rw [Vp8History.next]
    generalize answer history.depacketizer call = result at step ⊢
    cases step with
    | empty empty =>
      rw [tracks.heldAfter_of_error rfl rfl]
      exact tracks
    | refused refused =>
      rw [tracks.heldAfter_of_error rfl rfl]
      exact ⟨tracks.frameLen, tracks.frame, tracks.carries⟩
    | shortKeyFrame payload carries short =>
      rw [tracks.heldAfter_of_error rfl rfl]
      exact ⟨tracks.frameLen, tracks.frame, tracks.carries⟩
    | tooLarge payload carries whole tooLarge =>
      rw [heldAfter_of_emptied rfl]
      exact tracks_begin rfl
    | held payload accepts unmarked =>
      rw [heldAfter_of_held accepts]
      exact tracks.hold accepts
    | dropped payload accepts marked keyRequired notKey =>
      rw [heldAfter_of_emptied rfl]
      exact tracks_begin rfl
    | delivered payload accepts marked passes =>
      rw [heldAfter_of_emptied rfl]
      exact tracks_begin rfl

theorem Tracks.run (tracks : history.Tracks) (calls : List DepacketizerCall) :
    (machine.run history calls).Tracks :=
  machine.run_invariant (fun _ call holds => holds.next call) tracks calls

/-! ## Where the held packets come from -/

theorem mem_next_held {packet : ParseCall} {call : DepacketizerCall}
    (member : packet ∈ (history.next call).held) :
    packet ∈ history.held ∨
      call = .parse packet ∧ ∃ payload, history.depacketizer.Accepts packet payload := by
  cases call with
  | setSyncPoint => cases member
  | parse call =>
    have step := step_answer history.depacketizer call
    rw [next] at member
    generalize answer history.depacketizer call = result at step member
    cases step with
    | empty | refused | shortKeyFrame =>
      rw [heldAfter] at member
      split at member
      · cases member
      · exact .inl member
    | tooLarge | dropped | delivered => cases member
    | held payload accepts unmarked =>
      rw [heldAfter_of_held accepts] at member
      rcases List.mem_append.mp member with before | last
      · exact .inl before
      · obtain rfl := List.mem_singleton.mp last
        exact .inr ⟨rfl, payload, accepts⟩

/-- What is held after some calls was held before or has been accepted in one of them. -/
theorem mem_run_held {packet : ParseCall} {calls : List DepacketizerCall}
    (member : packet ∈ (machine.run history calls).held) :
    packet ∈ history.held ∨ history.depacketizer.AcceptedIn calls packet := by
  -- on the calls, from the first: what it leaves held is the start of the rest of the run
  induction calls generalizing history with
  | nil => exact .inl member
  | cons call calls ih =>
    rcases ih member with held | ⟨before, after, payload, rfl, accepts⟩
    · rcases mem_next_held held with earlier | ⟨rfl, payload, accepts⟩
      · exact .inl earlier
      · exact .inr ⟨[], calls, payload, rfl, accepts⟩
    · refine .inr ⟨call :: before, after, payload, rfl, ?_⟩
      rw [machine_step_fst, next_depacketizer] at accepts
      exact accepts

/-- Where nothing was held, every packet of the next frame is accepted afterwards. -/
theorem acceptedIn_of_delivers (nothing : history.held = []) {calls : List DepacketizerCall}
    {payload : Vp8Payload}
    (accepts : (machine.run history calls).depacketizer.Accepts call payload) {packet : ParseCall}
    (member : packet ∈ (machine.run history calls).delivers call) :
    history.depacketizer.AcceptedIn (calls ++ [.parse call]) packet := by
  rcases List.mem_append.mp member with held | last
  · rcases mem_run_held held with earlier | ⟨before, after, payload, rfl, accepted⟩
    · rw [nothing] at earlier
      cases earlier
    · exact ⟨before, after ++ [.parse call], payload, by simp, accepted⟩
  · obtain rfl := List.mem_singleton.mp last
    rw [projects.run] at accepts
    exact ⟨calls, [], payload, rfl, accepts⟩

/-! ## What is delivered -/

/-- A delivered frame is the payloads of the packets that make it up, with the timestamp of the
last of them. -/
theorem Tracks.delivery (tracks : history.Tracks) {frame : MediaFrame} {bytes : List UInt8}
    (delivered : delivery (answer history.depacketizer call) = some (frame, bytes)) :
    (∃ payload, history.depacketizer.Accepts call payload ∧
      (history.depacketizer.keyRequired = false ∨
        (history.depacketizer.hold payload).frameType = .videoFrameKey)) ∧
      bytes = (history.delivers call).flatMap Vp8Payload.bytesOf ∧ frame.pts = call.pts.toNat := by
  have step := step_answer history.depacketizer call
  obtain ⟨status, filled, content⟩ := delivery_eq_some_iff.mp delivered
  generalize answer history.depacketizer call = result at step status filled content
  cases step with
  | empty | refused | shortKeyFrame | tooLarge | held | dropped => cases status
  | delivered payload accepts marked passes =>
    obtain ⟨_, _, rfl⟩ := Option.map_eq_some_iff.mp filled
    -- the frame is what is held with the payload of the last packet
    have held := tracks.hold accepts
    refine ⟨⟨payload, accepts, passes⟩, ?_, rfl⟩
    rw [← content, frameBytes, RtpDepacketizerVp8.closedFrame, held.frameLen]
    exact held.frame

end Vp8History

end RtpPlayer
