import RtpPlayer.Depacketizers.Vp8Steps
import RtpPlayer.Depacketizers.UnitTrace

/-! # The access units of VP8 bytes

What a packet does to a trace of access units.  A payload that does not fit `m_frame` is lost with
what is there, and no frame is ever marked as incomplete. -/

namespace RtpPlayer

open Foundations
open RtpDepacketizer

namespace RtpDepacketizerVp8

/-- What a payload does to the trace. -/
def followPayload (depacketizer : RtpDepacketizerVp8) (call : ParseCall) (trace : UnitTrace)
    (payload : Vp8Payload) : UnitTrace :=
  if payload.ShortKeyFrame then
    trace
  else if maxEsFrameSize < depacketizer.frameLen + payload.bytes.length then
    trace.exceed
  else
    let frame := trace.frame ++ trace.bytesOfUnit payload.bytes.length
    if call.marker = false then
      { trace with frame := frame }
    else if depacketizer.keyRequired = true ∧
        (depacketizer.hold payload).frameType ≠ .videoFrameKey then
      trace.clear
    else
      trace.close ((depacketizer.hold payload).closedFrame call) frame []

instance : UnitTraced RtpDepacketizerVp8 where
  naluLen _ := 0
  frameLen := frameLen
  follow depacketizer call trace :=
    (Vp8Payload.ofCall call).elim trace (depacketizer.followPayload call trace)

/-! ## The trace goes with the depacketizer -/

theorem follow_of_none (depacketizer : RtpDepacketizerVp8) {call : ParseCall}
    (none : Vp8Payload.ofCall call = none) (trace : UnitTrace) :
    UnitTraced.follow depacketizer call trace = trace := by
  simp only [UnitTraced.follow, none, Option.elim_none]

theorem follow_of_some (depacketizer : RtpDepacketizerVp8) {call : ParseCall}
    {payload : Vp8Payload} (carries : Vp8Payload.ofCall call = some payload) (trace : UnitTrace) :
    UnitTraced.follow depacketizer call trace = depacketizer.followPayload call trace payload := by
  simp only [UnitTraced.follow, carries, Option.elim_some]

theorem follow_of_accepts {depacketizer : RtpDepacketizerVp8} {call : ParseCall}
    {payload : Vp8Payload} (accepts : depacketizer.Accepts call payload) (trace : UnitTrace) :
    UnitTraced.follow depacketizer call trace =
      if call.marker = false then
        { trace with frame := trace.frame ++ trace.bytesOfUnit payload.bytes.length }
      else if depacketizer.keyRequired = true ∧
          (depacketizer.hold payload).frameType ≠ .videoFrameKey then
        trace.clear
      else
        trace.close ((depacketizer.hold payload).closedFrame call)
          (trace.frame ++ trace.bytesOfUnit payload.bytes.length) [] := by
  rw [follow_of_some _ accepts.carries, followPayload, if_neg accepts.whole,
    if_neg (Nat.not_lt.mpr accepts.fits)]

theorem follow_of_passes {depacketizer : RtpDepacketizerVp8} {call : ParseCall}
    {payload : Vp8Payload} (accepts : depacketizer.Accepts call payload)
    (marked : call.marker = true)
    (passes : depacketizer.keyRequired = false ∨
      (depacketizer.hold payload).frameType = .videoFrameKey) (trace : UnitTrace) :
    UnitTraced.follow depacketizer call trace =
      trace.close ((depacketizer.hold payload).closedFrame call)
        (trace.frame ++ trace.bytesOfUnit payload.bytes.length) [] := by
  rw [follow_of_accepts accepts, if_neg (by simp [marked]), if_neg (not_gated passes)]

/-- Everything a `parse` call can do under a trace. -/
inductive UnitStep (depacketizer : RtpDepacketizerVp8) (call : ParseCall) (trace : UnitTrace) :
    ParseResult RtpDepacketizerVp8 → UnitTrace → Prop where
  | refused {result : ParseResult RtpDepacketizerVp8}
      (same : result.depacketizer.frameLen = depacketizer.frameLen)
      (silent : result.status ≠ .frame) : UnitStep depacketizer call trace result trace
  | exceeded {result : ParseResult RtpDepacketizerVp8} (payload : Vp8Payload)
      (carries : Vp8Payload.ofCall call = some payload) (whole : ¬ payload.ShortKeyFrame)
      (tooLarge : maxEsFrameSize < depacketizer.frameLen + payload.bytes.length)
      (emptied : result.depacketizer.frameLen = 0) (silent : result.status ≠ .frame) :
      UnitStep depacketizer call trace result trace.exceed
  | held (payload : Vp8Payload) :
      UnitStep depacketizer call trace ⟨.needMore, depacketizer.hold payload, call.frame⟩
        { trace with frame := trace.frame ++ trace.bytesOfUnit payload.bytes.length }
  | dropped {result : ParseResult RtpDepacketizerVp8}
      (emptied : result.depacketizer.frameLen = 0) (silent : result.status ≠ .frame) :
      UnitStep depacketizer call trace result trace.clear
  | delivered (payload : Vp8Payload) (marked : call.marker = true) :
      UnitStep depacketizer call trace
        { status := .frame
          depacketizer := { depacketizer.hold payload with
            keyRequired := false, packets := 0, frameLen := 0 }
          frame := call.frame.map fun _ => (depacketizer.hold payload).closedFrame call }
        (trace.close ((depacketizer.hold payload).closedFrame call)
          (trace.frame ++ trace.bytesOfUnit payload.bytes.length) [])

theorem unitStep_answer (depacketizer : RtpDepacketizerVp8) (call : ParseCall)
    (trace : UnitTrace) :
    UnitStep depacketizer call trace (answer depacketizer call)
      (UnitTraced.follow depacketizer call trace) := by
  have step := step_answer depacketizer call
  generalize answer depacketizer call = result at step ⊢
  cases step with
  | empty empty =>
    rw [follow_of_none _ (Vp8Payload.ofCall_of_empty empty)]
    exact .refused rfl nofun
  | refused refused =>
    rw [follow_of_none _ refused]
    exact .refused rfl nofun
  | shortKeyFrame payload carries short =>
    rw [follow_of_some _ carries, followPayload, if_pos short]
    exact .refused rfl nofun
  | tooLarge payload carries whole tooLarge =>
    rw [follow_of_some _ carries, followPayload, if_neg whole, if_pos tooLarge]
    exact .exceeded payload carries whole tooLarge rfl nofun
  | held payload accepts unmarked =>
    rw [follow_of_accepts accepts, if_pos unmarked]
    exact .held payload
  | dropped payload accepts marked keyRequired notKey =>
    rw [follow_of_accepts accepts, if_neg (by simp [marked]), if_pos ⟨keyRequired, notKey⟩]
    exact .dropped rfl nofun
  | delivered payload accepts marked passes =>
    rw [follow_of_passes accepts marked passes]
    exact .delivered payload marked

instance : LawfulUnitTraced RtpDepacketizerVp8 where
  parsed {trace depacketizer} call describes := by
    obtain ⟨nalu, frame⟩ := describes
    have step := unitStep_answer depacketizer call trace
    generalize answer depacketizer call = result at step ⊢
    generalize UnitTraced.follow depacketizer call trace = followed at step ⊢
    cases step with
    | refused same silent => exact ⟨nalu, frame.trans same.symm⟩
    | exceeded payload carries whole tooLarge emptied silent => exact ⟨rfl, emptied.symm⟩
    | held payload =>
      refine ⟨nalu, ?_⟩
      rw [List.length_append, frame, UnitTrace.bytesOfUnit, List.length_replicate]
      rfl
    | dropped emptied silent => exact ⟨rfl, emptied.symm⟩
    | delivered payload marked => exact ⟨rfl, rfl⟩
  synced _ := ⟨rfl, rfl⟩
  grows {trace depacketizer} call _ := by
    have step := unitStep_answer depacketizer call trace
    generalize answer depacketizer call = result at step
    generalize UnitTraced.follow depacketizer call trace = followed at step ⊢
    cases step with
    | refused | exceeded | held | dropped => exact List.suffix_rfl
    | delivered payload marked => exact List.suffix_cons ..
  delivered {trace depacketizer call frame bytes} describes delivered := by
    have step := unitStep_answer depacketizer call trace
    obtain ⟨status, filled, content⟩ := delivery_eq_some_iff.mp delivered
    generalize answer depacketizer call = result at step status filled content
    generalize UnitTraced.follow depacketizer call trace = followed at step ⊢
    cases step with
    | refused same silent => exact absurd status silent
    | exceeded payload carries whole tooLarge emptied silent => exact absurd status silent
    | held payload => cases status
    | dropped emptied silent => exact absurd status silent
    | delivered payload marked =>
      obtain ⟨_, _, rfl⟩ := Option.map_eq_some_iff.mp filled
      refine ⟨_, rfl, ?_⟩
      rw [← content]
      rw [List.length_append, describes.frame, UnitTrace.bytesOfUnit, List.length_replicate,
        frameBytes, Memory.slice_length]
      rfl

/-! ## Where the size limit may cost bytes -/

/-- What does not fit `m_frame` is in the last packet of its unit. -/
def TruncatesLastOnly (depacketizer : RtpDepacketizerVp8) : DepacketizerCall → Prop
  | .setSyncPoint => True
  | .parse call => ∀ payload, Vp8Payload.ofCall call = some payload →
      ¬ payload.ShortKeyFrame →
      maxEsFrameSize < depacketizer.frameLen + payload.bytes.length → call.marker = true

instance (depacketizer : RtpDepacketizerVp8) : DecidablePred depacketizer.TruncatesLastOnly
  | .setSyncPoint => .isTrue trivial
  | .parse call => Vp8Payload.decidableForallPayload call _

/-- Where no packet hits the size limit while its unit goes on, truncation is reported. -/
theorem truncationIsReported (frame : Memory UInt8) {calls : List DepacketizerCall}
    (limit : (machine RtpDepacketizerVp8).Guarded TruncatesLastOnly (create frame) calls) :
    TruncationIsReported (create frame) calls := by
  refine UnitHistory.truncationIsReported_of_guarded ?_ rfl rfl (UnitHistory.projects.guarded limit)
  rintro ⟨depacketizer, trace⟩ ⟨describes, settled⟩ call limit
  have step := unitStep_answer depacketizer call trace
  dsimp only at settled limit ⊢
  generalize answer depacketizer call = result at step
  generalize UnitTraced.follow depacketizer call trace = followed at step ⊢
  cases step with
  | refused same silent => exact settled.goesOn call.marker
  | exceeded payload carries whole tooLarge emptied silent =>
    rw [if_pos (limit payload carries whole tooLarge)]
    exact settled.exceed
  | held payload =>
    have within : ∀ unit ∈ trace.nalu ++
        (trace.frame ++ trace.bytesOfUnit payload.bytes.length),
        unit ∈ trace.held ∨ unit = trace.unit := by
      intro unit member
      rw [← List.append_assoc] at member
      exact (List.mem_append.mp member).imp_right UnitTrace.mem_bytesOfUnit
    exact (settled.hold _ _ within).goesOn call.marker
  | dropped emptied silent => exact settled.clear.goesOn call.marker
  | delivered payload marked =>
    rw [if_pos marked]
    refine settled.close (fun unit member => ?_) fun _ => rfl
    rw [List.append_nil] at member
    exact (List.mem_append.mp member).imp (List.mem_append_right _) UnitTrace.mem_bytesOfUnit

end RtpDepacketizerVp8

end RtpPlayer
