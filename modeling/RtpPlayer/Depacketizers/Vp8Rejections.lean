import RtpPlayer.Depacketizers.Vp8Steps

/-! # Rejected VP8 packets

Whether a packet that `parse` refuses leaves the frame under reassembly as it was.  Two
depacketizers that agree on that frame agree on every frame after it, so what the members hold
after the packet decides about the whole rest of a run. -/

namespace RtpPlayer

open Foundations
open RtpDepacketizer

namespace RtpDepacketizerVp8

/-! ## Depacketizers that agree on the frame under reassembly -/

/-- What the reassembly of the next frame starts from is the same: only `m_packets` and what lies in
`m_frame` behind the frame may differ. -/
structure SameReassembly (first second : RtpDepacketizerVp8) : Prop where
  keyRequired : second.keyRequired = first.keyRequired
  frameType : second.frameType = first.frameType
  frameLen : second.frameLen = first.frameLen
  bytes : second.frame.slice 0 second.frameLen = first.frame.slice 0 first.frameLen

/-- What a `parse` call gives its caller, without the count of packets. -/
def content (result : ParseResult RtpDepacketizerVp8) :
    DepacketizerStatus × Option (MediaFrame × List UInt8) :=
  (result.status, (delivery result).map fun delivered =>
    ({ delivered.1 with packets := 0 }, delivered.2))

/-- What the calls give, one after the other. -/
def contents (depacketizer : RtpDepacketizerVp8) (calls : List DepacketizerCall) :
    List (Option (DepacketizerStatus × Option (MediaFrame × List UInt8))) :=
  ((machine _).outputs depacketizer calls).map (Option.map content)

namespace SameReassembly

variable {first second : RtpDepacketizerVp8}

theorem setSyncPoint (same : SameReassembly first second) :
    SameReassembly first.setSyncPoint second.setSyncPoint :=
  ⟨rfl, same.frameType, rfl, rfl⟩

theorem hold (same : SameReassembly first second) (payload : Vp8Payload) :
    SameReassembly (first.hold payload) (second.hold payload) where
  keyRequired := same.keyRequired
  frameType := by simp only [RtpDepacketizerVp8.hold, same.frameType]
  frameLen := by simp only [RtpDepacketizerVp8.hold, same.frameLen]
  bytes := by
    simp only [RtpDepacketizerVp8.hold, Memory.slice_write_append, same.bytes]

theorem accepts (same : SameReassembly first second) {call : ParseCall} {payload : Vp8Payload}
    (accepts : first.Accepts call payload) : second.Accepts call payload :=
  ⟨accepts.carries, accepts.whole, by rw [same.frameLen]; exact accepts.fits⟩

/-- The end of `parse` treats them alike. -/
theorem finishPacket (same : SameReassembly first second) (call : ParseCall) :
    SameReassembly (first.finishPacket call).depacketizer (second.finishPacket call).depacketizer ∧
      content (second.finishPacket call) = content (first.finishPacket call) := by
  unfold RtpDepacketizerVp8.finishPacket
  simp only [same.keyRequired, same.frameType]
  split
  next marked =>
    split
    next gated => exact ⟨⟨rfl, rfl, rfl, rfl⟩, rfl⟩
    next passes =>
      refine ⟨⟨rfl, rfl, rfl, rfl⟩, ?_⟩
      cases out : call.frame with
      | none => rfl
      | some frame =>
        simp only [content, delivery, if_true, Option.map_some, frameBytes, same.frameLen]
        have bytes := same.bytes
        rw [same.frameLen] at bytes
        exact congrArg (fun bytes => (DepacketizerStatus.frame, some (_, bytes))) bytes
  next unmarked => exact ⟨same, rfl⟩

theorem answer (same : SameReassembly first second) (call : ParseCall) :
    SameReassembly (RtpDepacketizer.answer first call).depacketizer
        (RtpDepacketizer.answer second call).depacketizer ∧
      content (RtpDepacketizer.answer second call) =
        content (RtpDepacketizer.answer first call) := by
  by_cases empty : call.packetLen = 0
  · rw [answer_of_empty empty, answer_of_empty empty]
    exact ⟨same, rfl⟩
  · cases carries : Vp8Payload.ofCall call with
    | none =>
      rw [answer_of_refused empty carries, answer_of_refused empty carries]
      exact ⟨⟨same.keyRequired, same.frameType, same.frameLen, same.bytes⟩, rfl⟩
    | some payload =>
      by_cases short : payload.ShortKeyFrame
      · rw [answer_of_shortKeyFrame carries short, answer_of_shortKeyFrame carries short]
        exact ⟨⟨same.keyRequired, rfl, same.frameLen, same.bytes⟩, rfl⟩
      by_cases tooLarge : maxEsFrameSize < first.frameLen + payload.bytes.length
      · rw [answer_of_overflows ⟨carries, short, tooLarge⟩,
          answer_of_overflows ⟨carries, short, by rw [same.frameLen]; exact tooLarge⟩]
        exact ⟨⟨same.keyRequired, rfl, rfl, rfl⟩, rfl⟩
      · have accepts : first.Accepts call payload := ⟨carries, short, Nat.not_lt.mp tooLarge⟩
        rw [answer_of_accepts accepts, answer_of_accepts (same.accepts accepts)]
        exact (same.hold payload).finishPacket call

/-- They give the same frames for the same calls, however long the run. -/
theorem contents (same : SameReassembly first second) (calls : List DepacketizerCall) :
    second.contents calls = first.contents calls := by
  induction calls generalizing first second with
  | nil => rfl
  | cons call calls ih =>
    cases call with
    | setSyncPoint => exact congrArg _ (ih same.setSyncPoint)
    | parse call =>
      obtain ⟨next, alike⟩ := same.answer call
      exact congrArg₂ (fun head tail => some head :: tail) alike (ih next)

end SameReassembly

/-! ## Rejected packets -/

/-- `parse` returns an error, and not for the size limit. -/
def Rejects (depacketizer : RtpDepacketizerVp8) (call : ParseCall) : Prop :=
  (answer depacketizer call).status = .error ∧ ∀ payload, ¬ depacketizer.Overflows call payload

/-- Neither the frame under reassembly nor any later one depends on the packet. -/
structure LeavesNoTrace (depacketizer : RtpDepacketizerVp8) (call : ParseCall) : Prop where
  reassembly : SameReassembly depacketizer (answer depacketizer call).depacketizer
  later : ∀ calls, (answer depacketizer call).depacketizer.contents calls =
    depacketizer.contents calls

/-- The packet begins a key frame and is too short for its header, and `m_frame_type` is another
one. -/
def MistakesForKeyFrame (depacketizer : RtpDepacketizerVp8) (call : ParseCall) : Prop :=
  ∃ payload, Vp8Payload.ofCall call = some payload ∧ payload.ShortKeyFrame ∧
    depacketizer.frameType ≠ .videoFrameKey

theorem MistakesForKeyFrame.leavesTrace {depacketizer : RtpDepacketizerVp8} {call : ParseCall}
    (mistakes : depacketizer.MistakesForKeyFrame call) :
    depacketizer.Rejects call ∧ ¬ depacketizer.LeavesNoTrace call := by
  obtain ⟨payload, carries, short, notKey⟩ := mistakes
  have answered : answer depacketizer call = _ := answer_of_shortKeyFrame carries short
  constructor
  · refine ⟨by rw [answered], fun other overflows => ?_⟩
    rw [Option.some.inj (carries.symm.trans overflows.carries)] at short
    exact overflows.whole short
  · intro traceless
    have kept := traceless.reassembly.frameType
    rw [answered] at kept
    exact notKey kept.symm

/-- A rejected packet leaves no trace exactly where it does not set `m_frame_type` first. -/
theorem rejects_leavesNoTrace_iff (depacketizer : RtpDepacketizerVp8) (call : ParseCall) :
    (depacketizer.Rejects call → depacketizer.LeavesNoTrace call) ↔
      ¬ depacketizer.MistakesForKeyFrame call := by
  constructor
  · intro traceless mistakes
    exact mistakes.leavesTrace.2 (traceless mistakes.leavesTrace.1)
  · intro unmistaken rejects
    suffices same : SameReassembly depacketizer (answer depacketizer call).depacketizer from
      ⟨same, same.contents⟩
    have step := step_answer depacketizer call
    obtain ⟨error, fits⟩ := rejects
    generalize answer depacketizer call = result at step error ⊢
    cases step with
    | empty | refused => exact ⟨rfl, rfl, rfl, rfl⟩
    | shortKeyFrame payload carries short =>
      have key : depacketizer.frameType = .videoFrameKey := by
        by_contra notKey
        exact unmistaken ⟨payload, carries, short, notKey⟩
      exact ⟨rfl, key.symm, rfl, rfl⟩
    | tooLarge payload carries whole tooLarge =>
      exact absurd ⟨carries, whole, tooLarge⟩ (fits payload)
    | held | dropped | delivered => cases error

/-- S = 1, PartID = 0, a clear P bit and nothing behind it. -/
def shortKeyFramePacket : ParseCall := .ofPayload [0x10, 0x00] false 0 100

theorem shortKeyFramePacket_leavesTrace :
    ¬ ∀ (depacketizer : RtpDepacketizerVp8) (call : ParseCall),
      depacketizer.Rejects call → depacketizer.LeavesNoTrace call := by
  intro traceless
  have mistakes : (create fun _ => 0).MistakesForKeyFrame shortKeyFramePacket :=
    ⟨⟨true, [0x00]⟩, by decide, by decide, by decide⟩
  exact mistakes.leavesTrace.2 (traceless _ _ mistakes.leavesTrace.1)

end RtpDepacketizerVp8

end RtpPlayer
