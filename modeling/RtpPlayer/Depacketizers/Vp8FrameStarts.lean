import RtpPlayer.Depacketizers.Vp8History

/-! # Frame starts and the key-frame gate

`parse` never looks whether a packet with S = 1 and PartID = 0 meets an empty buffer, and the gate
looks at `m_frame_type` only.  Where packets and buffer do meet as they should, every frame begins
with its head and the first frame through the gate is a key frame. -/

namespace RtpPlayer

open Foundations
open RtpDepacketizer
open RtpDepacketizerVp8 (Accepts Step step_answer)

/-- The gate drops what is in the buffer at the next marker. -/
def RtpDepacketizerVp8.Shut (depacketizer : RtpDepacketizerVp8) : Prop :=
  depacketizer.keyRequired = true ∧ depacketizer.frameType ≠ .videoFrameKey

instance (depacketizer : RtpDepacketizerVp8) : Decidable depacketizer.Shut :=
  inferInstanceAs (Decidable (_ ∧ _))

namespace RtpDepacketizerVp8

/-- A key frame is required, and neither this packet nor, if it continues a frame, `m_frame_type`
says that there is one. -/
def ShutBehind (depacketizer : RtpDepacketizerVp8) (payload : Vp8Payload) : Prop :=
  depacketizer.keyRequired = true ∧
    if payload.isFirst then ¬ payload.BeginsKeyFrame
    else depacketizer.frameType ≠ .videoFrameKey

instance (depacketizer : RtpDepacketizerVp8) (payload : Vp8Payload) :
    Decidable (depacketizer.ShutBehind payload) :=
  inferInstanceAs (Decidable (_ ∧ _))

theorem shutBehind_iff {depacketizer : RtpDepacketizerVp8} {payload : Vp8Payload} :
    depacketizer.ShutBehind payload ↔ (depacketizer.hold payload).Shut := by
  refine and_congr_right fun _ => ?_
  rw [ne_eq (depacketizer.hold payload).frameType, hold_key_iff]
  split <;> rfl

variable {depacketizer : RtpDepacketizerVp8} {call : ParseCall} {payload : Vp8Payload}

theorem of_delivery {frame : MediaFrame} {bytes : List UInt8}
    (delivered : delivery (answer depacketizer call) = some (frame, bytes)) :
    ∃ payload, depacketizer.Accepts call payload ∧ call.marker = true ∧ call.frame.isSome ∧
      ¬ depacketizer.ShutBehind payload ∧ frame = (depacketizer.hold payload).closedFrame call := by
  have step := step_answer depacketizer call
  obtain ⟨status, handed, -⟩ := delivery_eq_some_iff.mp delivered
  generalize answer depacketizer call = result at step status handed
  cases step with
  | empty | refused | shortKeyFrame | tooLarge | held | dropped => cases status
  | delivered payload accepts marked passes =>
    obtain ⟨out, given, rfl⟩ := Option.map_eq_some_iff.mp handed
    refine ⟨payload, accepts, marked, by simp [given], ?_, rfl⟩
    rw [shutBehind_iff, Shut]
    exact not_gated passes

theorem delivery_of_passes (accepts : depacketizer.Accepts call payload)
    (marked : call.marker = true) (given : call.frame.isSome)
    (passes : ¬ depacketizer.ShutBehind payload) :
    ∃ bytes, delivery (answer depacketizer call) =
      some ((depacketizer.hold payload).closedFrame call, bytes) := by
  obtain ⟨out, given⟩ := Option.isSome_iff_exists.mp given
  rw [shutBehind_iff, Shut] at passes
  rw [answer_of_accepts accepts, finishPacket, if_pos marked, if_neg passes, given]
  exact ⟨_, rfl⟩

/-- A packet begins a frame exactly where it meets an empty buffer, or else the gate is shut behind
it; and no short key frame is refused that would open the gate for what the buffer holds. -/
def MeetsFrameStart (depacketizer : RtpDepacketizerVp8) : DepacketizerCall → Prop
  | .setSyncPoint => True
  | .parse call => ∀ payload, Vp8Payload.ofCall call = some payload →
      (payload.ShortKeyFrame → depacketizer.Shut → depacketizer.frameLen = 0) ∧
      (depacketizer.Accepts call payload →
        (payload.isFirst = true ↔ depacketizer.frameLen = 0) ∨ depacketizer.ShutBehind payload)

instance (depacketizer : RtpDepacketizerVp8) : DecidablePred depacketizer.MeetsFrameStart
  | .setSyncPoint => .isTrue trivial
  | .parse call => Vp8Payload.decidableForallPayload call _

/-- The first packet has S = 1 and PartID = 0, and no other has. -/
def Headed (packets : List ParseCall) : Prop :=
  ∃ head rest, packets = head :: rest ∧ Vp8Payload.BeginsFrame head ∧
    ∀ other ∈ rest, ¬ Vp8Payload.BeginsFrame other

/-- Every frame the calls deliver is the payloads of accepted packets, of which the first and no
other has S = 1 and PartID = 0. -/
def EveryFrameHasItsHead (depacketizer : RtpDepacketizerVp8) (calls : List DepacketizerCall) :
    Prop :=
  ∀ before call after, calls = before ++ .parse call :: after → ∀ frame bytes,
    delivery (answer ((machine _).run depacketizer before) call) = some (frame, bytes) →
      ∃ packets, bytes = packets.flatMap Vp8Payload.bytesOf ∧ Headed packets ∧
        ∀ packet ∈ packets, depacketizer.AcceptedIn (before ++ [.parse call]) packet

end RtpDepacketizerVp8

namespace Vp8History

open RtpDepacketizerVp8 (Headed MeetsFrameStart EveryFrameHasItsHead)

variable {history : Vp8History} {call : ParseCall}

/-! ## Heads -/

/-- What is held has its head, or the gate is shut. -/
structure HeadedOrShut (history : Vp8History) : Prop where
  tracks : history.Tracks
  headed : history.held = [] ∨ Headed history.held ∨ history.depacketizer.Shut

theorem headedOrShut_of_nothing {depacketizer : RtpDepacketizerVp8}
    (empty : depacketizer.frameLen = 0) : (begin depacketizer).HeadedOrShut :=
  ⟨tracks_begin empty, .inl rfl⟩

theorem headed_append {packets : List ParseCall} (headed : Headed packets)
    (continued : ¬ Vp8Payload.BeginsFrame call) : Headed (packets ++ [call]) := by
  obtain ⟨head, rest, rfl, begins, others⟩ := headed
  refine ⟨head, rest ++ [call], rfl, begins, fun other member => ?_⟩
  rcases List.mem_append.mp member with before | last
  · exact others other before
  · rw [List.mem_singleton.mp last]
    exact continued

theorem HeadedOrShut.hold (holds : history.HeadedOrShut)
    {payload : Vp8Payload} (accepts : history.depacketizer.Accepts call payload)
    (meets : (payload.isFirst = true ↔ history.depacketizer.frameLen = 0) ∨
      history.depacketizer.ShutBehind payload) :
    Headed (history.held ++ [call]) ∨ (history.depacketizer.hold payload).Shut := by
  rcases meets with meets | shut
  · rw [← Vp8Payload.beginsFrame_iff accepts.carries, ← holds.tracks.held_eq_nil_iff] at meets
    by_cases nothing : history.held = []
    · rw [nothing]
      exact .inl ⟨call, [], rfl, meets.mpr nothing, fun _ member => absurd member List.not_mem_nil⟩
    · have continued := mt meets.mp nothing
      rcases holds.headed with none | headed | shut
      · exact absurd none nothing
      · exact .inl (headed_append headed continued)
      · rw [Vp8Payload.beginsFrame_iff accepts.carries, Bool.not_eq_true] at continued
        refine .inr ⟨shut.1, ?_⟩
        rw [RtpDepacketizerVp8.hold_frameType_of_continued _ continued]
        exact shut.2
  · exact .inr (RtpDepacketizerVp8.shutBehind_iff.mp shut)

theorem HeadedOrShut.next (holds : history.HeadedOrShut) (input : DepacketizerCall)
    (meets : history.depacketizer.MeetsFrameStart input) : (history.next input).HeadedOrShut := by
  refine ⟨holds.tracks.next input, ?_⟩
  cases input with
  | setSyncPoint => exact .inl rfl
  | parse call =>
    have step := step_answer history.depacketizer call
    rw [Vp8History.next]
    generalize answer history.depacketizer call = result at step ⊢
    cases step with
    | empty | refused =>
      rw [holds.tracks.heldAfter_of_error rfl rfl]
      exact holds.headed
    | shortKeyFrame payload carries short =>
      rw [holds.tracks.heldAfter_of_error rfl rfl]
      -- the type it leaves may open a gate that was shut, so nothing may be held then
      rcases holds.headed with none | headed | shut
      · exact .inl none
      · exact .inr (.inl headed)
      · exact .inl (holds.tracks.held_eq_nil_iff.mpr ((meets payload carries).1 short shut))
    | tooLarge | dropped | delivered => exact .inl rfl
    | held payload accepts unmarked =>
      rw [heldAfter_of_held accepts]
      exact .inr (holds.hold accepts ((meets payload accepts.carries).2 accepts))

end Vp8History

namespace RtpDepacketizerVp8

/-- Where the packets meet frame starts, every frame has its head. -/
theorem everyFrameHasItsHead (frame : Memory UInt8) (calls : List DepacketizerCall)
    (meets : (machine _).Guarded MeetsFrameStart (create frame) calls) :
    EveryFrameHasItsHead (create frame) calls := by
  rintro before call after rfl out bytes delivered
  obtain ⟨meetsBefore, meetsCall, -⟩ := ((machine _).guarded_append ..).mp meets
  have holds : (Vp8History.machine.run (.begin (create frame)) before).HeadedOrShut :=
    Vp8History.machine.run_invariant_of_guarded (fun _ input holds meets => holds.next input meets)
      (Vp8History.headedOrShut_of_nothing rfl) (Vp8History.projects.guarded meetsBefore)
  rw [← Vp8History.run_begin] at delivered meetsCall
  obtain ⟨⟨payload, accepts, passes⟩, same, -⟩ := holds.tracks.delivery delivered
  refine ⟨_, same, ?_, fun packet member =>
    Vp8History.acceptedIn_of_delivers rfl accepts member⟩
  rcases holds.hold accepts ((meetsCall payload accepts.carries).2 accepts) with headed | shut
  · exact headed
  -- a frame that is delivered has passed the gate, so it was not shut
  · rcases passes with notRequired | key
    · exact absurd (notRequired.symm.trans shut.1) Bool.false_ne_true
    · exact absurd key shut.2

def sampleKeyFrame : ParseCall :=
  .ofPayload [0x10, 0x10, 0, 0, 0x9d, 1, 0x2a, 0x80, 2, 0xe0, 1] true 0 100

def sampleTail : ParseCall := .ofPayload [0x00, 7, 8] true 3000 100

theorem everyFrameHasItsHead_sample :
    EveryFrameHasItsHead (create fun _ => 0)
      [.parse sampleKeyFrame, .parse (.ofPayload [0x10, 0x11] false 3000 100), .parse sampleTail] :=
  everyFrameHasItsHead _ _ (by decide +kernel)

/-- With the first packet of a frame lost, the rest of it is delivered. -/
theorem everyFrameHasItsHead_lostHead :
    ¬ EveryFrameHasItsHead (create fun _ => 0) [.parse sampleKeyFrame, .parse sampleTail] := by
  intro all
  obtain ⟨packets, bytes, ⟨head, rest, rfl, ⟨payload, carries, first⟩, -⟩, accepted⟩ :=
    all [.parse sampleKeyFrame] sampleTail [] rfl ⟨2, 3000, frameIsSyncPoint, 100, 1⟩ [7, 8]
      (by decide +kernel)
  obtain ⟨before, after, -, split, -⟩ := accepted head (by simp)
  have member : DepacketizerCall.parse head ∈
      [DepacketizerCall.parse sampleKeyFrame] ++ [.parse sampleTail] := by
    rw [split]
    simp
  simp only [List.cons_append, List.nil_append, List.mem_cons, DepacketizerCall.parse.injEq,
    List.not_mem_nil, or_false] at member
  rcases member with rfl | rfl
  · have length := congrArg List.length bytes
    rw [List.flatMap_cons, List.length_append] at length
    have whole : (Vp8Payload.bytesOf sampleKeyFrame).length = 10 := by decide +kernel
    rw [whole] at length
    simp only [List.length_cons, List.length_nil] at length
    omega
  · have continued : Vp8Payload.ofCall sampleTail = some ⟨false, [7, 8]⟩ := by decide +kernel
    obtain rfl := Option.some.inj (continued.symm.trans carries)
    cases first

end RtpDepacketizerVp8

end RtpPlayer
