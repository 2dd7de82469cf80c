import RtpPlayer.Depacketizers.NaluPacketisation

/-! # The H.264 round trip

Whatever packets a sender makes of an access unit, a depacketizer that holds nothing and waits for
no random access unit delivers the access unit with the last of them and holds nothing again. -/

namespace RtpPlayer

open Foundations
open RtpDepacketizer

namespace RtpDepacketizerH264

variable {depacketizer : RtpDepacketizerH264} {sentries after : Sentries} {admitted : Bool}
  {partialNalu frameBytes : List UInt8} {packets : Nat}

/-- All calls but the last ask for more, and the last ends a NALU, which the gate admits or not. -/
def CompletesGated (depacketizer : RtpDepacketizerH264) (calls : List ParseCall) (admitted : Bool)
    (sentries : Sentries) (frameBytes : List UInt8) (packets : Nat) : Prop :=
  Completes depacketizer calls fun last =>
    EndsGated (last.marker && admitted) last sentries frameBytes packets

/-- Calls that end a NALU without a marker leave the frame to the calls after them. -/
theorem CompletesGated.append {first second : List ParseCall} {total : Sentries}
    {admittedSecond : Bool} {secondBytes : List UInt8} {count : Nat}
    (completes : CompletesGated depacketizer first admitted after frameBytes packets)
    (unmarked : ∀ call ∈ first, call.marker = false)
    (next : ∀ rest : RtpDepacketizerH264, rest.Gated after [] frameBytes packets →
      CompletesGated rest second admittedSecond total secondBytes count) :
    CompletesGated depacketizer (first ++ second) admittedSecond total secondBytes count := by
  obtain ⟨earlier, closing, rfl, waiting, ends⟩ := completes
  rw [unmarked closing (by simp), Bool.false_and] at ends
  obtain ⟨needMore, gated, -⟩ := ends
  obtain ⟨rest, last, rfl, waitingRest, endsRest⟩ := next _ gated
  -- the calls of `second` start where the one that ends the NALU has stopped
  have state : afterPackets depacketizer (earlier ++ [closing]) =
      (answer (afterPackets depacketizer earlier) closing).depacketizer := by
    rw [afterPackets_append]
    rfl
  refine ⟨earlier ++ [closing] ++ rest, last, (List.append_assoc ..).symm, ?_, ?_⟩
  · intro result member
    rw [answers_append, answers_append, state] at member
    simp only [List.mem_append, answers, List.mem_singleton] at member
    rcases member with (before | rfl) | after
    · exact waiting result before
    · exact needMore
    · exact waitingRest result after
  · rw [afterPackets_append, state]
    exact endsRest

/-! ## The packets of some NAL units -/

theorem Gated.completes_fuA {nalu : NalUnit} {header : UInt8} {last : List UInt8}
    (middle : List (List UInt8))
    (gated : depacketizer.Gated sentries partialNalu frameBytes packets)
    (whole : partialNalu ++ middle.flatten ++ last = NaluOperation.startcode ++ nalu.bytes)
    (fits : frameBytes.length + (NalUnit.byteStream [nalu]).length ≤ maxEsFrameSize)
    {calls : List ParseCall}
    (carry : calls.map ParseCall.payload = middle.map (NaluPacketisation.fuAPacket header 0) ++
      [NaluPacketisation.fuAPacket header 0x40 last]) :
    CompletesGated depacketizer calls (sentries.admitsLast [nalu]) (sentries.after [nalu])
      (frameBytes ++ NalUnit.byteStream (sentries.kept [nalu])) (packets + calls.length) := by
  -- on the fragments between the first and the last; `partialNalu` grows by each
  induction middle generalizing depacketizer partialNalu packets calls with
  | nil =>
    obtain ⟨call, rfl, carries⟩ := List.map_eq_singleton_iff.mp carry
    rw [List.flatten_nil, List.append_nil] at whole
    exact completes_singleton (gated.answer_fuA_last whole fits carries)
  | cons fragment middle ih =>
    obtain ⟨call, calls, rfl, carries, carryRest⟩ := List.map_eq_cons_iff.mp carry
    rw [List.flatten_cons, ← List.append_assoc] at whole
    have length : (NalUnit.byteStream [nalu]).length =
        (partialNalu ++ fragment ++ middle.flatten ++ last).length := by
      rw [whole, NalUnit.byteStream, List.flatMap_singleton]
    simp only [List.length_append] at length
    obtain ⟨needMore, gatedNext⟩ := gated.answer_fuA_middle (by omega) carries
    have rest := ih gatedNext whole carryRest
    refine Completes.cons needMore ?_
    rw [List.length_cons, Nat.add_comm calls.length, ← Nat.add_assoc]
    exact rest

theorem Gated.completes_packetisation (packetisation : NaluPacketisation)
    (gated : depacketizer.Gated sentries [] frameBytes packets)
    (fits : frameBytes.length + (NalUnit.byteStream packetisation.nalus).length ≤ maxEsFrameSize)
    {calls : List ParseCall} (carry : calls.map ParseCall.payload = packetisation.packets) :
    CompletesGated depacketizer calls (sentries.admitsLast packetisation.nalus)
      (sentries.after packetisation.nalus)
      (frameBytes ++ NalUnit.byteStream (sentries.kept packetisation.nalus))
      (packets + calls.length) := by
  cases packetisation with
  | single nalu typed =>
    obtain ⟨call, rfl, carries⟩ := List.map_eq_singleton_iff.mp carry
    exact completes_singleton (gated.answer_single typed fits carries)
  | stapA indicator typed nalus nonempty short =>
    obtain ⟨call, rfl, carries⟩ := List.map_eq_singleton_iff.mp carry
    exact completes_singleton (gated.answer_stapA typed nonempty short fits carries)
  | fuA nalu first middle last cut =>
    obtain ⟨call, calls, rfl, carries, carryRest⟩ := List.map_eq_cons_iff.mp carry
    -- the first fragment brings the start code and the header that the others lack
    have whole : NaluOperation.startcode ++ [nalu.header] ++ first ++ middle.flatten ++ last =
        NaluOperation.startcode ++ nalu.bytes := by
      simp [NalUnit.bytes, ← cut]
    have length := congrArg List.length whole
    have stream : NalUnit.byteStream [nalu] = NaluOperation.startcode ++ nalu.bytes :=
      List.flatMap_singleton ..
    have startcode : NaluOperation.startcode.length = 4 := rfl
    rw [← stream] at length
    simp only [List.length_append, List.length_singleton, startcode] at length
    rw [NaluPacketisation.nalus] at fits
    obtain ⟨needMore, gatedNext⟩ := gated.answer_fuA_first (by omega) carries
    refine Completes.cons needMore ?_
    rw [List.length_cons, Nat.add_comm calls.length, ← Nat.add_assoc]
    exact gatedNext.completes_fuA middle whole fits carryRest

/-! ## Access units -/

def nalusOf (packetisations : List NaluPacketisation) : List NalUnit :=
  packetisations.flatMap NaluPacketisation.nalus

theorem nalusOf_cons (packetisation : NaluPacketisation)
    (packetisations : List NaluPacketisation) :
    nalusOf (packetisation :: packetisations) = packetisation.nalus ++ nalusOf packetisations :=
  List.flatMap_cons

theorem nalusOf_ne_nil {packetisations : List NaluPacketisation} (nonempty : packetisations ≠ []) :
    nalusOf packetisations ≠ [] := by
  obtain ⟨packetisation, packetisations, rfl⟩ := List.exists_cons_of_ne_nil nonempty
  rw [nalusOf_cons]
  cases packetisation with
  | stapA _ _ nalus occupied _ => exact List.append_ne_nil_of_left_ne_nil occupied _
  | single | fuA => exact List.cons_ne_nil _ _

theorem Gated.completes_accessUnit {packetisations : List NaluPacketisation}
    (nonempty : packetisations ≠ []) (gated : depacketizer.Gated sentries [] frameBytes packets)
    (fits : frameBytes.length + (NalUnit.byteStream (nalusOf packetisations)).length ≤
      maxEsFrameSize)
    {calls : List ParseCall}
    (carry : calls.map ParseCall.payload = packetisations.flatMap NaluPacketisation.packets)
    (unmarked : ∀ call ∈ calls.dropLast, call.marker = false) :
    CompletesGated depacketizer calls (sentries.admitsLast (nalusOf packetisations))
      (sentries.after (nalusOf packetisations))
      (frameBytes ++ NalUnit.byteStream (sentries.kept (nalusOf packetisations)))
      (packets + calls.length) := by
  -- on the packetisations; each but the last ends a NALU and leaves `m_nalu` empty for the next
  induction packetisations generalizing depacketizer sentries frameBytes packets calls with
  | nil => exact absurd rfl nonempty
  | cons packetisation packetisations ih =>
    rw [List.flatMap_cons] at carry
    obtain ⟨first, rest, rfl, carryFirst, carryRest⟩ := List.map_eq_append_iff.mp carry
    rw [nalusOf_cons] at fits ⊢
    rw [NalUnit.length_byteStream_append] at fits
    have completes := gated.completes_packetisation packetisation (by omega) carryFirst
    cases packetisations with
    | nil =>
      obtain rfl := List.map_eq_nil_iff.mp carryRest
      rw [List.append_nil, show nalusOf [] = [] from rfl, List.append_nil]
      exact completes
    | cons second packetisations =>
      have more : rest ≠ [] := by
        rintro rfl
        have : (second :: packetisations).flatMap NaluPacketisation.packets ≠ [] := by
          cases second <;> simp [NaluPacketisation.packets]
        exact this carryRest.symm
      have occupied := nalusOf_ne_nil (List.cons_ne_nil second packetisations)
      rw [List.dropLast_append_of_ne_nil more] at unmarked
      have room := sentries.byteStream_kept_le packetisation.nalus
      refine completes.append (fun call member => unmarked call (by simp [member])) ?_
      intro state gatedNext
      rw [List.length_append, ← Nat.add_assoc, Sentries.kept_append, NalUnit.byteStream_append,
        ← List.append_assoc, Sentries.after_append, Sentries.admitsLast_append _ _ occupied]
      exact ih (List.cons_ne_nil second packetisations) gatedNext
        (by rw [List.length_append]; omega) carryRest
        (fun call member => unmarked call (by simp [member]))

/-! ## What a depacketizer that waits for no random access unit holds -/

/-- The sentries are down, `partialNalu` is in `m_nalu`, `frameBytes` are in `m_frame` and `packets`
have been counted. -/
structure Holds (depacketizer : RtpDepacketizerH264) (partialNalu frameBytes : List UInt8)
    (packets : Nat) : Prop where
  sps : depacketizer.spsSentry = false
  pps : depacketizer.ppsSentry = false
  idr : depacketizer.idrSentry = false
  naluLen : depacketizer.naluLen = partialNalu.length
  nalu : depacketizer.nalu.slice 0 partialNalu.length = partialNalu
  frameLen : depacketizer.frameLen = frameBytes.length
  frame : depacketizer.frame.slice 0 frameBytes.length = frameBytes
  packets : depacketizer.packets = packets

/-- The sentries are down and nothing is held. -/
def Ready (depacketizer : RtpDepacketizerH264) : Prop :=
  (depacketizer.spsSentry = false ∧ depacketizer.ppsSentry = false ∧
    depacketizer.idrSentry = false) ∧
  depacketizer.naluLen = 0 ∧ depacketizer.frameLen = 0 ∧ depacketizer.packets = 0

/-- How a packet that ends a NALU leaves the frame: delivered where its marker is set. -/
def Ends (marker : Bool) (call : ParseCall) (frameBytes : List UInt8) (packets : Nat)
    (result : ParseResult RtpDepacketizerH264) : Prop :=
  if marker then
    result.status = .frame ∧ result.depacketizer.Ready ∧
      result.depacketizer.frame.slice 0 frameBytes.length = frameBytes ∧
      ∃ flags, result.frame = call.frame.map fun _ =>
        ⟨frameBytes.length, call.pts.toNat, flags, call.payloadType, packets⟩
  else
    result.status = .needMore ∧ result.depacketizer.Holds [] frameBytes packets ∧
      result.frame = call.frame

theorem Holds.gated (holds : depacketizer.Holds partialNalu frameBytes packets) :
    depacketizer.Gated .clear partialNalu frameBytes packets where
  sentries := by rw [RtpDepacketizerH264.sentries, holds.sps, holds.pps, holds.idr, Sentries.clear]
  naluLen := holds.naluLen
  nalu := holds.nalu
  frameLen := holds.frameLen
  frame := holds.frame
  packets := holds.packets

theorem Gated.holds (gated : depacketizer.Gated .clear partialNalu frameBytes packets) :
    depacketizer.Holds partialNalu frameBytes packets where
  sps := congrArg Sentries.sps gated.sentries
  pps := congrArg Sentries.pps gated.sentries
  idr := congrArg Sentries.idr gated.sentries
  naluLen := gated.naluLen
  nalu := gated.nalu
  frameLen := gated.frameLen
  frame := gated.frame
  packets := gated.packets

theorem ready_iff_holds : depacketizer.Ready ↔ depacketizer.Holds [] [] 0 := by
  constructor
  · rintro ⟨⟨sps, pps, idr⟩, naluLen, frameLen, packets⟩
    exact ⟨sps, pps, idr, naluLen, rfl, frameLen, rfl, packets⟩
  · intro holds
    exact ⟨⟨holds.sps, holds.pps, holds.idr⟩, holds.naluLen, holds.frameLen, holds.packets⟩

theorem EndsGated.ends {marker : Bool} {call : ParseCall}
    {result : ParseResult RtpDepacketizerH264}
    (ends : EndsGated marker call .clear frameBytes packets result) :
    Ends marker call frameBytes packets result := by
  cases marker with
  | true =>
    obtain ⟨status, gated, frame⟩ := ends
    exact ⟨status, ready_iff_holds.mpr gated.holds, frame⟩
  | false =>
    obtain ⟨status, gated, frame⟩ := ends
    exact ⟨status, gated.holds, frame⟩

/-- All calls but the last ask for more, and the last ends a NALU. -/
def CompletesNalu (depacketizer : RtpDepacketizerH264) (calls : List ParseCall)
    (frameBytes : List UInt8) (packets : Nat) : Prop :=
  Completes depacketizer calls fun last => Ends last.marker last frameBytes packets

/-- With the sentries down nothing of the access unit is dropped. -/
theorem Holds.completes_accessUnit {packetisations : List NaluPacketisation}
    (nonempty : packetisations ≠ []) (holds : depacketizer.Holds [] frameBytes packets)
    (fits : frameBytes.length + (NalUnit.byteStream (nalusOf packetisations)).length ≤
      maxEsFrameSize)
    {calls : List ParseCall}
    (carry : calls.map ParseCall.payload = packetisations.flatMap NaluPacketisation.packets)
    (unmarked : ∀ call ∈ calls.dropLast, call.marker = false) :
    CompletesNalu depacketizer calls (frameBytes ++ NalUnit.byteStream (nalusOf packetisations))
      (packets + calls.length) := by
  obtain ⟨earlier, last, rfl, waiting, ends⟩ :=
    holds.gated.completes_accessUnit nonempty fits carry unmarked
  rw [Sentries.kept_clear, Sentries.after_clear,
    Sentries.admitsLast_clear (nalusOf_ne_nil nonempty), Bool.and_true] at ends
  exact ⟨earlier, last, rfl, waiting, ends.ends⟩

/-- The packets of an access unit give the access unit back. -/
theorem depacketises_accessUnit (packetisations : List NaluPacketisation)
    (nonempty : packetisations ≠ [])
    (fits : (NalUnit.byteStream (nalusOf packetisations)).length ≤ maxEsFrameSize)
    {earlier : List ParseCall} {last : ParseCall}
    (carry : (earlier ++ [last]).map ParseCall.payload =
      packetisations.flatMap NaluPacketisation.packets)
    (unmarked : ∀ call ∈ earlier, call.marker = false) (marked : last.marker = true)
    (ready : depacketizer.Ready) :
    (∀ result ∈ answers depacketizer earlier, result.status = .needMore) ∧
      (answer (afterPackets depacketizer earlier) last).status = .frame ∧
      (∃ frame, (answer (afterPackets depacketizer earlier) last).frame =
          last.frame.map (fun _ => frame) ∧
        RtpDepacketizer.frameBytes (answer (afterPackets depacketizer earlier) last) frame =
          NalUnit.byteStream (nalusOf packetisations) ∧
        frame.pts = last.pts.toNat ∧ frame.rtpPayloadType = last.payloadType ∧
        frame.packets = (earlier ++ [last]).length) ∧
      (answer (afterPackets depacketizer earlier) last).depacketizer.Ready := by
  obtain ⟨earlier', last', same, waiting, ends⟩ :=
    (ready_iff_holds.mp ready).completes_accessUnit nonempty (by simpa using fits) carry
      (by simpa using unmarked)
  obtain ⟨rfl, rfl⟩ : earlier = earlier' ∧ last = last' := by
    simpa using List.append_inj' same rfl
  rw [marked] at ends
  obtain ⟨status, readyAgain, bytes, flags, frame⟩ := ends
  refine ⟨waiting, status, ⟨_, frame, ?_, rfl, rfl, ?_⟩, readyAgain⟩
  · rw [List.nil_append] at bytes
    exact bytes
  · exact Nat.zero_add _

theorem twoFragments : ([0x88, 0x84] : List UInt8) = [0x88] ++ [].flatten ++ [0x84] := rfl

/-- A parameter set in a packet of its own, then a slice in two fragments. -/
def sampleAccessUnit : List NaluPacketisation :=
  [.single ⟨0x67, [0x42]⟩ (by decide), .fuA ⟨0x65, [0x88, 0x84]⟩ [0x88] [] [0x84] twoFragments]

theorem depacketises_accessUnit_sample :
    (answer
      (afterPackets
        (⟨fun _ => 0, 0, false, false, false, fun _ => 0, 0, 0⟩ : RtpDepacketizerH264)
        [.ofPayload [0x67, 0x42] false 90000 96, .ofPayload [0x7c, 0x85, 0x88] false 90000 96])
      (.ofPayload [0x7c, 0x45, 0x84] true 90000 96)).status = .frame :=
  (depacketises_accessUnit sampleAccessUnit (by decide) (by decide)
    (by simp only [List.cons_append, List.nil_append, List.map_cons, List.map_nil,
          ParseCall.payload_ofPayload]; decide)
    (by simp [ParseCall.ofPayload]) rfl ⟨⟨rfl, rfl, rfl⟩, rfl, rfl, rfl⟩).2.1

end RtpDepacketizerH264

end RtpPlayer
