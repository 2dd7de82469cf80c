import RtpPlayer.Depacketizers.AccessUnitRoundTrip

/-! # H.264 resynchronisation

After `set_sync_point` a depacketizer in any state delivers, of an access unit with an IDR behind
an SPS and a PPS, the parameter sets and everything from that IDR on. -/

namespace RtpPlayer

open Foundations
open RtpDepacketizer
open RtpDepacketizerH264 (packetType spsType ppsType idrType)

/-! ## The access point of some NAL units -/

namespace NalUnit

def isSps (nalu : NalUnit) : Bool := packetType nalu.header = spsType

def isPps (nalu : NalUnit) : Bool := packetType nalu.header = ppsType

def isIdr (nalu : NalUnit) : Bool := packetType nalu.header = idrType

def isParameterSet (nalu : NalUnit) : Bool := nalu.isSps || nalu.isPps

/-- `nalu` is an IDR, and an SPS and a PPS are among those before it. -/
structure Opens (before : List NalUnit) (nalu : NalUnit) : Prop where
  idr : nalu.isIdr
  sps : before.any isSps
  pps : before.any isPps

def Closed (nalus : List NalUnit) : Prop :=
  ∀ before nalu after, nalus = before ++ nalu :: after → ¬ Opens before nalu

/-- `idr` is the first NAL unit that opens: `before` is what comes before it, `after` what comes
behind it. -/
structure AccessPoint (nalus before : List NalUnit) (idr : NalUnit) (after : List NalUnit) :
    Prop where
  split : nalus = before ++ idr :: after
  opens : Opens before idr
  first : Closed before

theorem Closed.front {nalus : List NalUnit} {nalu : NalUnit} (closed : Closed (nalus ++ [nalu])) :
    Closed nalus := by
  rintro before inner after rfl
  exact closed before inner (after ++ [nalu]) (by simp)

/-- Where some NAL unit opens, there is a first. -/
theorem exists_accessPoint {nalus before after : List NalUnit} {idr : NalUnit}
    (split : nalus = before ++ idr :: after) (opens : Opens before idr) :
    ∃ before idr after, AccessPoint nalus before idr after := by
  -- on the length of what comes before
  induction length : before.length using Nat.strongRecOn generalizing before idr after with
  | ind size ih =>
    by_cases closed : Closed before
    · exact ⟨before, idr, after, split, opens, closed⟩
    · simp only [Closed, not_forall, not_not] at closed
      obtain ⟨earlier, nalu, later, rfl, opensEarlier⟩ := closed
      have shorter : earlier.length < size := by
        rw [← length, List.length_append, List.length_cons]
        omega
      exact ih earlier.length shorter
        (split.trans (List.append_assoc earlier (nalu :: later) (idr :: after))) opensEarlier rfl

end NalUnit

namespace RtpDepacketizerH264

open NalUnit (AccessPoint Closed Opens isParameterSet isSps isPps)

/-! ## The gate up to the access point -/

namespace Sentries

/-- The sentries after `set_sync_point` and some NAL units, none of which opens. -/
def behind (nalus : List NalUnit) : Sentries := ⟨!nalus.any isSps, !nalus.any isPps, true⟩

theorem gate_sps (sentries : Sentries) :
    sentries.gate spsType = (true, { sentries with sps := false }) := by
  obtain ⟨_ | _, _ | _, _ | _⟩ := sentries <;> rfl

theorem gate_pps (sentries : Sentries) :
    sentries.gate ppsType = (true, { sentries with pps := false }) := by
  obtain ⟨_ | _, _ | _, _ | _⟩ := sentries <;> rfl

theorem gate_refuses {sentries : Sentries} {naluType : UInt8} (notSps : naluType ≠ spsType)
    (notPps : naluType ≠ ppsType)
    (waits : (sentries.sps = true ∨ sentries.pps = true) ∨
      sentries.idr = true ∧ naluType ≠ idrType) :
    sentries.gate naluType = (false, sentries) := by
  rw [gate, if_pos (by tauto), if_neg (not_or.mpr ⟨notSps, notPps⟩)]
  by_cases parameterSets : sentries.sps = true ∨ sentries.pps = true
  · rw [if_pos parameterSets]
  · rw [if_neg parameterSets, if_pos (waits.resolve_left parameterSets).2]

theorem gate_closed {nalus : List NalUnit} {nalu : NalUnit} (closed : ¬ Opens nalus nalu) :
    (behind nalus).gate (packetType nalu.header) =
      (nalu.isParameterSet, behind (nalus ++ [nalu])) := by
  have different : ppsType ≠ spsType := by decide
  by_cases sps : packetType nalu.header = spsType
  · simp [sps, gate_sps, behind, isParameterSet, isSps, isPps, different.symm]
  by_cases pps : packetType nalu.header = ppsType
  · simp [pps, gate_pps, behind, isParameterSet, isSps, isPps, different]
  have waits : ((behind nalus).sps = true ∨ (behind nalus).pps = true) ∨
      (behind nalus).idr = true ∧ packetType nalu.header ≠ idrType := by
    by_contra! complete
    simp only [behind, ne_eq, Bool.not_eq_true', Bool.not_eq_false] at complete
    exact closed ⟨decide_eq_true (complete.2 trivial), complete.1.1, complete.1.2⟩
  rw [gate_refuses sps pps waits]
  simp [behind, isParameterSet, isSps, isPps, sps, pps]

theorem gate_opens {before : List NalUnit} {idr : NalUnit} (opens : Opens before idr) :
    (behind before).gate (packetType idr.header) = (true, clear) := by
  have type : packetType idr.header = idrType := of_decide_eq_true opens.idr
  rw [type, behind, opens.sps, opens.pps]
  rfl

/-- Up to the access point only the parameter sets pass. -/
theorem kept_of_closed {before : List NalUnit} (closed : Closed before) :
    (behind []).after before = behind before ∧
      (behind []).kept before = before.filter isParameterSet := by
  -- on the NAL units, the last first: whether it opens depends on those before it
  induction before using List.reverseRecOn with
  | nil => exact ⟨rfl, rfl⟩
  | append_singleton before nalu ih =>
    obtain ⟨after, kept⟩ := ih closed.front
    have gate := gate_closed (closed before nalu [] rfl)
    rw [after_append, kept_append, after, kept, kept_singleton, after_cons, after_nil, next, admits,
      gate, List.filter_append, List.filter_singleton, cond_eq_ite]
    exact ⟨rfl, rfl⟩

/-- From the access point on everything passes. -/
theorem kept_of_accessPoint {nalus before after : List NalUnit} {idr : NalUnit}
    (point : AccessPoint nalus before idr after) :
    (behind []).after nalus = clear ∧ (behind []).admitsLast nalus = true ∧
      (behind []).kept nalus = before.filter isParameterSet ++ idr :: after := by
  obtain ⟨behindBefore, keptBefore⟩ := kept_of_closed point.first
  have opened := gate_opens point.opens
  have admitted : (behind before).admits idr = true := by rw [admits, opened]
  have cleared : (behind before).next idr = clear := by rw [next, opened]
  rw [point.split, after_append, kept_append, admitsLast_append _ _ (List.cons_ne_nil idr after),
    behindBefore, keptBefore, after_cons, cleared, after_clear, kept, if_pos admitted, cleared,
    kept_clear]
  refine ⟨rfl, ?_, rfl⟩
  cases after with
  | nil => exact admitted
  | cons next after =>
    rw [← List.singleton_append, admitsLast_append _ _ (List.cons_ne_nil next after), after_cons,
      cleared]
    exact admitsLast_clear (List.cons_ne_nil next after)

end Sentries

/-! ## The access unit after `set_sync_point` -/

theorem gated_setSyncPoint (depacketizer : RtpDepacketizerH264) :
    depacketizer.setSyncPoint.Gated (.behind []) [] [] depacketizer.packets where
  sentries := rfl
  naluLen := rfl
  nalu := rfl
  frameLen := rfl
  frame := rfl
  packets := rfl

/-- Whatever it held and waited for, a depacketizer comes back with the next access unit that has an
access point: the frame is the parameter sets before it and all that follows from it on. -/
theorem resynchronises (depacketizer : RtpDepacketizerH264)
    (packetisations : List NaluPacketisation)
    (opens : ∃ before idr after, nalusOf packetisations = before ++ idr :: after ∧
      Opens before idr)
    (fits : (NalUnit.byteStream (nalusOf packetisations)).length ≤ maxEsFrameSize)
    {earlier : List ParseCall} {last : ParseCall}
    (carry : (earlier ++ [last]).map ParseCall.payload =
      packetisations.flatMap NaluPacketisation.packets)
    (unmarked : ∀ call ∈ earlier, call.marker = false) (marked : last.marker = true) :
    let synchronised := depacketizer.setSyncPoint
    let result := answer (afterPackets synchronised earlier) last
    (∀ result ∈ answers synchronised earlier, result.status = .needMore) ∧
      result.status = .frame ∧
      (∃ before idr after, AccessPoint (nalusOf packetisations) before idr after ∧
        ∃ frame, result.frame = last.frame.map (fun _ => frame) ∧
          RtpDepacketizer.frameBytes result frame =
            NalUnit.byteStream (before.filter isParameterSet ++ idr :: after) ∧
          frame.pts = last.pts.toNat ∧ frame.rtpPayloadType = last.payloadType) ∧
      result.depacketizer.sentries = .clear := by
  obtain ⟨before, idr, after, split, opens⟩ := opens
  obtain ⟨before, idr, after, point⟩ := NalUnit.exists_accessPoint split opens
  have nonempty : packetisations ≠ [] := by
    rintro rfl
    exact List.append_ne_nil_of_right_ne_nil before (List.cons_ne_nil idr after) point.split.symm
  -- of the whole unit the gate keeps what begins with the access point
  obtain ⟨cleared, admitted, kept⟩ := Sentries.kept_of_accessPoint point
  obtain ⟨earlier', last', same, waiting, ends⟩ :=
    depacketizer.gated_setSyncPoint.completes_accessUnit nonempty (by simpa using fits) carry
      (by simpa using unmarked)
  obtain ⟨rfl, rfl⟩ : earlier = earlier' ∧ last = last' := by
    simpa using List.append_inj' same rfl
  rw [marked, admitted, cleared, kept, List.nil_append] at ends
  obtain ⟨status, gated, bytes, flags, frame⟩ := ends
  exact ⟨waiting, status, ⟨before, idr, after, point, _, frame, bytes, rfl, rfl⟩, gated.sentries⟩

/-- A slice that is dropped, the parameter sets in one packet, and an IDR in two fragments. -/
def sampleResynchronisation : List NaluPacketisation :=
  [.single ⟨0x41, [0x9a]⟩ (by decide),
    .stapA 0x78 (by decide) [⟨0x67, [0x42]⟩, ⟨0x68, [0xce]⟩] (by decide) (by decide),
    .fuA ⟨0x65, [0x88, 0x84]⟩ [0x88] [] [0x84] twoFragments]

theorem resynchronises_sample :
    (answer
      (afterPackets
        (⟨fun _ => 9, 7, false, true, false, fun _ => 9, 20, 3⟩ : RtpDepacketizerH264).setSyncPoint
        [.ofPayload [0x41, 0x9a] false 90000 96,
          .ofPayload [0x78, 0, 2, 0x67, 0x42, 0, 2, 0x68, 0xce] false 90000 96,
          .ofPayload [0x7c, 0x85, 0x88] false 90000 96])
      (.ofPayload [0x7c, 0x45, 0x84] true 90000 96)).status = .frame :=
  (resynchronises ⟨fun _ => 9, 7, false, true, false, fun _ => 9, 20, 3⟩ sampleResynchronisation
    ⟨[⟨0x41, [0x9a]⟩, ⟨0x67, [0x42]⟩, ⟨0x68, [0xce]⟩], ⟨0x65, [0x88, 0x84]⟩, [], rfl,
      ⟨by decide, by decide, by decide⟩⟩
    (by decide)
    (by simp only [List.cons_append, List.nil_append, List.map_cons, List.map_nil,
          ParseCall.payload_ofPayload]; decide)
    (by simp [ParseCall.ofPayload]) rfl).2.1

end RtpDepacketizerH264

end RtpPlayer
