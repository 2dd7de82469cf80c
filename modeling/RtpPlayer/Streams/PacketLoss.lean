import RtpPlayer.Depacketizers.RandomAccessGate
import RtpPlayer.Depacketizers.Resynchronisation
import RtpPlayer.Foundations.Losses
import RtpPlayer.Streams.FrameDelivery

/-! # What a lost packet costs

A depacketizer starts afresh behind the last packet of a frame, however much of the frame it has
missed.  So a lost packet costs its own frame, and the last packet of a frame of which others arrive
costs the next frame too of which any packet arrives; every other frame is handed over as it was
sent. -/

namespace RtpPlayer

open Foundations
open RtpDepacketizer
open RtpClient (Listening)

/-- What a depacketizer delivers for arrivals, as its receiver sees it. -/
def delivering (δ : Type) [RtpDepacketizer δ] {ο : Type} (view : MediaFrame × List UInt8 → ο) :
    Machine δ Arrival (List ο) where
  step depacketizer arrival :=
    ((answer depacketizer arrival.call).depacketizer,
      ((delivery (answer depacketizer arrival.call)).map view).toList)

section Delivering

variable {δ ο : Type} [RtpDepacketizer δ] {view : MediaFrame × List UInt8 → ο}

theorem emissions_delivering (depacketizer : δ) (arrivals : List Arrival) :
    (delivering δ view).emissions depacketizer arrivals =
      ((answers depacketizer (arrivals.map Arrival.call)).filterMap delivery).map view := by
  induction arrivals generalizing depacketizer with
  | nil => rfl
  | cons arrival arrivals ih =>
    rw [Machine.emissions_cons, ih, List.map_cons, answers]
    cases delivered : delivery (answer depacketizer arrival.call) with
    | none =>
      rw [List.filterMap_cons_none delivered]
      simp [delivering, delivered]
    | some frame =>
      rw [List.filterMap_cons_some delivered]
      simp [delivering, delivered]

theorem run_delivering (depacketizer : δ) (arrivals : List Arrival) :
    (delivering δ view).run depacketizer arrivals =
      afterPackets depacketizer (arrivals.map Arrival.call) := by
  induction arrivals generalizing depacketizer with
  | nil => rfl
  | cons arrival arrivals ih =>
    rw [Machine.run_cons, ih]
    rfl

/-- What a video stream puts out is what its depacketizer delivers for its own packets. -/
theorem receiving_delivering {client : RtpClient} {base : RtpStream} {payloadType : BitVec 7}
    {all : List Arrival} {own : List (List Arrival)} (listening : Listening client)
    (typed : base.payloadType = payloadType.toNat) (multiplexed : Multiplexed payloadType all own)
    (depacketizer : δ) (look : SentFrame → ο) :
    ((receiving (VideoStream δ)).emissions (client, ⟨base, ⟨some depacketizer⟩⟩)
        (all.map Arrival.bytes)).map look =
      (delivering δ (look ∘ base.copyOf)).emissions depacketizer own.flatten := by
  rw [receiving_multiplexed listening typed multiplexed, emissions_delivering, List.map_map,
    List.map_flatten]

end Delivering

/-! ## Behind the last packet of an access unit -/

/-- The last packet is not an empty fragment. -/
def NaluPacketisation.EndsOccupied : NaluPacketisation → Prop
  | .fuA _ _ _ last _ => last ≠ []
  | .single _ _ | .stapA _ _ _ _ _ => True

namespace RtpDepacketizerH264

open NalUnit (Opens)

variable {depacketizer : RtpDepacketizerH264} {call : ParseCall}
  {result : ParseResult RtpDepacketizerH264}

/-- A block that does not fit empties the depacketizer, and one that fits goes to `m_nalu`. -/
theorem ready_append (clear : result.depacketizer.sentries = .clear) (part : NaluPart)
    (bytes : List UInt8) {operations : List NaluOperation}
    (rest : ∀ next : ParseResult RtpDepacketizerH264, next.depacketizer.sentries = .clear →
      next.depacketizer.naluLen = result.depacketizer.naluLen + bytes.length →
      (Script.execute (perform call) operations next).depacketizer.Ready) :
    (Script.execute (perform call) (.append part bytes :: operations)
      result).depacketizer.Ready := by
  have step := naluStep_perform call (.append part bytes) result
  generalize outcome : perform call (.append part bytes) result = after at step
  cases step with
  | appended =>
    rw [Script.execute_cons_ok _ outcome]
    exact rest _ clear rfl
  | overflowed =>
    rw [Script.execute_cons_error _ outcome]
    have down := Sentries.mk.inj clear
    exact ⟨down, rfl, rfl, rfl⟩

/-- A NALU that is the last empties the depacketizer. -/
theorem ready_decode (clear : result.depacketizer.sentries = .clear)
    (occupied : result.depacketizer.naluLen ≠ 0) :
    (Script.execute (perform call) [.decode true] result).depacketizer.Ready := by
  rw [Script.execute_singleton]
  have step := naluStep_perform call (.decode true) result
  generalize perform call (.decode true) result = after at step ⊢
  cases step with
  | nothing _ empty => exact absurd empty occupied
  | rejected _ _ rejected =>
    rw [Admits, clear, Sentries.gate_clear] at rejected
    exact absurd rfl rejected
  | stored _ _ _ remains => simp [closes] at remains
  | closed =>
    have stored : result.depacketizer.store.sentries = .clear := by
      rw [store_sentries, clear, Sentries.gate_clear]
    have down := Sentries.mk.inj stored
    exact ⟨down, rfl, rfl, rfl⟩

theorem clear_decode (clear : result.depacketizer.sentries = .clear) (last : Bool) :
    ∃ next, perform call (.decode last) result = .ok next ∧
      next.depacketizer.sentries = .clear := by
  refine ⟨result.depacketizer.decNalu last call result.frame, rfl, ?_⟩
  by_cases empty : result.depacketizer.naluLen = 0
  · rw [decNalu_of_empty _ _ _ empty]
    exact clear
  · rw [decNalu_sentries _ _ _ empty, clear, Sentries.gate_clear]

theorem ready_wholeNalu (clear : result.depacketizer.sentries = .clear) (nalu : NalUnit) :
    (Script.execute (perform call) (NaluOperation.wholeNalu nalu.bytes true)
      result).depacketizer.Ready := by
  rw [NaluOperation.wholeNalu]
  apply ready_append clear
  intro started clear _
  apply ready_append clear
  intro filled clear length
  apply ready_decode clear
  simp [length, NalUnit.bytes]

theorem ready_stapA {nalus : List NalUnit} (nonempty : nalus ≠ [])
    (short : ∀ nalu ∈ nalus, nalu.bytes.length ≤ 65535)
    (clear : result.depacketizer.sentries = .clear) :
    (Script.execute (perform call)
      (NaluOperation.ofStapA true (nalus.flatMap NaluPacketisation.stapAEntry))
      result).depacketizer.Ready := by
  -- on the entries: only the last sees the marker
  induction nalus generalizing result with
  | nil => exact absurd rfl nonempty
  | cons nalu nalus ih =>
    rw [List.flatMap_cons, ofStapA_entry _ _ (short nalu List.mem_cons_self)]
    cases nalus with
    | nil =>
      simp only [List.flatMap_nil, if_true, List.append_nil]
      exact ready_wholeNalu clear nalu
    | cons second nalus =>
      have more : (second :: nalus).flatMap NaluPacketisation.stapAEntry ≠ [] := by
        simp [NaluPacketisation.stapAEntry, ByteOrder.bigEndian16]
      simp only [if_neg more, NaluOperation.wholeNalu, List.cons_append, List.nil_append]
      apply ready_append clear
      intro started clear _
      apply ready_append clear
      intro filled clear _
      obtain ⟨next, decoded, clear⟩ := @clear_decode call filled clear false
      rw [Script.execute_cons_ok _ decoded]
      exact ih (List.cons_ne_nil second nalus)
        (fun nalu member => short nalu (List.mem_cons_of_mem _ member)) clear

/-- Whatever it has missed, the last packet of an access unit leaves nothing behind. -/
theorem ready_answer_last (clear : depacketizer.sentries = .clear)
    {packetisation : NaluPacketisation} (ends : packetisation.EndsOccupied)
    (carries : call.payload ∈ packetisation.packets.getLast?) (marked : call.marker = true) :
    (answer depacketizer call).depacketizer.Ready := by
  have begun : (depacketizer.beginPacket call).depacketizer.sentries = .clear := clear
  cases packetisation with
  | single nalu typed =>
    have same : nalu.bytes = call.payload := Option.some.inj carries
    have script : NaluOperation.ofPacket call.payload true =
        NaluOperation.wholeNalu nalu.bytes true := by
      rw [← same]
      exact if_pos typed
    rw [answer_eq depacketizer (by simp [← same, NalUnit.bytes]), marked, script]
    exact ready_wholeNalu begun nalu
  | stapA indicator typed nalus nonempty short =>
    have same : indicator :: nalus.flatMap NaluPacketisation.stapAEntry = call.payload :=
      Option.some.inj carries
    have script : NaluOperation.ofPacket call.payload true =
        NaluOperation.ofStapA true (nalus.flatMap NaluPacketisation.stapAEntry) := by
      rw [← same, NaluOperation.ofPacket, typed]
      rfl
    rw [answer_eq depacketizer (by simp [← same]), marked, script]
    exact ready_stapA nonempty short begun
  | fuA nalu first middle last cut =>
    have same : NaluPacketisation.fuAPacket nalu.header 0x40 last = call.payload := by
      rw [NaluPacketisation.packets, ← List.cons_append, List.getLast?_concat] at carries
      exact Option.some.inj carries
    rw [answer_eq depacketizer (by simp [← same, NaluPacketisation.fuAPacket]), marked, ← same,
      ofPacket_fuA _ _ _ _ (by decide), if_neg (by decide), if_pos rfl, List.nil_append]
    apply ready_append begun
    intro filled clear length
    apply ready_decode clear
    have occupied := List.length_pos_of_ne_nil ends
    omega

/-- The last packet of an access unit is that of its last packetisation. -/
theorem getLast_packets {packetisations : List NaluPacketisation} {packet : List UInt8}
    (last : packet ∈ (packetisations.flatMap NaluPacketisation.packets).getLast?) :
    ∃ packetisation ∈ packetisations.getLast?, packet ∈ packetisation.packets.getLast? := by
  rcases List.eq_nil_or_concat' packetisations with rfl | ⟨packetisations, final, rfl⟩
  · cases last
  · have occupied : final.packets ≠ [] := by cases final <;> simp [NaluPacketisation.packets]
    rw [List.flatMap_append, List.flatMap_singleton,
      List.getLast?_append_of_ne_nil _ occupied] at last
    exact ⟨final, List.getLast?_concat .., last⟩

/-- The access unit is sent, with room for it in a frame, and its last packet is not an empty
fragment. -/
structure TimedAccessUnit.SentIn (unit : TimedAccessUnit) (arrivals : List Arrival) : Prop where
  transmits : Transmits unit.packets unit.timestamp arrivals
  fits : (NalUnit.byteStream unit.nalus).length ≤ maxEsFrameSize
  ends : ∀ packetisation ∈ unit.packetisations.getLast?, packetisation.EndsOccupied

/-- The access unit as its receiver sees it. -/
def TimedAccessUnit.delivered (unit : TimedAccessUnit) : List UInt8 × Int :=
  (NalUnit.byteStream unit.nalus, unit.timestamp.toNat)

theorem TimedAccessUnit.SentIn.reassembles {unit : TimedAccessUnit} {arrivals : List Arrival}
    (sent : unit.SentIn arrivals) :
    (delivering RtpDepacketizerH264 timedBytes).Reassembles (fun state => state.sentries = .clear)
      Ready arrivals unit.delivered where
  keeps _ clear arrival _ := sentries_clear_answer clear arrival.call
  closes := by
    intro state clear last isLast
    have payload : last.call.payload ∈ unit.packets.getLast? := by
      rw [← sent.transmits.carry, List.getLast?_map, last.call_payload]
      exact Option.mem_map_of_mem _ isLast
    obtain ⟨packetisation, final, carries⟩ := getLast_packets payload
    have marked : last.call.marker = true := by
      rw [last.call_marker, sent.transmits.marked last isLast]
    exact ready_answer_last clear (sent.ends packetisation final) carries marked
  delivers := by
    intro state _ ready
    have occupied : unit.nalus ≠ [] := nalusOf_ne_nil unit.nonempty
    have fits : Sentries.clear.Fits [] [unit] := by
      simpa [Sentries.Fits] using sent.fits
    have frames : Sentries.clear.frames [] [unit] = [unit.delivered] := by
      rw [Sentries.frames, if_pos (Sentries.admitsLast_clear occupied), Sentries.kept_clear]
      rfl
    have delivered := (ready_iff_holds.mp ready).gated.delivers_frames
      (.cons sent.transmits.calls .nil) fits
    rw [emissions_delivering, ← frames, ← delivered, List.flatten_singleton]

/-- Behind an access unit that opens the gate, every access unit comes out that arrives whole where
the depacketizer is between two access units. -/
theorem delivers_intact (nalu frame : Memory UInt8) {opening : TimedAccessUnit}
    {openingArrivals : List Arrival} {units : List (TimedAccessUnit × LossyFrame Arrival)}
    (openingSent : opening.SentIn openingArrivals)
    (opens : ∃ before idr after, opening.nalus = before ++ idr :: after ∧ Opens before idr)
    (sent : ∀ unit ∈ units, unit.1.SentIn unit.2.sent) :
    (Sentries.frames ⟨true, true, true⟩ [] [opening] ++
      (intactFrames true units).map TimedAccessUnit.delivered).Sublist
      ((delivering RtpDepacketizerH264 timedBytes).emissions (create nalu frame)
        (openingArrivals ++ arrivingPackets units)) := by
  obtain ⟨before, idr, after, split, opens⟩ := opens
  obtain ⟨before, idr, after, point⟩ := NalUnit.exists_accessPoint split opens
  obtain ⟨cleared, admitted, -⟩ := Sentries.kept_of_accessPoint point
  have gated : (create nalu frame).Gated (.behind []) [] [] 0 := ⟨rfl, rfl, rfl, rfl, rfl, rfl⟩
  have carries := openingSent.transmits.calls
  have delivered := gated.delivers_frames (.cons carries .nil)
    ⟨by simpa using openingSent.fits, trivial⟩
  rw [List.flatten_singleton] at delivered
  -- the gate is open behind the first access unit, and nothing is held
  have ready : (afterPackets (create nalu frame) (openingArrivals.map Arrival.call)).Ready := by
    obtain ⟨earlier, last, whole, -, ends⟩ := gated.completes_accessUnit opening.nonempty
      (by rw [List.length_nil, Nat.zero_add]; exact openingSent.fits) carries.carry carries.unmarked
    have marked := carries.last last (by simp [whole])
    rw [marked.1, Bool.true_and] at ends
    rw [whole, afterPackets_append]
    obtain ⟨-, gatedNext, -⟩ : EndsGated true last .clear _ _ _ := cleared ▸ admitted ▸ ends
    exact ready_iff_holds.mpr gatedNext.holds
  rw [Machine.emissions_append, emissions_delivering, delivered, run_delivering]
  refine List.Sublist.append (List.Sublist.refl _) ?_
  exact Machine.intact_sublist TimedAccessUnit.delivered
    (fun unit member => (sent unit member).reassembles)
    (ready_iff_holds.mp ready).gated.sentries fun _ => ready

end RtpDepacketizerH264

/-! ## Behind the last packet of a frame of VP8 -/

namespace RtpDepacketizerVp8

variable {depacketizer : RtpDepacketizerVp8} {call : ParseCall}

/-- The gate stays open. -/
theorem keyRequired_answer (free : depacketizer.keyRequired = false) (call : ParseCall) :
    (answer depacketizer call).depacketizer.keyRequired = false := by
  have step := step_answer depacketizer call
  generalize answer depacketizer call = result at step ⊢
  cases step with
  | delivered => rfl
  | empty | refused | shortKeyFrame | tooLarge | held | dropped => exact free

/-- A marked packet that is no short key frame empties the depacketizer. -/
theorem holds_answer_last {packet : Vp8Packet} (carries : call.payload = packet.bytes)
    (whole : ¬ packet.payload.ShortKeyFrame) (marked : call.marker = true) :
    (answer depacketizer call).depacketizer.Holds [] 0 := by
  have payload := ofCall_of_carries carries
  have step := step_answer depacketizer call
  generalize answer depacketizer call = result at step ⊢
  cases step with
  | empty empty => cases (Vp8Payload.ofCall_of_empty empty).symm.trans payload
  | refused refused => cases refused.symm.trans payload
  | shortKeyFrame other found short =>
    rw [Option.some.inj (found.symm.trans payload)] at short
    exact absurd short whole
  | held _ _ unmarked => cases marked.symm.trans unmarked
  | tooLarge | dropped | delivered => exact ⟨rfl, rfl, rfl⟩

theorem reassembles {frame : TimedFrame} {arrivals : List Arrival}
    (transmits : Transmits frame.packets frame.timestamp arrivals) :
    (delivering RtpDepacketizerVp8 seen).Reassembles (fun state => state.keyRequired = false)
      (fun state => state.Holds [] 0) arrivals frame.delivered where
  keeps _ free arrival _ := keyRequired_answer free arrival.call
  closes := by
    intro state _ last isLast
    have payload : last.call.payload ∈
        (frame.packetisation.packets.map Vp8Packet.bytes).getLast? := by
      change _ ∈ frame.packets.getLast?
      rw [← transmits.carry, List.getLast?_map, last.call_payload]
      exact Option.mem_map_of_mem _ isLast
    rw [List.getLast?_map, Option.mem_map] at payload
    obtain ⟨packet, final, carries⟩ := payload
    have marked : last.call.marker = true := by
      rw [last.call_marker, transmits.marked last isLast]
    have whole : ¬ packet.payload.ShortKeyFrame := by
      -- only the first packet begins a frame, and it has the whole header
      rcases List.mem_cons.mp (List.mem_of_getLast? final) with rfl | continued
      · exact frame.packetisation.whole
      · exact continued_whole (frame.packetisation.continued packet continued)
    exact holds_answer_last carries.symm whole marked
  delivers := by
    intro state free holds
    have delivered := holds.delivers_frames (.cons transmits.calls .nil)
    rw [free, if_neg Bool.false_ne_true, List.flatten_singleton] at delivered
    rw [emissions_delivering, delivered]
    rfl

/-- Behind a key frame the gate is open, and nothing is held. -/
theorem Holds.opens (holds : depacketizer.Holds [] 0) {frame : TimedFrame}
    (isKey : frame.packetisation.IsKeyFrame) {calls : List ParseCall}
    (carries : CarriesFrame frame.packets frame.timestamp calls) :
    (afterPackets depacketizer calls).keyRequired = false ∧
      (afterPackets depacketizer calls).Holds [] 0 := by
  obtain ⟨earlier, last, rfl, -, held, closed, holdsAll, frameType, -⟩ :=
    holds.completes_pieces frame.packetisation.whole frame.packetisation.continued
      (by simpa using frame.packetisation.fits) carries.carry carries.unmarked
  obtain ⟨marked, -, out⟩ := carries.last last (by simp)
  have key : held.frameType = .videoFrameKey := by
    have first : frame.packetisation.first.payload.isFirst = true := frame.packetisation.begins
    rw [frameType, RtpDepacketizerVp8.hold, if_pos first]
    exact frame.packetisation.beginsKeyFrame_iff.mpr isKey
  have passes : ¬ (held.keyRequired = true ∧ held.frameType ≠ .videoFrameKey) :=
    fun gated => gated.2 key
  have state : afterPackets depacketizer (earlier ++ [last]) =
      (answer (afterPackets depacketizer earlier) last).depacketizer := by
    rw [afterPackets_append]
    rfl
  rw [state, closed]
  exact (holdsAll.delivery_of_passes marked out passes).2

/-- Behind a key frame, every frame comes out that arrives whole where the depacketizer is between
two frames. -/
theorem delivers_intact (buffer : Memory UInt8) {opening : TimedFrame}
    {openingArrivals : List Arrival} {frames : List (TimedFrame × LossyFrame Arrival)}
    (isKey : opening.packetisation.IsKeyFrame)
    (openingSent : Transmits opening.packets opening.timestamp openingArrivals)
    (sent : ∀ frame ∈ frames, Transmits frame.1.packets frame.1.timestamp frame.2.sent) :
    ((opening :: intactFrames true frames).map TimedFrame.delivered).Sublist
      ((delivering RtpDepacketizerVp8 seen).emissions (create buffer)
        (openingArrivals ++ arrivingPackets frames)) := by
  have holds : (create buffer).Holds [] 0 := ⟨rfl, rfl, rfl⟩
  have carries := openingSent.calls
  have delivered := holds.delivers_frames (.cons carries .nil)
  have required : (create buffer).keyRequired = true := rfl
  have shown : fromKeyFrame [opening] = [opening] := by simp [fromKeyFrame, isKey]
  rw [required, if_pos rfl, shown, List.flatten_singleton] at delivered
  obtain ⟨free, rests⟩ := holds.opens isKey carries
  rw [Machine.emissions_append, emissions_delivering, delivered, run_delivering,
    ← List.singleton_append, List.map_append]
  refine List.Sublist.append (List.Sublist.refl _) ?_
  exact Machine.intact_sublist TimedFrame.delivered
    (fun frame member => reassembles (sent frame member)) free fun _ => rests

end RtpDepacketizerVp8

/-! ## Through the network and the task -/

namespace StreamTask

open RtpDepacketizerH264 (Sentries TimedAccessUnit Ready timedBytes)
open RtpDepacketizerVp8 (TimedFrame seen)

variable {client : RtpClient} {payloadType : BitVec 7} {all : List Arrival} {actions : List Action}

/-- A VP8 stream that begins with a key frame, whatever is lost of the others. -/
theorem survives_losses_frames (buffer : Memory UInt8) (opening : TimedFrame)
    (openingArrivals : List Arrival) (frames : List (TimedFrame × LossyFrame Arrival))
    (listening : Listening client) (isKey : opening.packetisation.IsKeyFrame)
    (openingSent : Transmits opening.packets opening.timestamp openingArrivals)
    (sent : ∀ frame ∈ frames, Transmits frame.1.packets frame.1.timestamp frame.2.sent)
    (multiplexed : Multiplexed payloadType all [openingArrivals, arrivingPackets frames])
    (task : StreamTask (VideoStream RtpDepacketizerVp8))
    (ran : (system _).run (create client (VideoStream.setVideoMedia .videoVp8 payloadType.toNat
      (RtpDepacketizerVp8.create buffer))) actions = some task)
    (arrived : arrivals actions = all.map Arrival.bytes) :
    ∃ more final, (∀ action ∈ more, action.arrival = none) ∧
      (system _).run task more = some final ∧
      ((opening :: intactFrames true frames).map TimedFrame.delivered).Sublist
        (final.handed.map fun sent => (sent.data, sent.pts, sent.flags)) := by
  obtain ⟨more, final, silent, goes, handed, -⟩ := catches_up ran
  refine ⟨more, final, silent, goes, ?_⟩
  rw [handed, arrived, VideoStream.setVideoMedia, receiving_delivering listening rfl multiplexed]
  simp only [List.flatten_cons, List.flatten_nil, List.append_nil]
  exact RtpDepacketizerVp8.delivers_intact buffer isKey openingSent sent

/-- A frame between key frames in two packets. -/
def samplePieces : Vp8Packetisation where
  first := sampleDelta.first
  rest := [⟨.short false, [0x12], by decide⟩]
  begins := rfl
  continued := by decide
  keyHeader := by decide
  fits := by decide

/-- The packets of the frame; the second is lost or not. -/
def samplePieceArrivals (timestamp : UInt32) (last : Bool) : LossyFrame Arrival :=
  [(sampleArrival timestamp 0x10 [0x11] false, true),
    (sampleArrival timestamp 0x00 [0x12] true, last)]

theorem samplePieces_transmits (timestamp : UInt32) (last : Bool) :
    Transmits (⟨samplePieces, timestamp⟩ : TimedFrame).packets timestamp
      (samplePieceArrivals timestamp last).sent := by
  have pieces : samplePieces.packets.map Vp8Packet.bytes = [[0x10, 0x11], [0x00, 0x12]] := by decide
  refine ⟨pieces.symm, ?_, ?_, ?_⟩
  all_goals simp [samplePieceArrivals, LossyFrame.sent, sampleArrival]

def sampleLossyFrames : List (TimedFrame × LossyFrame Arrival) :=
  [(⟨samplePieces, 6000⟩, samplePieceArrivals 6000 false),
    (⟨samplePieces, 9000⟩, samplePieceArrivals 9000 true),
    (⟨samplePieces, 12000⟩, samplePieceArrivals 12000 true)]

/-- The last packet of the second frame is lost: the third is spoilt, the fourth handed over. -/
theorem survives_losses_frames_sample :
    ∃ (task : StreamTask (VideoStream RtpDepacketizerVp8)) (more : List Action)
      (final : StreamTask (VideoStream RtpDepacketizerVp8)),
      (system _).run task more = some final ∧
        [([0x10, 0, 0, 0x9d, 1, 0x2a, 0x80, 2, 0xe0, 1, 7, 8], (3000 : Int), frameIsSyncPoint),
          ([0x11, 0x12], 12000, 0)].Sublist
          (final.handed.map fun sent => (sent.data, sent.pts, sent.flags)) := by
  let client := RtpClient.onNetworkAccept .built .create
  let stream := VideoStream.setVideoMedia .videoVp8 (96 : BitVec 7).toNat
    (RtpDepacketizerVp8.create fun _ => 0)
  let all := sampleKeyFrameArrivals ++ arrivingPackets sampleLossyFrames
  obtain ⟨task, ran⟩ := exists_run_receive (create client stream) (all.map Arrival.bytes)
  have isKey : RtpDepacketizerVp8.sampleFrame.IsKeyFrame := by decide
  have others : ∀ frame ∈ sampleLossyFrames,
      Transmits frame.1.packets frame.1.timestamp frame.2.sent := by
    simp [sampleLossyFrames, samplePieces_transmits]
  have multiplexed :
      Multiplexed 96 all [sampleKeyFrameArrivals, arrivingPackets sampleLossyFrames] :=
    ⟨rfl, by simp [sampleKeyFrameArrivals, sampleLossyFrames, arrivingPackets, LossyFrame.arriving,
      samplePieceArrivals, sampleArrival, Arrival.Accepted]⟩
  obtain ⟨more, final, -, goes, handed⟩ := survives_losses_frames (fun _ => 0)
    ⟨RtpDepacketizerVp8.sampleFrame, 3000⟩ sampleKeyFrameArrivals sampleLossyFrames
    RtpClient.listening_accepted isKey sampleKeyFrame_transmits others multiplexed task ran
    (arrivals_receive (all.map Arrival.bytes))
  have intact : ((⟨RtpDepacketizerVp8.sampleFrame, 3000⟩ ::
      intactFrames true sampleLossyFrames).map TimedFrame.delivered) =
      [([0x10, 0, 0, 0x9d, 1, 0x2a, 0x80, 2, 0xe0, 1, 7, 8], 3000, frameIsSyncPoint),
        ([0x11, 0x12], 12000, 0)] := by
    decide
  exact ⟨task, more, final, goes, intact ▸ handed⟩

end StreamTask

end RtpPlayer
