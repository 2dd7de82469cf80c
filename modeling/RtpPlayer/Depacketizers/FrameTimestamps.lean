import RtpPlayer.Depacketizers.NaluHistory
import RtpPlayer.Depacketizers.Vp8History

/-! # Timestamps of frames

No depacketizer looks at the timestamps of its packets: a frame gets the one of the packet that
closes it.  Its bytes are from packets parsed since the buffers were empty, so the frame has one
timestamp where these packets have. -/

namespace RtpPlayer

open Foundations
open RtpDepacketizer

namespace FramePiece

/-- The NALU header that an FU-A packet carries in its first two bytes. -/
def naluHeader : List UInt8 → List UInt8
  | indicator :: header :: _ => [(indicator &&& 0xe0) ||| (header &&& 0x1f)]
  | _ => []

/-- How a packet contributes to a frame: start codes, its NALU header and its payload. -/
def IsOfItsPacket (piece : FramePiece) : Prop :=
  match piece.part with
  | .startcode => piece.bytes = NaluOperation.startcode
  | .header => piece.bytes = naluHeader piece.call.payload
  | .payload => piece.bytes <:+: piece.call.payload

def bytesOfPacket (call : ParseCall) : List UInt8 :=
  NaluOperation.startcode ++ naluHeader call.payload ++ call.payload

theorem IsOfItsPacket.subset {piece : FramePiece} (ofPacket : piece.IsOfItsPacket) :
    piece.bytes ⊆ bytesOfPacket piece.call := by
  obtain ⟨part, bytes, call⟩ := piece
  intro byte member
  cases part with
  | startcode =>
    have same : bytes = NaluOperation.startcode := ofPacket
    exact List.mem_append_left _ (List.mem_append_left _ (same ▸ member))
  | header =>
    have same : bytes = naluHeader call.payload := ofPacket
    exact List.mem_append_left _ (List.mem_append_right _ (same ▸ member))
  | payload =>
    have inside : bytes <:+: call.payload := ofPacket
    exact List.mem_append_right _ (inside.subset member)

end FramePiece

namespace RtpDepacketizer

variable {δ : Type} [RtpDepacketizer δ]

/-- Every byte of every frame comes from a packet with the timestamp of the frame. -/
def OneTimestampPerFrame (depacketizer : δ) (calls : List DepacketizerCall) : Prop :=
  ∀ before call after, calls = before ++ .parse call :: after → ∀ frame bytes,
    delivery (answer ((machine δ).run depacketizer before) call) = some (frame, bytes) →
      ∃ pieces : List FramePiece, bytes <+: FramePiece.bytesOf pieces ∧ ∀ piece ∈ pieces,
        piece.IsOfItsPacket ∧ .parse piece.call ∈ before ++ [.parse call] ∧
          (piece.call.pts.toNat : Int) = frame.pts

/-- Every frame has the timestamp of the packet that closes it.  Every byte of the frame comes from
a packet parsed since the depacketizer last held nothing, and so from one with the timestamp of the
frame where all packets since then have that of the last. -/
def FramesAreOfLatestPackets (holdsNothing : δ → Prop) (depacketizer : δ)
    (calls : List DepacketizerCall) : Prop :=
  ∀ past since call after, calls = past ++ (since ++ .parse call :: after) →
    holdsNothing ((machine δ).run depacketizer past) → ∀ frame bytes,
    delivery (answer ((machine δ).run depacketizer (past ++ since)) call) = some (frame, bytes) →
      frame.pts = call.pts.toNat ∧
        ∃ pieces : List FramePiece, bytes <+: FramePiece.bytesOf pieces ∧
          (∀ piece ∈ pieces, piece.IsOfItsPacket ∧ .parse piece.call ∈ since ++ [.parse call]) ∧
          ((∀ other, .parse other ∈ since → other.pts = call.pts) →
            ∀ piece ∈ pieces, (piece.call.pts.toNat : Int) = frame.pts)

/-- A byte that no packet with the timestamp of the frame can have contributed is from another. -/
theorem not_oneTimestampPerFrame (depacketizer : δ) (packets : List ParseCall) (call : ParseCall)
    (frame : MediaFrame) (bytes : List UInt8)
    (delivered : delivery (answer ((machine δ).run depacketizer (packets.map .parse)) call) =
      some (frame, bytes))
    {byte : UInt8} (member : byte ∈ bytes)
    (foreign : ∀ packet ∈ packets ++ [call], (packet.pts.toNat : Int) = frame.pts →
      byte ∉ FramePiece.bytesOfPacket packet) :
    ¬ OneTimestampPerFrame depacketizer ((packets ++ [call]).map .parse) := by
  intro oneTimestamp
  obtain ⟨pieces, consists, ofPackets⟩ :=
    oneTimestamp (packets.map .parse) call [] (by simp) frame bytes delivered
  obtain ⟨piece, within, inside⟩ := List.mem_flatMap.mp (consists.subset member)
  obtain ⟨ofPacket, among, pts⟩ := ofPackets piece within
  have packet : piece.call ∈ packets ++ [call] := by simpa using among
  exact foreign piece.call packet pts (ofPacket.subset inside)

theorem framesAreOfLatestPackets_of_pieces {holdsNothing : δ → Prop} {depacketizer : δ}
    {calls : List DepacketizerCall}
    (found : ∀ past since call after, calls = past ++ (since ++ .parse call :: after) →
      holdsNothing ((machine δ).run depacketizer past) → ∀ frame bytes,
      delivery (answer ((machine δ).run depacketizer (past ++ since)) call) = some (frame, bytes) →
        frame.pts = call.pts.toNat ∧
          ∃ pieces : List FramePiece, bytes <+: FramePiece.bytesOf pieces ∧
            ∀ piece ∈ pieces, piece.IsOfItsPacket ∧
              .parse piece.call ∈ since ++ [.parse call]) :
    FramesAreOfLatestPackets holdsNothing depacketizer calls := by
  intro past since call after split nothing frame bytes delivered
  obtain ⟨pts, pieces, consists, ofPackets⟩ :=
    found past since call after split nothing frame bytes delivered
  refine ⟨pts, pieces, consists, ofPackets, fun same piece member => ?_⟩
  rw [pts]
  rcases List.mem_append.mp (ofPackets piece member).2 with earlier | last
  · rw [same piece.call earlier]
  · rw [DepacketizerCall.parse.inj (List.mem_singleton.mp last)]

end RtpDepacketizer

/-! ## H.264 -/

namespace RtpDepacketizerH264

def HoldsNothing (depacketizer : RtpDepacketizerH264) : Prop :=
  depacketizer.naluLen = 0 ∧ depacketizer.frameLen = 0

end RtpDepacketizerH264

namespace NaluOperation

open RtpDepacketizerH264 (packetType)

def TakenFrom (payload : List UInt8) (operation : NaluOperation) : Prop :=
  ∀ call part bytes, call.payload = payload → operation = .append part bytes →
    (FramePiece.mk part bytes call).IsOfItsPacket

theorem takenFrom_wholeNalu {payload nalu : List UInt8} {last : Bool} (inside : nalu <:+: payload) :
    ∀ operation ∈ wholeNalu nalu last, operation.TakenFrom payload := by
  rintro operation member call part bytes rfl rfl
  simp only [wholeNalu, List.mem_cons, append.injEq, reduceCtorEq, or_false, List.not_mem_nil]
    at member
  rcases member with ⟨rfl, rfl⟩ | ⟨rfl, rfl⟩
  · rfl
  · exact inside

theorem takenFrom_fail (payload : List UInt8) :
    ∀ operation ∈ [fail], operation.TakenFrom payload := by
  rintro operation member call part bytes - rfl
  cases List.mem_singleton.mp member

theorem takenFrom_ofStapA {payload : List UInt8} (marker : Bool) (bytes : List UInt8)
    (inside : bytes <:+: payload) :
    ∀ operation ∈ ofStapA marker bytes, operation.TakenFrom payload := by
  -- on the entries; what remains behind each is still part of the payload
  induction bytes using ofStapA.induct with
  | case1 high low rest length tooLong =>
    rw [ofStapA, if_pos tooLong]
    exact takenFrom_fail payload
  | case2 high low rest length fits ih =>
    have tail : rest <:+: payload := List.IsInfix.trans ⟨[high, low], [], by simp⟩ inside
    rw [ofStapA, if_neg fits]
    intro operation member
    rcases List.mem_append.mp member with entry | others
    · exact takenFrom_wholeNalu ((List.take_prefix ..).isInfix.trans tail) operation entry
    · split at others
      next more => exact ih more ((List.drop_suffix ..).isInfix.trans tail) operation others
      next => cases others
  | case3 bytes short =>
    rw [ofStapA.eq_2 _ _ short]
    exact takenFrom_fail payload

theorem takenFrom_ofFuA (marker : Bool) (indicator : UInt8) (bytes : List UInt8) :
    ∀ operation ∈ ofFuA marker indicator bytes, operation.TakenFrom (indicator :: bytes) := by
  cases bytes with
  | nil => exact takenFrom_fail _
  | cons header fragment =>
    rw [ofFuA]
    split
    next => exact takenFrom_fail _
    next =>
      rintro operation member call part bytes payload rfl
      have taken : append part bytes ∈
          [append .startcode startcode,
            append .header [(indicator &&& 0xe0) ||| (header &&& 0x1f)]] ∨
          append part bytes = append .payload fragment := by
        rcases List.mem_append.mp member with begun | continued
        · split at begun
          next => exact .inl begun
          next => cases begun
        · rcases List.mem_cons.mp continued with here | decoded
          · exact .inr here
          · split at decoded
            next => cases List.mem_singleton.mp decoded
            next => cases decoded
      simp only [List.mem_cons, append.injEq, List.not_mem_nil, or_false] at taken
      rcases taken with (⟨rfl, rfl⟩ | ⟨rfl, rfl⟩) | ⟨rfl, rfl⟩
      · rfl
      · exact congrArg FramePiece.naluHeader payload.symm
      · exact ⟨[indicator, header], [], by rw [payload]; simp⟩

theorem takenFrom_ofPacket (payload : List UInt8) (marker : Bool) :
    ∀ operation ∈ ofPacket payload marker, operation.TakenFrom payload := by
  cases payload with
  | nil => exact nofun
  | cons first rest =>
    rw [ofPacket]
    split_ifs
    · exact takenFrom_wholeNalu List.infix_rfl
    · exact takenFrom_ofStapA marker rest (List.suffix_cons ..).isInfix
    · exact takenFrom_ofFuA marker first rest
    · exact takenFrom_fail _

end NaluOperation

namespace RtpDepacketizerH264

/-- Every piece is taken from the packet of one of the calls. -/
def TakenFromCalls (calls : List DepacketizerCall) (pieces : List FramePiece) : Prop :=
  ∀ piece ∈ pieces, piece.IsOfItsPacket ∧ .parse piece.call ∈ calls

theorem takenFromCalls_nil (calls : List DepacketizerCall) : TakenFromCalls calls [] :=
  List.forall_mem_nil _

theorem takenFromCalls_next {history : NaluHistory} {calls : List DepacketizerCall}
    (every : history.trace.Every (TakenFromCalls calls)) {input : DepacketizerCall}
    (among : input ∈ calls) : (history.next input).trace.Every (TakenFromCalls calls) := by
  cases input with
  | setSyncPoint => exact ⟨takenFromCalls_nil _, List.forall_mem_nil _, every.closed⟩
  | parse call =>
    refine NaluHistory.every_answer every (takenFromCalls_nil _) ?_
    intro part bytes member pieces taken piece within
    rcases List.mem_append.mp within with before | last
    · exact taken piece before
    · rw [List.mem_singleton.mp last]
      exact ⟨NaluOperation.takenFrom_ofPacket _ _ _ member call part bytes rfl rfl, among⟩

theorem takenFromCalls_run {history : NaluHistory} {calls : List DepacketizerCall}
    (every : history.trace.Every (TakenFromCalls calls)) {inputs : List DepacketizerCall}
    (among : inputs ⊆ calls) :
    (NaluHistory.machine.run history inputs).trace.Every (TakenFromCalls calls) := by
  induction inputs generalizing history with
  | nil => exact every
  | cons input inputs ih =>
    rw [List.cons_subset] at among
    exact ih (takenFromCalls_next every among.1) among.2

theorem framesAreOfLatestPackets (nalu frame : Memory UInt8) (calls : List DepacketizerCall) :
    FramesAreOfLatestPackets HoldsNothing (create nalu frame) calls := by
  refine framesAreOfLatestPackets_of_pieces ?_
  rintro past since call after rfl ⟨naluLen, frameLen⟩ out bytes delivered
  rw [Machine.run_append] at delivered
  -- the trace begins anew where nothing is held, so it knows of later packets only
  generalize (machine _).run (create nalu frame) past = synced at naluLen frameLen delivered
  have tracks := (NaluHistory.tracks_begin naluLen frameLen).run since
  rw [← NaluHistory.run_begin] at delivered
  obtain ⟨pts, closed, member, consists⟩ := tracks.delivery delivered
  have every : (NaluHistory.machine.run (.begin synced) (since ++ [.parse call])).trace.Every
      (TakenFromCalls (since ++ [.parse call])) :=
    takenFromCalls_run
      ⟨takenFromCalls_nil _, List.forall_mem_nil _, List.forall_mem_nil _⟩ (List.Subset.refl _)
  rw [Machine.run_append] at every
  refine ⟨pts, closed.flatten, consists, fun piece within => ?_⟩
  obtain ⟨stored, inClosed, inStored⟩ := List.mem_flatten.mp within
  exact every.closed closed (List.mem_of_mem_head? member) stored inClosed piece inStored

end RtpDepacketizerH264

/-! ## VP8 -/

namespace RtpDepacketizerVp8

def HoldsNothing (depacketizer : RtpDepacketizerVp8) : Prop := depacketizer.frameLen = 0

theorem bytesOf_inside (call : ParseCall) : Vp8Payload.bytesOf call <:+: call.payload := by
  rw [Vp8Payload.bytesOf, Vp8Payload.ofCall]
  split
  next accepted =>
    have suffix := List.drop_suffix (Vp8Grammar.descriptorLength call.packet) call.payload
    rw [ParseCall.payload, Memory.drop_slice, Nat.zero_add] at suffix
    have length : call.packetLen.toNat - Vp8Grammar.descriptorLength call.packet =
        (call.packetLen - Vp8Grammar.descriptorLength call.packet).toNat := by omega
    rw [length] at suffix
    exact suffix.isInfix
  next => exact List.nil_infix

theorem framesAreOfLatestPackets (frame : Memory UInt8) (calls : List DepacketizerCall) :
    FramesAreOfLatestPackets HoldsNothing (create frame) calls := by
  refine framesAreOfLatestPackets_of_pieces ?_
  rintro past since call after rfl frameLen out bytes delivered
  rw [Machine.run_append] at delivered
  generalize (machine _).run (create frame) past = synced at frameLen delivered
  have tracks := (Vp8History.tracks_begin frameLen).run since
  rw [← Vp8History.run_begin] at delivered
  obtain ⟨⟨payload, accepts, -⟩, consists, pts⟩ := tracks.delivery delivered
  refine ⟨pts, ((Vp8History.machine.run (.begin synced) since).delivers call).map fun packet =>
    ⟨.payload, Vp8Payload.bytesOf packet, packet⟩, ?_, ?_⟩
  · rw [FramePiece.bytesOf, List.flatMap_map]
    exact consists ▸ List.prefix_refl _
  · rintro piece member
    obtain ⟨packet, delivers, rfl⟩ := List.mem_map.mp member
    obtain ⟨before, later, _, split, -⟩ :=
      Vp8History.acceptedIn_of_delivers rfl accepts delivers
    exact ⟨bytesOf_inside packet, by rw [split]; simp⟩

end RtpDepacketizerVp8

/-- In the frames of either depacketizer, timestamps mix only where packets with different ones have
been parsed since it held nothing. -/
theorem frames_are_of_latest_packets :
    (∀ nalu frame calls, FramesAreOfLatestPackets RtpDepacketizerH264.HoldsNothing
      (RtpDepacketizerH264.create nalu frame) calls) ∧
    ∀ frame calls, FramesAreOfLatestPackets RtpDepacketizerVp8.HoldsNothing
      (RtpDepacketizerVp8.create frame) calls :=
  ⟨RtpDepacketizerH264.framesAreOfLatestPackets, RtpDepacketizerVp8.framesAreOfLatestPackets⟩

/-- A frame whose marker packet is lost goes on in the next one. -/
theorem frames_mix_timestamps :
    ¬ OneTimestampPerFrame (RtpDepacketizerH264.create (fun _ => 0) fun _ => 0)
      ([.ofPayload [0x67, 1] false 0 96, .ofPayload [0x68, 2] false 0 96,
        .ofPayload [0x65, 3] false 0 96, .ofPayload [0x41, 4] true 3000 96].map .parse) ∧
    ¬ OneTimestampPerFrame (RtpDepacketizerVp8.create fun _ => 0)
      ([.ofPayload [0x10, 0x10, 0, 0, 0x9d, 1, 0x2a, 0x80, 2, 0xe0, 1] false 0 100,
        .ofPayload [0x00, 7, 8] true 3000 100].map .parse) := by
  constructor
  · exact not_oneTimestampPerFrame _
      [.ofPayload [0x67, 1] false 0 96, .ofPayload [0x68, 2] false 0 96,
        .ofPayload [0x65, 3] false 0 96]
      (.ofPayload [0x41, 4] true 3000 96) ⟨24, 3000, 0, 96, 4⟩
      [0, 0, 0, 1, 0x67, 1, 0, 0, 0, 1, 0x68, 2, 0, 0, 0, 1, 0x65, 3, 0, 0, 0, 1, 0x41, 4]
      (by decide +kernel) (show 3 ∈ _ by decide) (by decide +kernel)
  · exact not_oneTimestampPerFrame _
      [.ofPayload [0x10, 0x10, 0, 0, 0x9d, 1, 0x2a, 0x80, 2, 0xe0, 1] false 0 100]
      (.ofPayload [0x00, 7, 8] true 3000 100) ⟨12, 3000, frameIsSyncPoint, 100, 2⟩
      [0x10, 0, 0, 0x9d, 1, 0x2a, 0x80, 2, 0xe0, 1, 7, 8]
      (by decide +kernel) (show 0x9d ∈ _ by decide) (by decide +kernel)

end RtpPlayer
