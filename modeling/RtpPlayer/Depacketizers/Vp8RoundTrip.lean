import RtpPlayer.Foundations.Octets
import RtpPlayer.Depacketizers.Vp8Steps

/-! # The VP8 round trip

Whatever pieces a sender cuts a frame into and whatever descriptors it puts before them, the
depacketizer puts the frame together again, and its gate sees the type of the frame. -/

namespace RtpPlayer

open Foundations
open RtpDepacketizer
open RtpDepacketizerVp8 (bit)

/-! ## Descriptors -/

instance partitionIds : @NeZero Nat Zero.ofOfNat0 9 := ⟨by decide⟩

instance shortPictureIds : @NeZero Nat Zero.ofOfNat0 128 := ⟨by decide⟩

instance temporalIds : @NeZero Nat Zero.ofOfNat0 4 := ⟨by decide⟩

instance keyIndices : @NeZero Nat Zero.ofOfNat0 32 := ⟨by decide⟩

instance reservedBits : @NeZero Nat Zero.ofOfNat0 16 := ⟨by decide⟩

/-- A PictureID of either width. -/
inductive Vp8PictureId where
  | sevenBits (id : Fin 128)
  | fifteenBits (id : Fin 32768)

/-- The bytes of a PictureID, the longer one with its M bit. -/
def Vp8PictureId.bytes : Vp8PictureId → List UInt8
  | sevenBits id => [UInt8.ofNat id.val]
  | fifteenBits id => [0x80 ||| UInt8.ofNat (id.val / 256), UInt8.ofNat id.val]

/-- A mask where a flag is set. -/
def flag (set : Bool) (mask : UInt8) : UInt8 := if set then mask else 0

/-- The optional part of a descriptor.  `tidAndKeyIdx` is sent where T or K is set. -/
structure Vp8Extension where
  pictureId : Option Vp8PictureId
  tl0PicIdx : Option UInt8
  hasTid : Bool
  hasKeyIdx : Bool
  tidAndKeyIdx : UInt8
  reserved : Fin 16

namespace Vp8Extension

/-- The byte of the flags I, L, T and K. -/
def flags (extension : Vp8Extension) : UInt8 :=
  flag extension.pictureId.isSome 0x80 ||| flag extension.tl0PicIdx.isSome 0x40 |||
    flag extension.hasTid 0x20 ||| flag extension.hasKeyIdx 0x10 |||
    UInt8.ofNat extension.reserved.val

def bytes (extension : Vp8Extension) : List UInt8 :=
  extension.flags :: (extension.pictureId.elim [] Vp8PictureId.bytes ++
    extension.tl0PicIdx.toList ++
    if extension.hasTid || extension.hasKeyIdx then [extension.tidAndKeyIdx] else [])

end Vp8Extension

structure Vp8Descriptor where
  reserved : Bool
  nonReference : Bool
  beginningOfPartition : Bool
  partitionId : Fin 9
  extension : Option Vp8Extension

namespace Vp8Descriptor

def mandatory (descriptor : Vp8Descriptor) : UInt8 :=
  flag descriptor.extension.isSome 0x80 ||| flag descriptor.reserved 0x40 |||
    flag descriptor.nonReference 0x20 ||| flag descriptor.beginningOfPartition 0x10 |||
    UInt8.ofNat descriptor.partitionId.val

def bytes (descriptor : Vp8Descriptor) : List UInt8 :=
  descriptor.mandatory :: descriptor.extension.elim [] Vp8Extension.bytes

def beginsFrame (descriptor : Vp8Descriptor) : Bool :=
  descriptor.beginningOfPartition && descriptor.partitionId = 0

/-- A descriptor of the mandatory byte alone. -/
def short (beginsFrame : Bool) : Vp8Descriptor := ⟨false, false, beginsFrame, 0, none⟩

end Vp8Descriptor

/-- A descriptor and a piece of a frame. -/
structure Vp8Packet where
  descriptor : Vp8Descriptor
  piece : List UInt8
  nonempty : piece ≠ []

def Vp8Packet.bytes (packet : Vp8Packet) : List UInt8 := packet.descriptor.bytes ++ packet.piece

/-! ## Parsing a descriptor gives it back -/

theorem mandatory_bits : ∀ (extension reserved nonReference beginning : Bool) (partitionId : Fin 9),
    let byte := flag extension 0x80 ||| flag reserved 0x40 ||| flag nonReference 0x20 |||
      flag beginning 0x10 ||| UInt8.ofNat partitionId.val
    bit byte 0x80 = extension ∧ bit byte 0x20 = nonReference ∧ bit byte 0x10 = beginning ∧
      (byte &&& 0x0F).toNat = partitionId.val := by
  decide +kernel

theorem flags_bits : ∀ (pictureId tl0PicIdx hasTid hasKeyIdx : Bool) (reserved : Fin 16),
    let byte := flag pictureId 0x80 ||| flag tl0PicIdx 0x40 ||| flag hasTid 0x20 |||
      flag hasKeyIdx 0x10 ||| UInt8.ofNat reserved.val
    bit byte 0x80 = pictureId ∧ bit byte 0x40 = tl0PicIdx ∧ bit byte 0x20 = hasTid ∧
      bit byte 0x10 = hasKeyIdx := by
  decide +kernel

theorem bit_eq {mask : UInt8} {index : Nat} (single : mask.toNat = 2 ^ index) (byte : UInt8) :
    bit byte mask = decide (byte.toNat / 2 ^ index % 2 = 1) := by
  have value := toNat_and_singleBit single byte
  rw [bit]
  apply decide_eq_decide.mpr
  rw [Ne, ← UInt8.toNat_inj, value, UInt8.toNat_zero]
  cases Nat.mod_two_eq_zero_or_one (byte.toNat / 2 ^ index) with
  | inl clear => simp [clear]
  | inr set => simp [set]

/-- A flag goes back where it was found. -/
theorem flag_bit {mask : UInt8} {index : Nat} (single : mask.toNat = 2 ^ index) (byte : UInt8) :
    flag (bit byte mask) mask = byte &&& mask := by
  apply UInt8.toNat_inj.mp
  rw [toNat_and_singleBit single, bit_eq single, flag]
  cases Nat.mod_two_eq_zero_or_one (byte.toNat / 2 ^ index) with
  | inl clear => simp [clear]
  | inr set => simp [set, single]

theorem bit_sevenBits : ∀ id : Fin 128, bit (UInt8.ofNat id.val) 0x80 = false := by
  intro id
  rw [@bit_eq 0x80 7 rfl, UInt8.toNat_ofNat', decide_eq_false_iff_not]
  omega

theorem bit_fifteenBits (high : UInt8) : bit (0x80 ||| high) 0x80 = true := by
  revert high
  exact forall_octet (by decide +kernel)

section Parsing

variable {packet : Vp8Packet} {call : ParseCall}

theorem cell_of_carries (carries : call.payload = packet.bytes) {index : Nat} {cell : UInt8}
    (inside : packet.bytes[index]? = some cell) : call.packet index = cell := by
  have length := congrArg List.length carries
  rw [ParseCall.payload, Memory.slice_length] at length
  rw [ParseCall.payload, length] at carries
  exact Memory.apply_of_getElem? carries inside

theorem mandatory_of_carries (carries : call.payload = packet.bytes) :
    call.packet 0 = packet.descriptor.mandatory :=
  cell_of_carries carries rfl

theorem flags_of_carries (carries : call.payload = packet.bytes) {extension : Vp8Extension}
    (extended : packet.descriptor.extension = some extension) :
    call.packet 1 = extension.flags := by
  refine cell_of_carries carries ?_
  simp [Vp8Packet.bytes, Vp8Descriptor.bytes, extended, Vp8Extension.bytes]

theorem pictureIdLength_of_carries (carries : call.payload = packet.bytes)
    {extension : Vp8Extension} (extended : packet.descriptor.extension = some extension) :
    Vp8Grammar.pictureIdLength call.packet =
      (extension.pictureId.elim [] Vp8PictureId.bytes).length := by
  have present : bit (call.packet 1) 0x80 = extension.pictureId.isSome := by
    rw [flags_of_carries carries extended]
    exact (flags_bits ..).1
  -- the M bit of a PictureID is the top bit of its first byte, whatever its width
  have second : ∀ id, extension.pictureId = some id → some (call.packet 2) = id.bytes.head? := by
    intro id given
    cases id with
    | sevenBits id | fifteenBits id =>
      exact congrArg some (cell_of_carries carries (by
        simp [Vp8Packet.bytes, Vp8Descriptor.bytes, extended, Vp8Extension.bytes, given,
          Vp8PictureId.bytes]))
  rw [Vp8Grammar.pictureIdLength, present]
  cases given : extension.pictureId with
  | none => rfl
  | some id =>
    have head := second id given
    cases id with
    | sevenBits id =>
      rw [Option.some.inj head, bit_sevenBits]
      rfl
    | fifteenBits id =>
      rw [Option.some.inj head, bit_fifteenBits]
      rfl

theorem tl0PicIdxLength_of_carries (carries : call.payload = packet.bytes)
    {extension : Vp8Extension} (extended : packet.descriptor.extension = some extension) :
    Vp8Grammar.tl0PicIdxLength call.packet = extension.tl0PicIdx.toList.length := by
  have present : bit (call.packet 1) 0x40 = extension.tl0PicIdx.isSome := by
    rw [flags_of_carries carries extended]
    exact (flags_bits ..).2.1
  rw [Vp8Grammar.tl0PicIdxLength, present]
  cases extension.tl0PicIdx <;> rfl

theorem tidAndKeyIdx_of_carries (carries : call.payload = packet.bytes)
    {extension : Vp8Extension} (extended : packet.descriptor.extension = some extension) :
    bit (call.packet 1) 0x20 = extension.hasTid ∧
      bit (call.packet 1) 0x10 = extension.hasKeyIdx := by
  rw [flags_of_carries carries extended]
  exact (flags_bits ..).2.2

theorem tidAndKeyIdxLength_of_carries (carries : call.payload = packet.bytes)
    {extension : Vp8Extension} (extended : packet.descriptor.extension = some extension) :
    Vp8Grammar.tidAndKeyIdxLength call.packet =
      (if extension.hasTid || extension.hasKeyIdx then
        [extension.tidAndKeyIdx] else []).length := by
  obtain ⟨hasTid, hasKeyIdx⟩ := tidAndKeyIdx_of_carries carries extended
  rw [Vp8Grammar.tidAndKeyIdxLength, hasTid, hasKeyIdx]
  split <;> rfl

theorem descriptorLength_of_carries (carries : call.payload = packet.bytes) :
    Vp8Grammar.descriptorLength call.packet = packet.descriptor.bytes.length := by
  have present : Vp8Grammar.hasExtension call.packet = packet.descriptor.extension.isSome := by
    rw [Vp8Grammar.hasExtension, mandatory_of_carries carries]
    exact (mandatory_bits ..).1
  rw [Vp8Grammar.descriptorLength, present]
  cases extended : packet.descriptor.extension with
  | none => simp [Vp8Descriptor.bytes, extended]
  | some extension =>
    rw [Option.isSome_some, if_pos rfl, Vp8Grammar.extensionLength,
      pictureIdLength_of_carries carries extended, tl0PicIdxLength_of_carries carries extended,
      tidAndKeyIdxLength_of_carries carries extended]
    simp only [Vp8Descriptor.bytes, extended, Option.elim_some, Vp8Extension.bytes,
      List.length_cons, List.length_append]
    omega

theorem partitionId_of_carries (carries : call.payload = packet.bytes) :
    Vp8Grammar.partitionId call.packet = packet.descriptor.partitionId.val := by
  rw [Vp8Grammar.partitionId, mandatory_of_carries carries]
  exact (mandatory_bits ..).2.2.2

theorem packetLen_of_carries (carries : call.payload = packet.bytes) :
    call.packetLen = packet.descriptor.bytes.length + packet.piece.length := by
  have length := congrArg List.length carries
  rw [ParseCall.payload, Memory.slice_length, Vp8Packet.bytes, List.length_append] at length
  have positive := List.length_pos_of_ne_nil packet.nonempty
  omega

/-- `parse` gets past the descriptor. -/
theorem accepted_of_carries (carries : call.payload = packet.bytes) :
    Vp8Grammar.partitionId call.packet ≤ 8 ∧
      Vp8Grammar.descriptorLength call.packet < call.packetLen := by
  have positive := List.length_pos_of_ne_nil packet.nonempty
  rw [partitionId_of_carries carries, descriptorLength_of_carries carries,
    packetLen_of_carries carries]
  omega

theorem ofCall_of_carries (carries : call.payload = packet.bytes) :
    Vp8Payload.ofCall call = some ⟨packet.descriptor.beginsFrame, packet.piece⟩ := by
  have beginning : Vp8Grammar.beginningOfPartition call.packet =
      packet.descriptor.beginningOfPartition := by
    rw [Vp8Grammar.beginningOfPartition, mandatory_of_carries carries]
    exact (mandatory_bits ..).2.2.1
  have length := packetLen_of_carries carries
  have remaining : (call.packetLen - (packet.descriptor.bytes.length : Int)).toNat =
      packet.piece.length := by
    omega
  have piece : call.packet.slice packet.descriptor.bytes.length packet.piece.length =
      packet.piece := by
    refine Memory.slice_of_append call.packet packet.descriptor.bytes packet.piece [] ?_
    have whole : (packet.descriptor.bytes ++ packet.piece ++ []).length =
        call.packetLen.toNat := by
      simp only [List.append_nil, List.length_append]
      omega
    rw [whole, List.append_nil]
    exact carries
  have first : (packet.descriptor.partitionId.val = 0) = (packet.descriptor.partitionId = 0) :=
    propext (Fin.val_eq_zero_iff (a := packet.descriptor.partitionId))
  rw [Vp8Payload.ofCall, if_pos (accepted_of_carries carries), beginning,
    partitionId_of_carries carries, descriptorLength_of_carries carries, remaining, piece,
    Vp8Descriptor.beginsFrame]
  simp only [first]

end Parsing

/-! ## Frames -/

def Vp8Packet.payload (packet : Vp8Packet) : Vp8Payload :=
  ⟨packet.descriptor.beginsFrame, packet.piece⟩

@[simp] theorem Vp8Packet.payload_bytes (packet : Vp8Packet) :
    packet.payload.bytes = packet.piece := rfl

namespace RtpDepacketizerVp8

/-- `bytes` are in `m_frame` and `packets` have been counted. -/
structure Holds (depacketizer : RtpDepacketizerVp8) (bytes : List UInt8) (packets : Nat) :
    Prop where
  frameLen : depacketizer.frameLen = bytes.length
  frame : depacketizer.frame.slice 0 bytes.length = bytes
  packets : depacketizer.packets = packets

variable {depacketizer : RtpDepacketizerVp8} {bytes : List UInt8} {packets : Nat}

theorem Holds.hold (holds : depacketizer.Holds bytes packets) (payload : Vp8Payload) :
    (depacketizer.hold payload).Holds (bytes ++ payload.bytes) (packets + 1) where
  frameLen := by rw [RtpDepacketizerVp8.hold, List.length_append, holds.frameLen]
  frame := by
    rw [RtpDepacketizerVp8.hold, List.length_append, holds.frameLen, Memory.slice_write_append,
      holds.frame]
  packets := congrArg (· + 1) holds.packets

theorem Holds.accepts (holds : depacketizer.Holds bytes packets) {packet : Vp8Packet}
    (whole : ¬ packet.payload.ShortKeyFrame)
    (fits : bytes.length + packet.piece.length ≤ maxEsFrameSize) {call : ParseCall}
    (carries : call.payload = packet.bytes) : depacketizer.Accepts call packet.payload :=
  ⟨ofCall_of_carries carries, whole, by rw [holds.frameLen]; exact fits⟩

theorem continued_frameType {packet : Vp8Packet}
    (continued : packet.descriptor.beginsFrame = false) :
    (depacketizer.hold packet.payload).frameType = depacketizer.frameType := by
  rw [hold, Vp8Packet.payload, continued]
  rfl

theorem continued_whole {packet : Vp8Packet} (continued : packet.descriptor.beginsFrame = false) :
    ¬ packet.payload.ShortKeyFrame := by
  rintro ⟨begins, -⟩
  rw [Vp8Payload.beginsKeyFrame_iff, Vp8Packet.payload, continued] at begins
  exact Bool.false_ne_true begins.1

/-- The pieces of a frame are held one after the other; the last packet closes what is held. -/
theorem Holds.completes_pieces {first : Vp8Packet} {rest : List Vp8Packet}
    (holds : depacketizer.Holds bytes packets) (whole : ¬ first.payload.ShortKeyFrame)
    (continued : ∀ packet ∈ rest, packet.descriptor.beginsFrame = false)
    (fits : bytes.length + ((first :: rest).flatMap Vp8Packet.piece).length ≤ maxEsFrameSize)
    {calls : List ParseCall}
    (carry : calls.map ParseCall.payload = (first :: rest).map Vp8Packet.bytes)
    (unmarked : ∀ call ∈ calls.dropLast, call.marker = false) :
    Completes depacketizer calls fun last result =>
      ∃ held : RtpDepacketizerVp8, result = held.finishPacket last ∧
        held.Holds (bytes ++ (first :: rest).flatMap Vp8Packet.piece)
          (packets + (first :: rest).length) ∧
        held.frameType = (depacketizer.hold first.payload).frameType ∧
        held.keyRequired = depacketizer.keyRequired := by
  -- on the pieces behind the first, which is the only one to write `m_frame_type`
  induction rest generalizing depacketizer first bytes packets calls with
  | nil =>
    obtain ⟨call, rfl, carries⟩ := List.map_eq_singleton_iff.mp carry
    have accepts := holds.accepts whole (by simpa using fits) carries
    refine completes_singleton ⟨_, answer_of_accepts accepts, ?_, rfl, rfl⟩
    simpa using holds.hold first.payload
  | cons second rest ih =>
    obtain ⟨call, calls, rfl, carries, carryRest⟩ := List.map_eq_cons_iff.mp carry
    obtain ⟨continuedSecond, continuedRest⟩ := List.forall_mem_cons.mp continued
    rw [List.flatMap_cons, List.length_append] at fits
    have more : calls ≠ [] := by
      rintro rfl
      cases carryRest
    rw [List.dropLast_cons_of_ne_nil more, List.forall_mem_cons] at unmarked
    have answered : answer depacketizer call =
        ⟨.needMore, depacketizer.hold first.payload, call.frame⟩ := by
      rw [answer_of_accepts (holds.accepts whole (by omega) carries), finishPacket,
        if_neg (Bool.eq_false_iff.mp unmarked.1)]
    have rests := ih (holds.hold first.payload) (continued_whole continuedSecond) continuedRest
      (by rw [List.length_append, Vp8Packet.payload_bytes]; omega) carryRest unmarked.2
    rw [continued_frameType continuedSecond, List.append_assoc] at rests
    refine Completes.cons (by rw [answered]) ?_
    rw [answered, List.length_cons, Nat.add_comm (second :: rest).length, ← Nat.add_assoc]
    exact rests

end RtpDepacketizerVp8

/-- A frame cut into packets: only the first begins a frame, and the first piece of a key frame
holds the whole header of the frame. -/
structure Vp8Packetisation where
  first : Vp8Packet
  rest : List Vp8Packet
  begins : first.descriptor.beginsFrame = true
  continued : ∀ packet ∈ rest, packet.descriptor.beginsFrame = false
  keyHeader : bit (first.piece.headD 0) 0x01 = false → 10 ≤ first.piece.length
  fits : ((first :: rest).flatMap Vp8Packet.piece).length ≤ maxEsFrameSize

namespace Vp8Packetisation

def packets (packetisation : Vp8Packetisation) : List Vp8Packet :=
  packetisation.first :: packetisation.rest

def frame (packetisation : Vp8Packetisation) : List UInt8 :=
  packetisation.packets.flatMap Vp8Packet.piece

/-- The frame is a key frame: the P bit of its first byte is clear. -/
def IsKeyFrame (packetisation : Vp8Packetisation) : Prop :=
  bit (packetisation.frame.headD 0) 0x01 = false

instance (packetisation : Vp8Packetisation) : Decidable packetisation.IsKeyFrame :=
  inferInstanceAs (Decidable (_ = _))

theorem frame_headD (packetisation : Vp8Packetisation) :
    packetisation.frame.headD 0 = packetisation.first.piece.headD 0 := by
  rw [frame, packets, List.flatMap_cons]
  cases piece : packetisation.first.piece with
  | nil => exact absurd piece packetisation.first.nonempty
  | cons head tail => rfl

theorem beginsKeyFrame_iff (packetisation : Vp8Packetisation) :
    packetisation.first.payload.BeginsKeyFrame ↔ packetisation.IsKeyFrame := by
  rw [Vp8Payload.beginsKeyFrame_iff, IsKeyFrame, frame_headD]
  exact and_iff_right packetisation.begins

theorem whole (packetisation : Vp8Packetisation) :
    ¬ packetisation.first.payload.ShortKeyFrame := by
  rintro ⟨begins, short⟩
  have header := packetisation.keyHeader ((Vp8Payload.beginsKeyFrame_iff _).mp begins).2
  exact absurd short (Nat.not_lt.mpr header)

end Vp8Packetisation

namespace RtpDepacketizerVp8

/-- The packets of a frame give the frame back, unless a key frame is required and it is none. -/
theorem depacketises_frame (packetisation : Vp8Packetisation)
    {earlier : List ParseCall} {last : ParseCall}
    (carry : (earlier ++ [last]).map ParseCall.payload =
      packetisation.packets.map Vp8Packet.bytes)
    (unmarked : ∀ call ∈ earlier, call.marker = false) (marked : last.marker = true)
    {depacketizer : RtpDepacketizerVp8} (noFrame : depacketizer.frameLen = 0)
    (noPackets : depacketizer.packets = 0) :
    let result := answer (afterPackets depacketizer earlier) last
    (∀ result ∈ answers depacketizer earlier, result.status = .needMore) ∧
      (if depacketizer.keyRequired = false ∨ packetisation.IsKeyFrame then
        result.status = .frame ∧
        (∃ frame, result.frame = last.frame.map (fun _ => frame) ∧
          frameBytes result frame = packetisation.frame ∧ frame.pts = last.pts.toNat ∧
          (frame.flags = if packetisation.IsKeyFrame then frameIsSyncPoint else 0) ∧
          frame.packets = (earlier ++ [last]).length) ∧
        result.depacketizer.keyRequired = false
      else result.status = .needMore ∧ result.frame = last.frame) ∧
      result.depacketizer.frameLen = 0 ∧ result.depacketizer.packets = 0 := by
  have holds : depacketizer.Holds [] 0 := ⟨noFrame, rfl, noPackets⟩
  obtain ⟨earlier', last', same, waiting, held, closed, holdsAll, frameType, keyRequired⟩ :=
    holds.completes_pieces packetisation.whole packetisation.continued
      (by simpa using packetisation.fits) carry (by simpa using unmarked)
  obtain ⟨rfl, rfl⟩ : earlier = earlier' ∧ last = last' := by
    simpa using List.append_inj' same rfl
  -- the gate sees the type the first packet has left, and that is the type of the frame
  have isKey : held.frameType = .videoFrameKey ↔ packetisation.IsKeyFrame := by
    have first : packetisation.first.payload.isFirst = true := packetisation.begins
    rw [frameType, ← packetisation.beginsKeyFrame_iff, hold, if_pos first]
    exact Iff.rfl
  have counted : held.packets = (earlier ++ [last]).length := by
    have length := congrArg List.length carry
    rw [List.length_map, List.length_map] at length
    rw [holdsAll.packets, Nat.zero_add, length, Vp8Packetisation.packets]
  rw [List.nil_append] at holdsAll
  refine ⟨waiting, ?_⟩
  rw [closed, finishPacket, if_pos marked, keyRequired]
  by_cases passes : depacketizer.keyRequired = false ∨ packetisation.IsKeyFrame
  · have opened : ¬ (depacketizer.keyRequired = true ∧ held.frameType ≠ .videoFrameKey) := by
      rintro ⟨required, notKey⟩
      rcases passes with notRequired | key
      · exact Bool.false_ne_true (notRequired.symm.trans required)
      · exact notKey (isKey.mpr key)
    rw [if_pos passes, if_neg opened]
    refine ⟨⟨rfl, ⟨_, rfl, ?_, rfl, ?_, counted⟩, rfl⟩, rfl, rfl⟩
    · -- closing the frame sets `m_frame_len` only, the bytes stay in `m_frame`
      rw [frameBytes, holdsAll.frameLen]
      exact holdsAll.frame
    · simp only [isKey]
  · have gated : depacketizer.keyRequired = true ∧ held.frameType ≠ .videoFrameKey := by
      rw [not_or, Bool.not_eq_false] at passes
      exact ⟨passes.1, mt isKey.mp passes.2⟩
    rw [if_neg passes, if_pos gated]
    exact ⟨⟨rfl, rfl⟩, rfl, rfl⟩

/-- A key frame in two packets, the first with a PictureID of 15 bits. -/
def sampleFrame : Vp8Packetisation where
  first := ⟨⟨false, false, true, 0, some ⟨some (.fifteenBits 300), none, false, false, 0, 0⟩⟩,
    [0x10, 0, 0, 0x9d, 1, 0x2a, 0x80, 2, 0xe0, 1], by decide⟩
  rest := [⟨⟨false, false, false, 1, none⟩, [7, 8], by decide⟩]
  begins := rfl
  continued := by decide
  keyHeader := fun _ => by decide
  fits := by decide

theorem depacketises_frame_sample :
    (answer
      (afterPackets (create fun _ => 0)
        [.ofPayload [0x90, 0x80, 0x81, 0x2c, 0x10, 0, 0, 0x9d, 1, 0x2a, 0x80, 2, 0xe0, 1]
          false 90000 100])
      (.ofPayload [0x01, 7, 8] true 90000 100)).status = .frame :=
  ((if_pos (.inr (by decide))).mp (depacketises_frame sampleFrame
    (by simp only [List.cons_append, List.nil_append, List.map_cons, List.map_nil,
          ParseCall.payload_ofPayload]; decide)
    (by simp [ParseCall.ofPayload]) rfl rfl rfl).2.1).1

end RtpDepacketizerVp8

end RtpPlayer
