import RtpPlayer.Depacketizers.Vp8RoundTrip

/-! # The fields of the VP8 payload descriptor

A descriptor stands for values of its fields.  `parse` gets past exactly the descriptors there are,
with a payload behind them, finds the values of their fields, and never reads behind the packet. -/

namespace RtpPlayer

open Foundations
open RtpDepacketizer
open RtpDepacketizerVp8 (bit parseDescriptor)

/-! ## Field assignments -/

def Vp8PictureId.value : Vp8PictureId → Nat
  | sevenBits id => id.val
  | fifteenBits id => id.val

/-- Values for the fields, `none` for those that are absent; `temporal` is TID and Y. -/
structure Vp8Fields where
  nonReference : Bool
  beginningOfPartition : Bool
  partitionId : Fin 9
  pictureId : Option Vp8PictureId
  tl0PicIdx : Option UInt8
  temporal : Option (Fin 4 × Bool)
  keyIdx : Option (Fin 32)

namespace Vp8Fields

def header (fields : Vp8Fields) : RtpVideoHeaderVp8 where
  nonReference := fields.nonReference
  pictureId := fields.pictureId.elim RtpDepacketizerVp8.noPictureId fun id => id.value
  tl0PicIdx := fields.tl0PicIdx.elim RtpDepacketizerVp8.noTl0PicIdx fun index => index.toNat
  temporalIdx := fields.temporal.elim RtpDepacketizerVp8.noTemporalIdx fun temporal =>
    UInt8.ofNat temporal.1.val
  layerSync := fields.temporal.elim false Prod.snd
  keyIdx := fields.keyIdx.elim RtpDepacketizerVp8.noKeyIdx fun index => index.val
  partitionId := fields.partitionId.val
  beginningOfPartition := fields.beginningOfPartition

/-- TID, Y and KEYIDX in their byte. -/
def tidAndKeyIdx (tid : Fin 4) (layerSync : Bool) (keyIdx : Fin 32) : UInt8 :=
  UInt8.ofNat (tid.val * 64 + layerSync.toNat * 32 + keyIdx.val)

/-- The descriptor of the fields, with an extension where one of the optional fields is there. -/
def descriptor (fields : Vp8Fields) : Vp8Descriptor where
  reserved := false
  nonReference := fields.nonReference
  beginningOfPartition := fields.beginningOfPartition
  partitionId := fields.partitionId
  extension :=
    if fields.pictureId.isSome || fields.tl0PicIdx.isSome || fields.temporal.isSome ||
        fields.keyIdx.isSome then
      let temporal := fields.temporal.getD (0, false)
      some {
        pictureId := fields.pictureId
        tl0PicIdx := fields.tl0PicIdx
        hasTid := fields.temporal.isSome
        hasKeyIdx := fields.keyIdx.isSome
        tidAndKeyIdx := tidAndKeyIdx temporal.1 temporal.2 (fields.keyIdx.getD 0)
        reserved := 0 }
    else none

end Vp8Fields

theorem tid_bound (byte : UInt8) : byte.toNat / 64 < 4 := by
  have := byte.toNat_lt
  omega

namespace Vp8Extension

/-- TID and Y. -/
def temporal (extension : Vp8Extension) : Option (Fin 4 × Bool) :=
  if extension.hasTid then
    some (⟨extension.tidAndKeyIdx.toNat / 64, tid_bound _⟩,
      extension.tidAndKeyIdx.toNat / 32 % 2 = 1)
  else none

def keyIdx (extension : Vp8Extension) : Option (Fin 32) :=
  if extension.hasKeyIdx then
    some ⟨extension.tidAndKeyIdx.toNat % 32, Nat.mod_lt _ (by decide)⟩
  else none

end Vp8Extension

/-- The fields a descriptor stands for. -/
def Vp8Descriptor.fields (descriptor : Vp8Descriptor) : Vp8Fields where
  nonReference := descriptor.nonReference
  beginningOfPartition := descriptor.beginningOfPartition
  partitionId := descriptor.partitionId
  pictureId := descriptor.extension.bind Vp8Extension.pictureId
  tl0PicIdx := descriptor.extension.bind Vp8Extension.tl0PicIdx
  temporal := descriptor.extension.bind Vp8Extension.temporal
  keyIdx := descriptor.extension.bind Vp8Extension.keyIdx

theorem tidAndKeyIdx_parts : ∀ (tid : Fin 4) (layerSync : Bool) (keyIdx : Fin 32),
    let byte := Vp8Fields.tidAndKeyIdx tid layerSync keyIdx
    byte.toNat / 64 = tid.val ∧ decide (byte.toNat / 32 % 2 = 1) = layerSync ∧
      byte.toNat % 32 = keyIdx.val := by
  intro tid layerSync keyIdx
  dsimp only [Vp8Fields.tidAndKeyIdx]
  rw [UInt8.toNat_ofNat']
  cases layerSync with
  | false =>
    simp only [Bool.toNat_false, decide_eq_false_iff_not]
    omega
  | true =>
    simp only [Bool.toNat_true, decide_eq_true_iff]
    omega

/-- The descriptor of a field assignment stands for it. -/
theorem fields_descriptor (fields : Vp8Fields) : fields.descriptor.fields = fields := by
  obtain ⟨nonReference, beginning, partitionId, pictureId, tl0PicIdx, temporal, keyIdx⟩ := fields
  have parts (tid : Fin 4) (layerSync : Bool) (index : Fin 32) :=
    tidAndKeyIdx_parts tid layerSync index
  cases temporal with
  | none =>
    cases keyIdx with
    | none => cases pictureId <;> cases tl0PicIdx <;> rfl
    | some index =>
      obtain ⟨-, -, keyIdx⟩ := parts 0 false index
      cases pictureId <;> cases tl0PicIdx <;>
        simp [Vp8Fields.descriptor, Vp8Descriptor.fields, Vp8Extension.temporal,
          Vp8Extension.keyIdx, keyIdx]
  | some temporal =>
    obtain ⟨tid, layerSync⟩ := temporal
    cases keyIdx with
    | none =>
      obtain ⟨tid, sync, -⟩ := parts tid layerSync 0
      cases pictureId <;> cases tl0PicIdx <;>
        simp [Vp8Fields.descriptor, Vp8Descriptor.fields, Vp8Extension.temporal,
          Vp8Extension.keyIdx, tid, sync]
    | some index =>
      obtain ⟨tid, sync, keyIdx⟩ := parts tid layerSync index
      cases pictureId <;> cases tl0PicIdx <;>
        simp [Vp8Fields.descriptor, Vp8Descriptor.fields, Vp8Extension.temporal,
          Vp8Extension.keyIdx, tid, sync, keyIdx]

/-! ## Parsing finds the fields -/

theorem tid_bits (byte : UInt8) : (byte >>> 6) &&& 0x03 = UInt8.ofNat (byte.toNat / 64) := by
  apply UInt8.toNat_inj.mp
  rw [@toNat_and_lowerBits 0x03 2 rfl, UInt8.toNat_shiftRight, UInt8.toNat_ofNat']
  show byte.toNat >>> 6 % _ = _
  rw [Nat.shiftRight_eq_div_pow]
  have := byte.toNat_lt
  omega

theorem layerSync_bit (byte : UInt8) : bit byte 0x20 = decide (byte.toNat / 32 % 2 = 1) :=
  @bit_eq 0x20 5 rfl byte

theorem keyIdx_bits (byte : UInt8) : (byte &&& 0x1F).toNat = byte.toNat % 32 :=
  @toNat_and_lowerBits 0x1F 5 rfl byte

theorem sevenBits_value : ∀ id : Fin 128, (UInt8.ofNat id.val &&& 0x7F).toNat = id.val := by
  intro id
  rw [@toNat_and_lowerBits 0x7F 7 rfl, UInt8.toNat_ofNat']
  omega

theorem fifteenBits_high : ∀ high : Fin 128,
    ((0x80 ||| UInt8.ofNat high.val) &&& 0x7F).toNat = high.val := by
  intro high
  rw [@toNat_and_lowerBits 0x7F 7 rfl, UInt8.toNat_or, Nat.or_mod_two_pow, UInt8.toNat_ofNat']
  show 0 ||| _ = _
  rw [Nat.zero_or]
  omega

section Parsing

variable {packet : Vp8Packet} {call : ParseCall}

theorem mandatoryHeader_of_carries (carries : call.payload = packet.bytes) :
    Vp8Grammar.mandatoryHeader call.packet =
      { packet.descriptor.fields.header with
        pictureId := RtpDepacketizerVp8.noPictureId
        tl0PicIdx := RtpDepacketizerVp8.noTl0PicIdx
        temporalIdx := RtpDepacketizerVp8.noTemporalIdx
        layerSync := false
        keyIdx := RtpDepacketizerVp8.noKeyIdx } := by
  obtain ⟨-, nonReference, beginning, partitionId⟩ := mandatory_bits
    packet.descriptor.extension.isSome packet.descriptor.reserved packet.descriptor.nonReference
    packet.descriptor.beginningOfPartition packet.descriptor.partitionId
  rw [← Vp8Descriptor.mandatory] at nonReference beginning partitionId
  rw [Vp8Grammar.mandatoryHeader, mandatory_of_carries carries, RtpDepacketizerVp8.initialPayload]
  simp only [nonReference, beginning, partitionId, Vp8Fields.header, Vp8Descriptor.fields]

/-- The bytes of a packet behind the PictureID of its descriptor. -/
theorem bytes_of_extended {extension : Vp8Extension}
    (extended : packet.descriptor.extension = some extension) :
    packet.bytes = ([packet.descriptor.mandatory, extension.flags] ++
      extension.pictureId.elim [] Vp8PictureId.bytes) ++ (extension.tl0PicIdx.toList ++
        ((if extension.hasTid || extension.hasKeyIdx then [extension.tidAndKeyIdx] else []) ++
          packet.piece)) := by
  simp [Vp8Packet.bytes, Vp8Descriptor.bytes, extended, Vp8Extension.bytes]

theorem cell_behind (carries : call.payload = packet.bytes) {front back : List UInt8} {cell : UInt8}
    (split : packet.bytes = front ++ cell :: back) : call.packet front.length = cell :=
  cell_of_carries carries (by simp [split])

theorem pictureIdHeader_of_carries (carries : call.payload = packet.bytes)
    {extension : Vp8Extension} (extended : packet.descriptor.extension = some extension)
    (header : RtpVideoHeaderVp8) :
    Vp8Grammar.pictureIdHeader call.packet header =
      { header with
        pictureId := extension.pictureId.elim header.pictureId fun id => id.value } := by
  have present : bit (call.packet 1) 0x80 = extension.pictureId.isSome := by
    rw [flags_of_carries carries extended]
    exact (flags_bits ..).1
  have bytes := bytes_of_extended extended
  rw [Vp8Grammar.pictureIdHeader, present]
  cases given : extension.pictureId with
  | none => rfl
  | some id =>
    rw [Option.isSome_some, if_pos rfl, Vp8Grammar.pictureId]
    rw [given] at bytes
    cases id with
    | sevenBits id =>
      have first : call.packet 2 = UInt8.ofNat id.val :=
        cell_of_carries carries (by simp [bytes, Vp8PictureId.bytes])
      rw [first, bit_sevenBits, sevenBits_value]
      rfl
    | fifteenBits id =>
      have first : call.packet 2 = 0x80 ||| UInt8.ofNat (id.val / 256) :=
        cell_of_carries carries (by simp [bytes, Vp8PictureId.bytes])
      have second : call.packet 3 = UInt8.ofNat id.val :=
        cell_of_carries carries (by simp [bytes, Vp8PictureId.bytes])
      have high := fifteenBits_high ⟨id.val / 256, by omega⟩
      -- the M bit is masked out of the upper half
      have value : ((id.val / 256 : Nat) : Int) * 256 + ((id.val % 256 : Nat) : Int) = id.val := by
        omega
      rw [first, second, bit_fifteenBits, if_pos rfl, high, UInt8.toNat_ofNat', value]
      rfl

theorem tl0PicIdxHeader_of_carries (carries : call.payload = packet.bytes)
    {extension : Vp8Extension} (extended : packet.descriptor.extension = some extension)
    (header : RtpVideoHeaderVp8) :
    Vp8Grammar.tl0PicIdxHeader call.packet header =
      { header with
        tl0PicIdx := extension.tl0PicIdx.elim header.tl0PicIdx fun index => index.toNat } := by
  have present : bit (call.packet 1) 0x40 = extension.tl0PicIdx.isSome := by
    rw [flags_of_carries carries extended]
    exact (flags_bits ..).2.1
  have bytes := bytes_of_extended extended
  rw [Vp8Grammar.tl0PicIdxHeader, present, pictureIdLength_of_carries carries extended]
  cases given : extension.tl0PicIdx with
  | none => rfl
  | some index =>
    rw [given] at bytes
    have cell := cell_behind carries bytes
    rw [List.length_append] at cell
    rw [Option.isSome_some, if_pos rfl]
    exact congrArg (fun byte : UInt8 => { header with tl0PicIdx := (byte.toNat : Int) }) cell

/-- The byte of TID, Y and KEYIDX, where it is there. -/
theorem tidAndKeyIdx_cell (carries : call.payload = packet.bytes)
    {extension : Vp8Extension} (extended : packet.descriptor.extension = some extension)
    (present : (extension.hasTid || extension.hasKeyIdx) = true) :
    Vp8Grammar.tidAndKeyIdx call.packet = extension.tidAndKeyIdx := by
  have bytes := bytes_of_extended extended
  rw [if_pos present, ← List.append_assoc, List.singleton_append] at bytes
  have cell := cell_behind carries bytes
  rw [List.length_append, List.length_append] at cell
  rw [Vp8Grammar.tidAndKeyIdx, pictureIdLength_of_carries carries extended,
    tl0PicIdxLength_of_carries carries extended]
  exact cell

theorem tidHeader_of_carries (carries : call.payload = packet.bytes)
    {extension : Vp8Extension} (extended : packet.descriptor.extension = some extension)
    (header : RtpVideoHeaderVp8) :
    Vp8Grammar.tidHeader call.packet header =
      { header with
        temporalIdx := extension.temporal.elim header.temporalIdx fun temporal =>
          UInt8.ofNat temporal.1.val
        layerSync := extension.temporal.elim header.layerSync Prod.snd } := by
  obtain ⟨hasTid, -⟩ := tidAndKeyIdx_of_carries carries extended
  rw [Vp8Grammar.tidHeader, hasTid, Vp8Extension.temporal]
  cases present : extension.hasTid with
  | false => rfl
  | true =>
    rw [tidAndKeyIdx_cell carries extended (by rw [present]; rfl), tid_bits, layerSync_bit]
    rfl

theorem keyIdxHeader_of_carries (carries : call.payload = packet.bytes)
    {extension : Vp8Extension} (extended : packet.descriptor.extension = some extension)
    (header : RtpVideoHeaderVp8) :
    Vp8Grammar.keyIdxHeader call.packet header =
      { header with
        keyIdx := extension.keyIdx.elim header.keyIdx fun index => index.val } := by
  obtain ⟨-, hasKeyIdx⟩ := tidAndKeyIdx_of_carries carries extended
  rw [Vp8Grammar.keyIdxHeader, hasKeyIdx, Vp8Extension.keyIdx]
  cases present : extension.hasKeyIdx with
  | false => rfl
  | true =>
    rw [tidAndKeyIdx_cell carries extended (by rw [present, Bool.or_true]), keyIdx_bits]
    rfl

/-- The header `parse` finds has the values of the fields. -/
theorem header_of_carries (carries : call.payload = packet.bytes) :
    Vp8Grammar.header call.packet = packet.descriptor.fields.header := by
  have present : Vp8Grammar.hasExtension call.packet = packet.descriptor.extension.isSome := by
    rw [Vp8Grammar.hasExtension, mandatory_of_carries carries]
    exact (mandatory_bits ..).1
  rw [Vp8Grammar.header, present, mandatoryHeader_of_carries carries]
  cases extended : packet.descriptor.extension with
  | none => simp [Vp8Fields.header, Vp8Descriptor.fields, extended]
  | some extension =>
    rw [Option.isSome_some, if_pos rfl, pictureIdHeader_of_carries carries extended,
      tl0PicIdxHeader_of_carries carries extended, tidHeader_of_carries carries extended,
      keyIdxHeader_of_carries carries extended]
    simp [Vp8Fields.header, Vp8Descriptor.fields, extended]

end Parsing

/-! ## What `parse` accepts is a descriptor -/

theorem flags_restore (byte : UInt8) :
    flag (bit byte 0x80) 0x80 ||| flag (bit byte 0x40) 0x40 ||| flag (bit byte 0x20) 0x20 |||
      flag (bit byte 0x10) 0x10 ||| UInt8.ofNat (byte &&& 0x0F).toNat = byte := by
  rw [@flag_bit 0x80 7 rfl, @flag_bit 0x40 6 rfl, @flag_bit 0x20 5 rfl, @flag_bit 0x10 4 rfl,
    UInt8.ofNat_toNat, ← octet_and_or, ← octet_and_or, ← octet_and_or, ← octet_and_or]
  exact UInt8.and_neg_one

theorem lowerFour_lt (byte : UInt8) : (byte &&& 0x0F).toNat < 16 := by
  rw [@toNat_and_lowerBits 0x0F 4 rfl]
  exact Nat.mod_lt _ (by decide)

theorem lowerSeven_lt (byte : UInt8) : (byte &&& 0x7F).toNat < 128 := by
  rw [@toNat_and_lowerBits 0x7F 7 rfl]
  exact Nat.mod_lt _ (by decide)

theorem sevenBits_restore (byte : UInt8) :
    bit byte 0x80 = false → UInt8.ofNat (byte &&& 0x7F).toNat = byte := by
  intro narrow
  rw [@bit_eq 0x80 7 rfl, decide_eq_false_iff_not] at narrow
  apply UInt8.toNat_inj.mp
  rw [UInt8.ofNat_toNat, @toNat_and_lowerBits 0x7F 7 rfl]
  have := byte.toNat_lt
  omega

theorem fifteenBits_restore (byte : UInt8) :
    bit byte 0x80 = true → 0x80 ||| UInt8.ofNat (byte &&& 0x7F).toNat = byte := by
  intro wide
  have upper : byte &&& 0x80 = 0x80 := by
    rw [← @flag_bit 0x80 7 rfl, wide]
    rfl
  calc 0x80 ||| UInt8.ofNat (byte &&& 0x7F).toNat
      = (byte &&& 0x80) ||| (byte &&& 0x7F) := by rw [UInt8.ofNat_toNat, upper]
    _ = byte &&& (0x80 ||| 0x7F) := (octet_and_or ..).symm
    _ = byte := UInt8.and_neg_one

/-- The PictureID whose bytes are `first` and, where it is wide, `second`. -/
def Vp8PictureId.ofBytes (first second : UInt8) : Vp8PictureId :=
  if bit first 0x80 then
    .fifteenBits ⟨(first &&& 0x7F).toNat * 256 + second.toNat, by
      have := lowerSeven_lt first
      have := second.toNat_lt
      omega⟩
  else .sevenBits ⟨(first &&& 0x7F).toNat, lowerSeven_lt first⟩

theorem Vp8PictureId.bytes_ofBytes (first second : UInt8) :
    (ofBytes first second).bytes = first :: if bit first 0x80 then [second] else [] := by
  rw [ofBytes]
  split
  next wide =>
    have upper : ((first &&& 0x7F).toNat * 256 + second.toNat) / 256 = (first &&& 0x7F).toNat := by
      have := second.toNat_lt
      omega
    have lower : UInt8.ofNat ((first &&& 0x7F).toNat * 256 + second.toNat) = second := by
      apply UInt8.toNat_inj.mp
      rw [UInt8.toNat_ofNat']
      have := second.toNat_lt
      omega
    simp only [bytes, upper, lower, fifteenBits_restore first wide]
  next narrow =>
    simp only [bytes, sevenBits_restore first (Bool.eq_false_iff.mpr narrow)]

namespace Vp8Grammar

variable (packet : Memory UInt8)

/-- The extension that begins at the second byte of the packet. -/
def extension : Vp8Extension where
  pictureId :=
    if bit (packet 1) 0x80 then some (Vp8PictureId.ofBytes (packet 2) (packet 3)) else none
  tl0PicIdx := if bit (packet 1) 0x40 then some (packet (2 + pictureIdLength packet)) else none
  hasTid := bit (packet 1) 0x20
  hasKeyIdx := bit (packet 1) 0x10
  tidAndKeyIdx := tidAndKeyIdx packet
  reserved := ⟨(packet 1 &&& 0x0F).toNat, lowerFour_lt _⟩

theorem flags_extension : (extension packet).flags = packet 1 := by
  have pictureId : (extension packet).pictureId.isSome = bit (packet 1) 0x80 := by
    cases present : bit (packet 1) 0x80 <;> simp [extension, present]
  have tl0PicIdx : (extension packet).tl0PicIdx.isSome = bit (packet 1) 0x40 := by
    cases present : bit (packet 1) 0x40 <;> simp [extension, present]
  rw [Vp8Extension.flags, pictureId, tl0PicIdx]
  exact flags_restore (packet 1)

theorem bytes_extension : (extension packet).bytes = packet.slice 1 (extensionLength packet) := by
  have pictureId : (extension packet).pictureId.elim [] Vp8PictureId.bytes =
      packet.slice 2 (pictureIdLength packet) := by
    rw [extension, pictureIdLength]
    split
    next present =>
      rw [Option.elim_some, Vp8PictureId.bytes_ofBytes]
      split <;> rfl
    next absent => rfl
  have tl0PicIdx : (extension packet).tl0PicIdx.toList =
      packet.slice (2 + pictureIdLength packet) (tl0PicIdxLength packet) := by
    dsimp only [extension]
    rw [tl0PicIdxLength]
    split <;> rfl
  have tidAndKeyIdx : (if (extension packet).hasTid || (extension packet).hasKeyIdx then
        [(extension packet).tidAndKeyIdx] else []) =
      packet.slice (2 + pictureIdLength packet + tl0PicIdxLength packet)
        (tidAndKeyIdxLength packet) := by
    rw [tidAndKeyIdxLength]
    by_cases present : (bit (packet 1) 0x20 || bit (packet 1) 0x10) = true
    · rw [if_pos present, if_pos (by exact present)]
      rfl
    · rw [if_neg present, if_neg (by exact present)]
      rfl
  rw [Vp8Extension.bytes, flags_extension, pictureId, tl0PicIdx, tidAndKeyIdx, extensionLength,
    Memory.slice_add, Memory.slice_add, Memory.slice_add, Memory.slice_one, ← Nat.add_assoc 1,
    ← Nat.add_assoc 1, ← Nat.add_assoc 1]
  simp only [List.cons_append, List.nil_append, List.append_assoc, Nat.reduceAdd]

/-- The descriptor the packet begins with. -/
def descriptor (known : partitionId packet ≤ 8) : Vp8Descriptor where
  reserved := bit (packet 0) 0x40
  nonReference := bit (packet 0) 0x20
  beginningOfPartition := bit (packet 0) 0x10
  partitionId := ⟨partitionId packet, Nat.lt_succ_of_le known⟩
  extension := if hasExtension packet then some (extension packet) else none

theorem bytes_descriptor (known : partitionId packet ≤ 8) :
    (descriptor packet known).bytes = packet.slice 0 (descriptorLength packet) := by
  have mandatory : (descriptor packet known).mandatory = packet 0 := by
    have extended : (descriptor packet known).extension.isSome = bit (packet 0) 0x80 := by
      cases present : bit (packet 0) 0x80 <;> simp [descriptor, hasExtension, present]
    rw [Vp8Descriptor.mandatory, extended]
    exact flags_restore (packet 0)
  rw [Vp8Descriptor.bytes, mandatory, descriptor, descriptorLength]
  split
  next extended =>
    rw [Option.elim_some, bytes_extension, Memory.slice_add, Memory.slice_one]
    rfl
  next absent => rfl

end Vp8Grammar

/-- A packet that `parse` gets past is a descriptor and a payload. -/
theorem exists_packet {call : ParseCall} (known : Vp8Grammar.partitionId call.packet ≤ 8)
    (complete : Vp8Grammar.descriptorLength call.packet < call.packetLen) :
    ∃ packet : Vp8Packet, call.payload = packet.bytes := by
  obtain ⟨rest, length⟩ := Nat.exists_eq_add_of_lt
    (show Vp8Grammar.descriptorLength call.packet < call.packetLen.toNat by omega)
  refine ⟨⟨Vp8Grammar.descriptor call.packet known,
    call.packet.slice (Vp8Grammar.descriptorLength call.packet) (rest + 1), ?_⟩, ?_⟩
  · rw [Memory.slice_succ]
    exact List.cons_ne_nil _ _
  · rw [Vp8Packet.bytes, Vp8Grammar.bytes_descriptor, ParseCall.payload, length, Nat.add_assoc,
      Memory.slice_add, Nat.zero_add]

/-! ## What `parse` reads -/

namespace RtpDepacketizerVp8

variable {packet : Memory UInt8} {cursor : Cursor} {limit : Nat}

/-- The parser reads below `limit` and leaves a cursor whose data end there at the latest. -/
def StaysBelow (reader : LoggedReader UInt8 (Option (RtpVideoHeaderVp8 × Cursor)))
    (packet : Memory UInt8) (limit : Nat) : Prop :=
  reader.ReadsBelow packet limit ∧
    ∀ vp8 cursor, reader.value packet = some (vp8, cursor) →
      cursor.data + cursor.dataLength ≤ limit

theorem staysBelow_none : StaysBelow (pure none) packet limit :=
  ⟨LoggedReader.readsBelow_pure _ _ _, fun _ _ found => by cases found⟩

theorem staysBelow_some (vp8 : RtpVideoHeaderVp8)
    (within : cursor.data + cursor.dataLength ≤ limit) :
    StaysBelow (pure (some (vp8, cursor))) packet limit := by
  refine ⟨LoggedReader.readsBelow_pure _ _ _, ?_⟩
  intro vp8 cursor left
  obtain ⟨-, rfl⟩ := Prod.mk.inj (Option.some.inj left)
  exact within

theorem next_within (within : cursor.data + cursor.dataLength ≤ limit)
    (nonempty : cursor.dataLength ≠ 0) : cursor.next.data + cursor.next.dataLength ≤ limit := by
  simp only [Cursor.next]
  omega

theorem staysBelow_read {next : UInt8 → LoggedReader UInt8 (Option (RtpVideoHeaderVp8 × Cursor))}
    (within : cursor.data + cursor.dataLength ≤ limit) (nonempty : cursor.dataLength ≠ 0)
    (rest : ∀ byte, StaysBelow (next byte) packet limit) :
    StaysBelow (LoggedReader.read cursor.data >>= next) packet limit :=
  ⟨(LoggedReader.readsBelow_read packet (by omega)).bind (rest _).1, (rest _).2⟩

theorem parseVp8PictureId_staysBelow (vp8 : RtpVideoHeaderVp8)
    (within : cursor.data + cursor.dataLength ≤ limit) :
    StaysBelow (parseVp8PictureId vp8 cursor) packet limit := by
  unfold parseVp8PictureId
  split
  next exhausted => exact staysBelow_none
  next more =>
    have inside := next_within within more
    refine staysBelow_read within more fun first => ?_
    dsimp only
    split
    next long =>
      split
      next exhausted => exact staysBelow_none
      next second =>
        exact staysBelow_read inside second fun _ =>
          staysBelow_some _ (next_within inside second)
    next short => exact staysBelow_some _ inside

theorem parseVp8Tl0PicIdx_staysBelow (vp8 : RtpVideoHeaderVp8)
    (within : cursor.data + cursor.dataLength ≤ limit) :
    StaysBelow (parseVp8Tl0PicIdx vp8 cursor) packet limit := by
  unfold parseVp8Tl0PicIdx
  split
  next exhausted => exact staysBelow_none
  next more =>
    exact staysBelow_read within more fun _ => staysBelow_some _ (next_within within more)

theorem parseVp8TidAndKeyIdx_staysBelow (hasTid hasKeyIdx : Bool) (vp8 : RtpVideoHeaderVp8)
    (within : cursor.data + cursor.dataLength ≤ limit) :
    StaysBelow (parseVp8TidAndKeyIdx hasTid hasKeyIdx vp8 cursor) packet limit := by
  unfold parseVp8TidAndKeyIdx
  split
  next exhausted => exact staysBelow_none
  next more =>
    exact staysBelow_read within more fun _ => staysBelow_some _ (next_within within more)

theorem optionalField_staysBelow {present : Bool}
    {parse : RtpVideoHeaderVp8 → Cursor → LoggedReader UInt8 (Option (RtpVideoHeaderVp8 × Cursor))}
    (vp8 : RtpVideoHeaderVp8) (within : cursor.data + cursor.dataLength ≤ limit)
    (parses : StaysBelow (parse vp8 cursor) packet limit) :
    StaysBelow (optionalField present parse vp8 cursor) packet limit := by
  unfold optionalField
  split
  next => exact parses
  next absent => exact staysBelow_some _ within

theorem parseVp8Extension_readsBelow (vp8 : RtpVideoHeaderVp8) {data dataLength : Nat}
    (nonempty : 0 < dataLength) (within : data + dataLength ≤ limit) :
    (parseVp8Extension vp8 data dataLength).ReadsBelow packet limit := by
  unfold parseVp8Extension
  refine (LoggedReader.readsBelow_read packet (by omega)).bind ?_
  dsimp only
  -- each field is parsed from the cursor that the one before it leaves
  have first : data + 1 + (dataLength - 1) ≤ limit := by omega
  have pictureId : StaysBelow (optionalField (bit (packet data) 0x80) parseVp8PictureId vp8
      ⟨data + 1, dataLength - 1, 1⟩) packet limit :=
    optionalField_staysBelow vp8 first (parseVp8PictureId_staysBelow vp8 first)
  refine pictureId.1.bind ?_
  split
  next => exact LoggedReader.readsBelow_pure _ _ _
  next vp8 cursor left =>
    have second := pictureId.2 vp8 cursor left
    have tl0PicIdx : StaysBelow (optionalField (bit (packet data) 0x40) parseVp8Tl0PicIdx vp8
        cursor) packet limit :=
      optionalField_staysBelow vp8 second (parseVp8Tl0PicIdx_staysBelow vp8 second)
    refine tl0PicIdx.1.bind ?_
    split
    next => exact LoggedReader.readsBelow_pure _ _ _
    next vp8 cursor left =>
      have third := tl0PicIdx.2 vp8 cursor left
      refine (optionalField_staysBelow vp8 third
        (parseVp8TidAndKeyIdx_staysBelow _ _ vp8 third)).1.bind ?_
      split <;> exact LoggedReader.readsBelow_pure _ _ _

theorem parseDescriptor_readsBelow {dataLength : Int} (nonempty : 0 < dataLength) :
    (parseDescriptor dataLength).ReadsBelow packet dataLength.toNat := by
  unfold parseDescriptor
  refine (LoggedReader.readsBelow_read packet (by omega)).bind ?_
  dsimp only
  refine .ite (fun _ => LoggedReader.readsBelow_pure _ _ _) fun _ => ?_
  refine .ite (fun _ => LoggedReader.readsBelow_pure _ _ _) fun more => ?_
  refine .ite (fun extended => ?_) fun _ => LoggedReader.readsBelow_pure _ _ _
  refine (parseVp8Extension_readsBelow _ (by omega) (by omega)).bind ?_
  split
  next => exact LoggedReader.readsBelow_pure _ _ _
  next =>
    refine .ite (fun _ => ?_) fun _ => ?_ <;> exact LoggedReader.readsBelow_pure _ _ _

theorem parseVp8FrameSize_readsBelow (parsed : ParsedPayload) {data length : Nat}
    (within : data + length ≤ limit) :
    (parseVp8FrameSize parsed data length).ReadsBelow packet limit := by
  unfold parseVp8FrameSize
  refine .ite (fun _ => LoggedReader.readsBelow_pure _ _ _) fun _ => ?_
  refine .ite (fun _ => LoggedReader.readsBelow_pure _ _ _) fun long => ?_
  exact (LoggedReader.readsBelow_readSlice packet (by omega)).bind
    (LoggedReader.readsBelow_pure _ _ _)

theorem payloadFrameType_readsBelow (isFirst : Bool) {data : Nat} (inside : data < limit) :
    (payloadFrameType isFirst data).ReadsBelow packet limit := by
  unfold payloadFrameType
  exact .ite (fun _ => (LoggedReader.readsBelow_read packet inside).bind
    (LoggedReader.readsBelow_pure _ _ _)) fun _ => LoggedReader.readsBelow_pure _ _ _

theorem parsePayload_readsBelow (depacketizer : RtpDepacketizerVp8) (call : ParseCall)
    (parsed : ParsedPayload) {data length : Nat} (nonempty : 0 < length)
    (within : data + length ≤ limit) :
    (depacketizer.parsePayload call parsed data length).ReadsBelow packet limit := by
  unfold parsePayload
  refine (payloadFrameType_readsBelow _ (by omega)).bind ?_
  refine (parseVp8FrameSize_readsBelow _ within).bind ?_
  split
  next => exact LoggedReader.readsBelow_pure _ _ _
  next =>
    refine .ite (fun _ => LoggedReader.readsBelow_pure _ _ _) fun _ => ?_
    exact (LoggedReader.readsBelow_readSlice packet within).bind
      (LoggedReader.readsBelow_pure _ _ _)

/-- Nothing behind a packet is read, whatever its bytes are. -/
theorem parse_readsBelow (depacketizer : RtpDepacketizerVp8) {call : ParseCall}
    (nonempty : 0 < call.packetLen) :
    (depacketizer.parse call).ReadsBelow call.packet call.packetLen.toNat := by
  unfold parse
  refine .ite (fun _ => LoggedReader.readsBelow_pure _ _ _) fun _ => ?_
  refine (parseDescriptor_readsBelow nonempty).bind ?_
  rw [parseDescriptor_value]
  by_cases accepted : Vp8Grammar.partitionId call.packet ≤ 8 ∧
      Vp8Grammar.descriptorLength call.packet < call.packetLen
  · rw [if_pos accepted]
    have := accepted.2
    exact parsePayload_readsBelow _ _ _ (by omega) (by omega)
  · rw [if_neg accepted]
    exact LoggedReader.readsBelow_pure _ _ _

/-- `parse` goes on with what the descriptor stage has found. -/
theorem answer_of_descriptor (depacketizer : RtpDepacketizerVp8) {call : ParseCall}
    (nonempty : call.packetLen ≠ 0) {parsed : ParsedPayload} {data : Nat}
    (found : (parseDescriptor call.packetLen).value call.packet = some (parsed, data)) :
    answer depacketizer call =
      ({ depacketizer with packets := depacketizer.packets + 1 }.parsePayload call parsed data
        (call.packetLen - data).toNat).value call.packet := by
  show (depacketizer.parse call).value call.packet = _
  rw [parse, if_neg nonempty, LoggedReader.value_bind, found]

theorem answer_of_noDescriptor (depacketizer : RtpDepacketizerVp8) {call : ParseCall}
    (nonempty : call.packetLen ≠ 0)
    (refused : (parseDescriptor call.packetLen).value call.packet = none) :
    answer depacketizer call =
      ⟨.error, { depacketizer with packets := depacketizer.packets + 1 }, call.frame⟩ := by
  show (depacketizer.parse call).value call.packet = _
  rw [parse, if_neg nonempty, LoggedReader.value_bind, refused]
  rfl

/-- The descriptor stage finds this header, and `parse` goes on with the payload behind this
descriptor. -/
def GoesOn (call : ParseCall) (descriptor payload : List UInt8) (header : RtpVideoHeaderVp8) :
    Prop :=
  ∃ parsed, (parseDescriptor call.packetLen).value call.packet =
      some (parsed, descriptor.length) ∧ parsed.vp8 = header ∧
    call.packet.slice descriptor.length payload.length = payload ∧
    ∀ depacketizer : RtpDepacketizerVp8, answer depacketizer call =
      ({ depacketizer with packets := depacketizer.packets + 1 }.parsePayload call parsed
        descriptor.length payload.length).value call.packet

theorem goesOn_of_carries {call : ParseCall} {packet : Vp8Packet}
    (carries : call.payload = packet.bytes) :
    GoesOn call packet.descriptor.bytes packet.piece packet.descriptor.fields.header := by
  have found : (parseDescriptor call.packetLen).value call.packet =
      some ({ initialPayload (call.packet 0) with vp8 := packet.descriptor.fields.header },
        packet.descriptor.bytes.length) := by
    rw [parseDescriptor_value, if_pos (accepted_of_carries carries), header_of_carries carries,
      descriptorLength_of_carries carries]
  have length := congrArg List.length carries
  rw [ParseCall.payload, Memory.slice_length, Vp8Packet.bytes, List.length_append] at length
  have occupied := List.length_pos_of_ne_nil packet.nonempty
  have behind : (call.packetLen - packet.descriptor.bytes.length).toNat = packet.piece.length := by
    omega
  refine ⟨_, found, rfl, ?_, fun depacketizer => ?_⟩
  · rw [ParseCall.payload, length, Memory.slice_add, Nat.zero_add, Vp8Packet.bytes] at carries
    exact (List.append_inj carries (Memory.slice_length ..)).2
  · rw [answer_of_descriptor depacketizer (by omega) found, behind]

/-- The descriptors there are, with a payload behind them, are what `parse` gets past: it skips the
descriptor and nothing else, and the values it finds are those of the fields; and it reads bytes of
the packet only. -/
theorem accepts_descriptors (call : ParseCall) (nonempty : call.payload ≠ []) :
    ((parseDescriptor call.packetLen).value call.packet ≠ none ↔
      ∃ (descriptor : Vp8Descriptor) (payload : List UInt8),
        payload ≠ [] ∧ call.payload = descriptor.bytes ++ payload) ∧
    ((parseDescriptor call.packetLen).value call.packet = none →
      ∀ depacketizer : RtpDepacketizerVp8, answer depacketizer call =
        ⟨.error, { depacketizer with packets := depacketizer.packets + 1 }, call.frame⟩) ∧
    (∀ (descriptor : Vp8Descriptor) (payload : List UInt8),
      payload ≠ [] → call.payload = descriptor.bytes ++ payload →
        GoesOn call descriptor.bytes payload descriptor.fields.header) ∧
    (∀ (fields : Vp8Fields) (payload : List UInt8),
      payload ≠ [] → call.payload = fields.descriptor.bytes ++ payload →
        GoesOn call fields.descriptor.bytes payload fields.header) ∧
    ∀ depacketizer : RtpDepacketizerVp8,
      (depacketizer.parse call).ReadsBelow call.packet call.packetLen.toNat := by
  have positive : 0 < call.packetLen := by
    by_contra empty
    exact nonempty (call.payload_eq_nil_iff.mpr (by omega))
  have goesOn : ∀ (descriptor : Vp8Descriptor) (payload : List UInt8),
      payload ≠ [] → call.payload = descriptor.bytes ++ payload →
        GoesOn call descriptor.bytes payload descriptor.fields.header := by
    intro descriptor payload occupied carries
    exact @goesOn_of_carries call ⟨descriptor, payload, occupied⟩ carries
  refine ⟨⟨?_, ?_⟩, ?_, goesOn, ?_, fun depacketizer => depacketizer.parse_readsBelow positive⟩
  · intro accepted
    rw [parseDescriptor_value] at accepted
    -- what is accepted is read back as a descriptor
    obtain ⟨known, complete⟩ := of_not_not fun rejected => accepted (if_neg rejected)
    obtain ⟨packet, carries⟩ := exists_packet known complete
    exact ⟨packet.descriptor, packet.piece, packet.nonempty, carries⟩
  · rintro ⟨descriptor, payload, occupied, carries⟩
    obtain ⟨parsed, found, -⟩ := goesOn descriptor payload occupied carries
    rw [found]
    exact Option.some_ne_none _
  · intro refused depacketizer
    exact answer_of_noDescriptor depacketizer (by omega) refused
  · intro fields payload occupied carries
    have found := goesOn fields.descriptor payload occupied carries
    rwa [fields_descriptor] at found

/-- A TID of 2 with Y set, behind a picture ID of seven bits. -/
def layeredFields : Vp8Fields where
  nonReference := true
  beginningOfPartition := false
  partitionId := 3
  pictureId := some (.sevenBits 17)
  tl0PicIdx := none
  temporal := some (2, true)
  keyIdx := none

theorem accepts_descriptors_layered :
    GoesOn (.ofPayload [0xa3, 0xa0, 0x11, 0xa0, 0x10] true 0 100) [0xa3, 0xa0, 0x11, 0xa0] [0x10]
      layeredFields.header := by
  have bytes : layeredFields.descriptor.bytes = [0xa3, 0xa0, 0x11, 0xa0] := by decide
  rw [← bytes]
  exact (accepts_descriptors (.ofPayload [0xa3, 0xa0, 0x11, 0xa0, 0x10] true 0 100)
    (by simp)).2.2.2.1 layeredFields [0x10] (by simp) (by rw [ParseCall.payload_ofPayload]; decide)

end RtpDepacketizerVp8

end RtpPlayer
