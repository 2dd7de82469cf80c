import Mathlib.Algebra.GroupWithZero.Nat
import RtpPlayer.MediaCodec.AvcPackaging
import RtpPlayer.MediaCodec.Vp8Partitions

/-! # The room of a frame

A frame has room for `width * height * 3/2` bytes of bitstream and for the units it was asked for.
The units always fit.  Nothing compares the bytes with the room there is. -/

namespace RtpPlayer

open Foundations

namespace EncoderFrames

open VideoEnc (Config)

/-- As long as the sizes stay below what an `int` holds, the room is what it is meant to be. -/
theorem room_bytes (config : Config) (numUnits : Nat) (width : 0 ≤ config.width.toInt)
    (height : 0 ≤ config.height.toInt)
    (small : config.width.toInt * config.height.toInt * 3 < 2 ^ 31) :
    ((room config numUnits).bytes : Int) =
      config.width.toInt * config.height.toInt * 3 / 2 := by
  have area : 0 ≤ config.width.toInt * config.height.toInt := Int.mul_nonneg width height
  have pixels : (config.width * config.height).toInt =
      config.width.toInt * config.height.toInt := by
    rw [Int32.toInt_mul]
    exact Int.bmod_eq_of_le (by omega) (by omega)
  have samples : (config.width * config.height * 3).toInt =
      config.width.toInt * config.height.toInt * 3 := by
    rw [Int32.toInt_mul, pixels]
    exact Int.bmod_eq_of_le (by show _ ≤ _ * 3; omega) (by show _ * 3 < _; omega)
  have size : (bitstreamSize config).toInt =
      config.width.toInt * config.height.toInt * 3 / 2 := by
    rw [bitstreamSize, Int32.toInt_div_of_ne_right _ _ (by decide), samples]
    exact Int.tdiv_eq_ediv_of_nonneg (by omega)
  show ((bitstreamSize config).toInt.toNat : Int) = _
  rw [size]
  omega

/-- All that is written lies in the room of the frame, and what needs more is an error. -/
structure FitsRoom (room : Room) (needed : Nat) (outcome : Outcome) : Prop where
  within : ∀ event ∈ outcome.trace, event.Within room
  reported : room.bytes < needed → outcome.result = some (-1)

/-- Only what fits can be within, so that is the whole condition. -/
theorem fitsRoom_iff {room : Room} {needed : Nat} {outcome : Outcome}
    (exact : (∀ event ∈ outcome.trace, event.Within room) ↔ needed ≤ room.bytes) :
    FitsRoom room needed outcome ↔ needed ≤ room.bytes := by
  constructor
  · exact fun fits => exact.mp fits.within
  · intro fits
    refine ⟨exact.mpr fits, ?_⟩
    intro short
    omega

/-! ## The bytes that are copied -/

/-- What was copied of the bitstream is what `len` says. -/
structure Output.Copied (output : Output) : Prop where
  below : ∀ offset length, .copy offset length ∈ output.trace → offset + length ≤ output.frame.len
  reached : output.frame.len = 0 ∨
    ∃ offset length, .copy offset length ∈ output.trace ∧ offset + length = output.frame.len

namespace Output.Copied

variable {output : Output}

/-- Events that copy nothing, of a frame whose `len` stays. -/
theorem append (copied : output.Copied) {next : Output} {more : List FrameEvent}
    (grown : next.trace = output.trace ++ more)
    (copies : ∀ offset length, .copy offset length ∉ more)
    (same : next.frame.len = output.frame.len) : next.Copied where
  below := by
    intro offset length member
    rw [grown, List.mem_append, or_iff_left (copies offset length)] at member
    rw [same]
    exact copied.below offset length member
  reached := by
    rw [same, grown]
    refine copied.reached.imp_right ?_
    intro ⟨offset, length, member, last⟩
    exact ⟨offset, length, List.mem_append_left _ member, last⟩

theorem setStartCodeLen (copied : output.Copied) (startCodeLen : Nat) :
    (output.setStartCodeLen startCodeLen).Copied :=
  copied.append rfl (by simp) rfl

theorem addUnit (copied : output.Copied) (droppable : Bool) (bytes : List UInt8) :
    (output.addUnit droppable bytes).Copied where
  below := by
    intro offset length member
    rw [Output.addUnit_trace] at member
    rw [Output.addUnit_len]
    cases List.mem_append.mp member with
    | inl before =>
      have below := copied.below offset length before
      omega
    | inr now =>
      simp only [List.mem_cons, FrameEvent.copy.injEq, reduceCtorEq, List.not_mem_nil, or_false,
        false_or] at now
      omega
  reached := by
    right
    refine ⟨output.frame.len, bytes.length, ?_, rfl⟩
    rw [Output.addUnit_trace]
    simp

end Output.Copied

/-- The records written are records there is room for. -/
def Output.UnitsWithin (room : Room) (output : Output) : Prop :=
  ∀ index : Int, .unit index ∈ output.trace → 0 ≤ index ∧ index < room.units

namespace Output.UnitsWithin

variable {room : Room} {output : Output}

theorem append (within : output.UnitsWithin room) {next : Output} {more : List FrameEvent}
    (grown : next.trace = output.trace ++ more) (inside : 0 ≤ output.frame.numUnits)
    (space : output.frame.numUnits < room.units)
    (here : ∀ index, .unit index ∈ more → index = output.frame.numUnits) :
    next.UnitsWithin room := by
  intro index member
  rw [grown, List.mem_append] at member
  cases member with
  | inl before => exact within index before
  | inr now =>
    rw [here index now]
    exact ⟨inside, space⟩

end Output.UnitsWithin

theorem within_append {room : Room} {trace more : List FrameEvent}
    (free : ∀ event ∈ more, event.Within room) :
    (∀ event ∈ trace ++ more, event.Within room) ↔ ∀ event ∈ trace, event.Within room := by
  rw [List.forall_mem_append, and_iff_left free]

/-- Where the units are within the room, the bitstream is what can exceed it. -/
theorem within_iff {output : Output} {room : Room} (copied : output.Copied)
    (units : output.UnitsWithin room) :
    (∀ event ∈ output.trace, event.Within room) ↔ output.frame.len ≤ room.bytes := by
  constructor
  · intro within
    cases copied.reached with
    | inl none => omega
    | inr some =>
      obtain ⟨offset, length, member, last⟩ := some
      have inside : offset + length ≤ room.bytes := within _ member
      omega
  · intro fits event member
    cases event with
    | header | deliver => trivial
    | unit index => exact units index member
    | copy offset length =>
      have below := copied.below offset length member
      show offset + length ≤ room.bytes
      omega

/-! ## The AVC encoder -/

section Avc

variable {room : Room} {output : Output}

theorem pack_trace (nalu : X264Nal) (startCodeLen : Nat) (droppable : Bool) :
    (output.pack nalu startCodeLen droppable).trace = output.trace ++
      [.unit output.frame.numUnits, .unit output.frame.numUnits, .unit output.frame.numUnits,
        .header, .copy output.frame.len nalu.bytes.length, .header] := by
  rw [Output.pack, Output.addUnit_trace]
  simp [Output.setStartCodeLen, Output.setNextUnit]

/-- There is room for `left` more units. -/
structure Output.HasRoom (room : Room) (left : Nat) (output : Output) : Prop where
  copied : output.Copied
  units : output.UnitsWithin room
  inside : 0 ≤ output.frame.numUnits
  space : output.frame.numUnits + left ≤ room.units

namespace Output.HasRoom

variable {left : Nat}

theorem less (hasRoom : output.HasRoom room (left + 1)) : output.HasRoom room left where
  copied := hasRoom.copied
  units := hasRoom.units
  inside := hasRoom.inside
  space := by
    have space := hasRoom.space
    omega

theorem setStartCodeLen (hasRoom : output.HasRoom room (left + 1)) (startCodeLen : Nat) :
    (output.setStartCodeLen startCodeLen).HasRoom room (left + 1) where
  copied := hasRoom.copied.setStartCodeLen startCodeLen
  units := by
    have space := hasRoom.space
    exact hasRoom.units.append rfl hasRoom.inside (by omega) (by simp)
  inside := hasRoom.inside
  space := hasRoom.space

theorem pack (hasRoom : output.HasRoom room (left + 1)) (nalu : X264Nal) (startCodeLen : Nat)
    (droppable : Bool) : (output.pack nalu startCodeLen droppable).HasRoom room left where
  copied := ((hasRoom.copied.setStartCodeLen 0).setStartCodeLen startCodeLen).addUnit _ _
  units := by
    have space := hasRoom.space
    exact hasRoom.units.append (pack_trace ..) hasRoom.inside (by omega) (by simp)
  inside := by
    have inside := hasRoom.inside
    rw [Output.pack_numUnits]
    omega
  space := by
    have space := hasRoom.space
    rw [Output.pack_numUnits]
    omega

end Output.HasRoom

/-- The loop writes to records it has room for, and to as much of the bitstream as it packs. -/
theorem execute_packNalu_bounds {readable : Nat → Bool} (nalus : List X264Nal)
    {packing : Packing} (hasRoom : packing.output.HasRoom room nalus.length) :
    (Script.execute (packNalu readable) nalus packing).output.HasRoom room 0 ∧
      (Script.execute (packNalu readable) nalus packing).output.frame.len ≤
        packing.output.frame.len +
          (bytesOf (packedUnits packing.startCodeLen nalus)).length := by
  -- a skipped NAL unit gives its record up to the next
  induction nalus generalizing packing with
  | nil => exact ⟨hasRoom, Nat.le_add_right ..⟩
  | cons nalu nalus ih =>
    by_cases without : nalu.startCodeLen packing.startCodeLen = 0
    · rw [Script.execute_cons_ok _ (packNalu_skips without), packedUnits, if_pos without, without]
      exact @ih { packing with output := packing.output.setStartCodeLen 0, startCodeLen := 0 }
        (hasRoom.setStartCodeLen 0).less
    · rw [packedUnits, if_neg without, bytesOf_cons, List.length_append, ← Nat.add_assoc]
      cases @packNalu_cases readable _ _ without with
      | inl packs =>
        obtain ⟨next, droppable, packs, length, packed⟩ := packs
        have len : next.output.frame.len = packing.output.frame.len + nalu.bytes.length := by
          rw [packed]
          rfl
        rw [Script.execute_cons_ok _ packs, ← length, ← len]
        apply ih
        rw [packed]
        exact hasRoom.pack ..
      | inr crashes =>
        obtain ⟨final, crashes, output⟩ := crashes
        rw [Script.execute_cons_error _ crashes, output]
        have hasRoom' := (hasRoom.setStartCodeLen 0).setStartCodeLen
          (nalu.startCodeLen packing.startCodeLen)
        -- the crash comes before anything of the unit is copied
        have same : ((packing.output.setStartCodeLen 0).setStartCodeLen
            (nalu.startCodeLen packing.startCodeLen)).frame.len = packing.output.frame.len := rfl
        exact ⟨⟨hasRoom'.copied, hasRoom'.units, hasRoom'.inside, by
          have space := hasRoom'.space
          omega⟩, by omega⟩

/-- The bytes from the first start code on. -/
def codedSize (nalus : List X264Nal) : Nat :=
  ((fromFirstStartCode nalus).map X264Nal.length).sum

theorem bytesOf_packedUnits_length (nalus : List X264Nal) :
    (bytesOf (packedUnits 0 nalus)).length = codedSize nalus := by
  have lengths : ∀ units : List PackedUnit,
      (bytesOf units).length = ((units.map PackedUnit.nalu).map X264Nal.length).sum := by
    intro units
    induction units with
    | nil => rfl
    | cons unit units ih => simp [ih]
  rw [lengths, packedUnits_nalus, codedSize]

theorem finishFrame_within_iff (cbOut : Bool) (packing : Packing) :
    (∀ event ∈ (finishFrame cbOut packing).trace, event.Within room) ↔
      ∀ event ∈ packing.output.trace, event.Within room := by
  have header : ∀ event ∈ [FrameEvent.header], event.Within room := by simp [FrameEvent.Within]
  have deliver : ∀ event ∈ [FrameEvent.deliver], event.Within room := by simp [FrameEvent.Within]
  rw [finishFrame]
  split
  next => rfl
  next =>
    cases cbOut with
    | false => exact within_append header
    | true => exact (within_append deliver).trans (within_append header)

theorem readable_of_forall {block : Block} (mapped : ∀ address, block.readable address = true)
    (units : List PackedUnit) : block.Readable units := by
  induction units generalizing block with
  | nil => trivial
  | cons unit units ih => exact ⟨mapped _, ih mapped⟩

end Avc

/-- The loop of the call. -/
def EncodedCall.packNalus {config : Config} (call : EncodedCall config) (block : Block) :
    Packing :=
  EncoderFrames.packNalus block
    (startFrame block call.prop call.opaqueData call.picture) call.nalus

theorem EncodedCall.packNalus_bounds {config : Config} (call : EncodedCall config)
    (block : Block) :
    (call.packNalus block).output.HasRoom call.room 0 ∧
      (call.packNalus block).output.frame.len ≤ codedSize call.nalus := by
  have start : (startFrame block call.prop call.opaqueData call.picture).HasRoom call.room
      call.nalus.length := by
    have trace : (startFrame block call.prop call.opaqueData call.picture).trace =
        [.header, .header] := rfl
    constructor
    case copied => exact ⟨by simp [trace], Or.inl rfl⟩
    case units => simp [Output.UnitsWithin, trace]
    case inside => exact Int.le_refl _
    case space => exact Int.le_of_eq (Int.zero_add _)
  have bounds := @execute_packNalu_bounds call.room block.readable call.nalus (startPacking _) start
  have size : (startPacking (startFrame block call.prop call.opaqueData
      call.picture)).output.frame.len + (bytesOf (packedUnits 0 call.nalus)).length =
      codedSize call.nalus := by
    rw [bytesOf_packedUnits_length]
    exact Nat.zero_add _
  exact ⟨bounds.1, bounds.2.trans (Nat.le_of_eq size)⟩

theorem EncodedCall.fits_iff {config : Config} (call : EncodedCall config) (cbOut : Bool) :
    (∀ block, FitsRoom call.room (codedSize call.nalus) (call.outcome cbOut block)) ↔
      codedSize call.nalus ≤ call.room.bytes := by
  by_cases empty : call.nalus = []
  · apply iff_of_true
    · intro block
      rw [call.outcome_nil empty, empty]
      constructor <;> simp [codedSize, fromFirstStartCode]
    · rw [empty]
      exact Nat.zero_le _
  · have bounds := call.packNalus_bounds
    have exact : ∀ block,
        (∀ event ∈ (call.outcome cbOut block).trace, event.Within call.room) ↔
          (call.packNalus block).output.frame.len ≤ call.room.bytes := by
      intro block
      rw [call.outcome_of_ne_nil empty, finishFrame_within_iff]
      exact within_iff (bounds block).1.copied (bounds block).1.units
    constructor
    · intro fits
      -- with every record pointing to what can be read, everything is packed
      have packed := packNalus_packed call.prop call.opaqueData call.picture
        (@readable_of_forall (readableBlock 0) (fun _ => rfl) (packedUnits 0 call.nalus))
      have len : (call.packNalus (readableBlock 0)).output.frame.len = codedSize call.nalus := by
        rw [EncodedCall.packNalus, packed.frame, bytesOf_packedUnits_length]
        exact Nat.zero_add _
      rw [← len]
      exact (exact _).mp (fits _).within
    · intro fits block
      have within := (exact block).mpr ((bounds block).2.trans fits)
      refine ⟨within, ?_⟩
      intro short
      omega

/-! ## The VP8 encoder -/

/-- The packets of at most one picture: whatever comes before another partition is a fragment. -/
structure PicturePackets where
  packets : List CxPkt
  single : ∀ partition ∈ (partitionsOf packets).dropLast, partition.isFragment = true

/-- The partitions from `next` on, up to the first out of order. -/
def inOrder : Nat → List CxPartition → List CxPartition
  | _, [] => []
  | next, partition :: later =>
    if next < vpxEncPartitions ∧ partition.partitionId = next then
      partition :: inOrder (next + 1) later
    else []

/-- The bytes of the partitions that are in order. -/
def partitionsSize (next : Nat) (partitions : List CxPartition) : Nat :=
  ((inOrder next partitions).map fun partition => partition.buf.length).sum

theorem partitionsSize_cons {next : Nat} {partition : CxPartition}
    (checked : next < vpxEncPartitions ∧ partition.partitionId = next)
    (later : List CxPartition) :
    partitionsSize next (partition :: later) =
      partition.buf.length + partitionsSize (next + 1) later := by
  rw [partitionsSize, inOrder, if_pos checked, List.map_cons, List.sum_cons]
  rfl

theorem partitionsSize_cons_of_not {next : Nat} {partition : CxPartition}
    (rejected : ¬ (next < vpxEncPartitions ∧ partition.partitionId = next))
    (later : List CxPartition) : partitionsSize next (partition :: later) = 0 := by
  rw [partitionsSize, inOrder, if_neg rejected]
  rfl

/-- All but the last of a list and one before it. -/
theorem forall_mem_dropLast_cons {α : Type} {property : α → Prop} {first : α} {later : List α}
    (all : ∀ element ∈ (first :: later).dropLast, property element) :
    (later ≠ [] → property first) ∧ ∀ element ∈ later.dropLast, property element := by
  cases later with
  | nil => simp
  | cons second later =>
    rw [List.dropLast_cons_cons, List.forall_mem_cons] at all
    exact ⟨fun _ => all.1, all.2⟩

section Vp8

open Receiving

variable {cbOut : Option Callback} {picture : PictureArgs} {receiving : Receiving} {room : Room}

theorem deliver_within_iff :
    (∀ event ∈ (deliver cbOut receiving).output.trace, event.Within room) ↔
      ∀ event ∈ receiving.output.trace, event.Within room := by
  have free : ∀ event ∈ [FrameEvent.deliver], event.Within room := by simp [FrameEvent.Within]
  cases cbOut with
  | none => rfl
  | some callback =>
    cases got : receiving.gotPic with
    | false => rw [deliver_of_idle got]
    | true =>
      rw [deliver_of_gotPic got]
      exact within_append free

/-- Without partitions nothing is written. -/
theorem execute_within_of_no_partition (packets : List CxPkt) (none : partitionsOf packets = []) :
    (∀ event ∈ (Script.execute (receivePacket cbOut picture) packets
        receiving).output.trace, event.Within room) ↔
      ∀ event ∈ receiving.output.trace, event.Within room := by
  induction packets generalizing receiving with
  | nil => rfl
  | cons packet packets ih =>
    cases packet with
    | frame partition => cases none
    | psnr =>
      rw [Script.execute_cons_ok packets (rfl : receivePacket cbOut picture .psnr receiving =
        .ok (deliver cbOut receiving)), ih none, deliver_within_iff]
    | other =>
      rw [Script.execute_cons_ok packets (rfl : receivePacket cbOut picture .other receiving =
        .ok (deliver cbOut receiving)), ih none, deliver_within_iff]

theorem copied_addPartition (copied : receiving.output.Copied) (partition : CxPartition) :
    (receiving.addPartition partition).output.Copied :=
  (copied.setStartCodeLen 0).addUnit _ _

theorem execute_within_iff (packets : List CxPkt)
    (single : ∀ partition ∈ (partitionsOf packets).dropLast, partition.isFragment = true)
    (copied : receiving.output.Copied) (units : receiving.output.UnitsWithin room)
    (space : room.units = vpxEncPartitions) (idle : receiving.gotPic = false) {next : Nat}
    (count : receiving.output.frame.numUnits = next) :
    (∀ event ∈ (Script.execute (receivePacket cbOut picture) packets
        receiving).output.trace, event.Within room) ↔
      receiving.output.frame.len + partitionsSize next (partitionsOf packets) ≤ room.bytes := by
  -- `len` is what was copied so far, the rest is still to come
  induction packets generalizing receiving next with
  | nil => exact within_iff copied units
  | cons packet packets ih =>
    cases packet with
    | frame partition =>
      rw [partitionsOf_frame] at single ⊢
      obtain ⟨onlyLast, single'⟩ := forall_mem_dropLast_cons single
      by_cases takes : receiving.Takes partition
      · have copied' := copied_addPartition copied partition
        have units' : (receiving.addPartition partition).output.UnitsWithin room :=
          units.append (receiving.addPartition_trace partition) (by omega)
            (by rw [space]; exact takes.1) (by simp)
        rw [Script.execute_cons_ok _ (receivePacket_of_takes takes),
          partitionsSize_cons ((takes_iff count partition).mp takes), ← Nat.add_assoc]
        by_cases fragment : partition.isFragment = true
        · have kept : (receiving.addPartition partition).gotPic = false := idle
          rw [take_of_fragment fragment, deliver_of_idle kept]
          exact ih single' copied' units' kept (addPartition_count count partition)
        · -- with one picture nothing follows the end of a frame
          have none : partitionsOf packets = [] := by
            by_contra some
            exact fragment (onlyLast some)
          have header : ∀ event ∈ [FrameEvent.header], event.Within room := by
            simp [FrameEvent.Within]
          rw [take_of_last fragment, execute_within_of_no_partition packets none,
            deliver_within_iff, endOfFrame_trace, within_append header,
            within_iff copied' units', none]
          rfl
      · have rejected := mt (takes_iff count partition).mpr takes
        rw [Script.execute_cons_error _ (receivePacket_of_not_takes takes),
          partitionsSize_cons_of_not rejected, Nat.add_zero]
        exact within_iff copied units
    | psnr =>
      rw [execute_psnr idle]
      exact ih single copied units idle count
    | other =>
      rw [execute_other idle]
      exact ih single copied units idle count

end Vp8

theorem PicturePackets.fits_iff (config : Config) (cbOut : Option Callback)
    (picture : PictureArgs) (packets : PicturePackets) (ctx : Vp8EncContext) (block : Block) :
    FitsRoom (room config vpxEncPartitions) (partitionsSize 0 (partitionsOf packets.packets))
        (getPartitions config cbOut (fun _ => some block) picture packets.packets ctx).2 ↔
      partitionsSize 0 (partitionsOf packets.packets) ≤ (room config vpxEncPartitions).bytes := by
  have start : (startReceiving ctx block).output.trace = [.header, .header] := rfl
  have copied : (startReceiving ctx block).output.Copied := ⟨by simp [start], Or.inl rfl⟩
  have units : (startReceiving ctx block).output.UnitsWithin (room config vpxEncPartitions) := by
    simp [Output.UnitsWithin, start]
  apply fitsRoom_iff
  have within := @execute_within_iff cbOut picture _ _ packets.packets packets.single copied units
    rfl rfl 0 rfl
  exact within.trans (by rw [show (startReceiving ctx block).output.frame.len = 0 from rfl,
    Nat.zero_add])

/-- What is copied stays in the room of the frame exactly where it is no more than fits: of the AVC
encoder the NAL units from the first start code on, of the VP8 encoder the partitions that come in
order.  No block of memory and no callback makes a difference, and as long as the sizes of the
picture stay below what an `int` holds there is room for `width * height * 3/2` bytes. -/
theorem encoders_fit_iff (config : Config) (call : EncodedCall config) (cbOut : Option Callback)
    (picture : PictureArgs) (packets : PicturePackets) (ctx : Vp8EncContext) :
    ((∀ block, FitsRoom (room config call.nalus.length) (codedSize call.nalus)
        (call.outcome cbOut.isSome block)) ↔
      codedSize call.nalus ≤ (room config call.nalus.length).bytes) ∧
    (∀ block, FitsRoom (room config vpxEncPartitions)
        (partitionsSize 0 (partitionsOf packets.packets))
        (getPartitions config cbOut (fun _ => some block) picture packets.packets ctx).2 ↔
      partitionsSize 0 (partitionsOf packets.packets) ≤ (room config vpxEncPartitions).bytes) ∧
    ∀ numUnits, 0 ≤ config.width.toInt → 0 ≤ config.height.toInt →
      config.width.toInt * config.height.toInt * 3 < 2 ^ 31 →
      ((room config numUnits).bytes : Int) = config.width.toInt * config.height.toInt * 3 / 2 :=
  ⟨call.fits_iff cbOut.isSome, packets.fits_iff config cbOut picture ctx, room_bytes config⟩

/-- An intra slice of 500 bytes for a picture that has room for 384. -/
def largeSlice : X264Nal := ⟨Memory.ofList [0, 0, 0, 1, 0x65, 0x88] fun _ => 0xAB, 500⟩

def largePartition : CxPartition where
  buf := List.replicate 500 0xAB
  flags := vpxFrameIsKey
  partitionId := 0

def largePicture : PicturePackets := ⟨[.frame largePartition], by simp⟩

theorem large_pictures_do_not_fit :
    (¬ ∀ block, FitsRoom (smallCall [largeSlice]).room (codedSize [largeSlice])
        ((smallCall [largeSlice]).outcome false block)) ∧
      ∀ block, ¬ FitsRoom (room ⟨16, 16, 30, 1, 1, 1⟩ vpxEncPartitions)
        (partitionsSize 0 (partitionsOf largePicture.packets))
        (getPartitions ⟨16, 16, 30, 1, 1, 1⟩ none (fun _ => some block) ⟨0, ⟨0, 0, 0⟩, 0⟩
          largePicture.packets (vp8EncInit ⟨16, 16, 1⟩)).2 := by
  constructor
  · intro fits
    have short : 500 ≤ (smallCall [largeSlice]).room.bytes :=
      ((smallCall [largeSlice]).fits_iff false).mp fits
    exact absurd short (by decide)
  · intro block
    have size : partitionsSize 0 (partitionsOf largePicture.packets) = 500 := by
      show ((inOrder 0 [largePartition]).map fun partition => partition.buf.length).sum = 500
      rw [inOrder, if_pos ⟨by decide, rfl⟩, inOrder, List.map_singleton, List.sum_singleton]
      exact List.length_replicate
    rw [largePicture.fits_iff, size]
    decide

end EncoderFrames

end RtpPlayer
