import Mathlib.Data.List.TakeWhile
import RtpPlayer.MediaCodec.AvcEnc

/-! # The loop of the AVC encoder

What the loop of `avc_enc_encode` makes of a list of NAL units, in a block that may hold anything:
`nal_ref_idc` is read through the `data` of a record that is not yet set, and `flags` is or-ed to
whatever is there.  A NAL unit without a start code is skipped only as long as none before it had
one. -/

namespace RtpPlayer

open Foundations

namespace EncoderFrames

open VideoEnc (Config Surface)

/-! ## What the loop makes of the NAL units -/

/-- A NAL unit that is packed, with the start code length it gets. -/
structure PackedUnit where
  nalu : X264Nal
  startCodeLen : Nat

def bytesOf (units : List PackedUnit) : List UInt8 := units.flatMap fun unit => unit.nalu.bytes

@[simp] theorem bytesOf_nil : bytesOf [] = [] := rfl

@[simp] theorem bytesOf_cons (unit : PackedUnit) (units : List PackedUnit) :
    bytesOf (unit :: units) = unit.nalu.bytes ++ bytesOf units := List.flatMap_cons

/-- The NAL units the loop packs, where `previous` is the start code length before them. -/
def packedUnits : Nat → List X264Nal → List PackedUnit
  | _, [] => []
  | previous, nalu :: nalus =>
    let startCodeLen := nalu.startCodeLen previous
    if startCodeLen = 0 then packedUnits startCodeLen nalus
    else ⟨nalu, startCodeLen⟩ :: packedUnits startCodeLen nalus

namespace Block

/-- The block as it looks to the unit behind `nalu`. -/
def next (block : Block) (nalu : X264Nal) : Block :=
  { block with
    units := fun index => block.units (index + 1)
    data := block.data + nalu.length
    memory := block.memory.write block.data nalu.bytes }

/-- Where `nal_ref_idc` of the first unit is read. -/
def staleAddress (block : Block) (startCodeLen : Nat) : Nat := (block.units 0).data + startCodeLen

/-- The `nal_ref_idc` that is read for the first unit. -/
def staleRefIdc (block : Block) (startCodeLen : Nat) : UInt8 :=
  block.memory (block.staleAddress startCodeLen) &&& 0x60

/-- The flags the first unit gets. -/
def staleFlags (block : Block) (startCodeLen : Nat) : UInt32 :=
  (block.units 0).flags ||| (if block.staleRefIdc startCodeLen = 0 then vidEncUnitDroppable else 0)

/-- Every `nal_ref_idc` can be read. -/
def Readable : Block → List PackedUnit → Prop
  | _, [] => True
  | block, unit :: units =>
    block.readable (block.staleAddress unit.startCodeLen) = true ∧
      Readable (block.next unit.nalu) units

/-- Every `nal_ref_idc` that is read. -/
def staleRefIdcs : Block → List PackedUnit → List UInt8
  | _, [] => []
  | block, unit :: units =>
    block.staleRefIdc unit.startCodeLen :: staleRefIdcs (block.next unit.nalu) units

/-- The records of the units. -/
def records : Block → List PackedUnit → List DataUnit
  | _, [] => []
  | block, unit :: units =>
    { data := block.data
      len := unit.nalu.length
      startCodeLen := unit.startCodeLen
      reserved := 0
      flags := block.staleFlags unit.startCodeLen } :: records (block.next unit.nalu) units

end Block

/-- What the loop still finds of the block before a NAL unit.  `start_code_len` is left out: it is
set before anything is packed. -/
structure Output.Finds (output : Output) (block : Block) : Prop where
  data : ∀ index : Nat,
    (output.frame.units (output.frame.numUnits + index)).data = (block.units index).data
  flags : ∀ index : Nat,
    (output.frame.units (output.frame.numUnits + index)).flags = (block.units index).flags
  bitstream : output.frame.data + output.frame.len = block.data
  memory : output.memory = block.memory

namespace Output.Finds

variable {output : Output} {block : Block}

theorem nextUnit_data (finds : output.Finds block) :
    output.nextUnit.data = (block.units 0).data := by
  simpa [nextUnit] using finds.data 0

theorem nextUnit_flags (finds : output.Finds block) :
    output.nextUnit.flags = (block.units 0).flags := by
  simpa [nextUnit] using finds.flags 0

theorem setStartCodeLen (finds : output.Finds block) (startCodeLen : Nat) :
    (output.setStartCodeLen startCodeLen).Finds block where
  data := fun index => (output.setStartCodeLen_units_data ..).trans (finds.data index)
  flags := fun index => (output.setStartCodeLen_units_flags ..).trans (finds.flags index)
  bitstream := finds.bitstream
  memory := finds.memory

/-- Past the record of the unit that is added, the block is as before. -/
theorem addUnit (finds : output.Finds block) (droppable : Bool) (nalu : X264Nal) :
    (output.addUnit droppable nalu.bytes).Finds (block.next nalu) where
  data := by
    intro index
    rw [Output.addUnit_units_of_ne _ _ _ (by simp; omega), Output.addUnit_numUnits,
      Int.add_right_comm, Int.add_assoc]
    exact finds.data (index + 1)
  flags := by
    intro index
    rw [Output.addUnit_units_of_ne _ _ _ (by simp; omega), Output.addUnit_numUnits,
      Int.add_right_comm, Int.add_assoc]
    exact finds.flags (index + 1)
  bitstream := by
    have bitstream := finds.bitstream
    simp only [Output.addUnit_data, Output.addUnit_len, X264Nal.bytes_length, Block.next]
    omega
  memory := by
    rw [Output.addUnit_memory, finds.bitstream, finds.memory]
    rfl

end Output.Finds

/-! ## The loop -/

/-- The frame after a NAL unit is packed. -/
def Output.pack (output : Output) (nalu : X264Nal) (startCodeLen : Nat) (droppable : Bool) :
    Output :=
  ((output.setStartCodeLen 0).setStartCodeLen startCodeLen).addUnit droppable nalu.bytes

section Pack

variable (output : Output) (nalu : X264Nal) (startCodeLen : Nat) (droppable : Bool)

@[simp] theorem Output.pack_numUnits :
    (output.pack nalu startCodeLen droppable).frame.numUnits = output.frame.numUnits + 1 := rfl

theorem Output.pack_units_of_ne {index : Int} (other : index ≠ output.frame.numUnits) :
    (output.pack nalu startCodeLen droppable).frame.units index = output.frame.units index := by
  calc (output.pack nalu startCodeLen droppable).frame.units index
      = ((output.setStartCodeLen 0).setStartCodeLen startCodeLen).frame.units index :=
        Output.addUnit_units_of_ne _ _ _ other
    _ = (output.setStartCodeLen 0).frame.units index := Output.setStartCodeLen_units_of_ne _ _ other
    _ = output.frame.units index := Output.setStartCodeLen_units_of_ne _ _ other

theorem Output.pack_units_self :
    (output.pack nalu startCodeLen droppable).frame.units output.frame.numUnits = {
      data := output.frame.data + output.frame.len
      len := nalu.length
      startCodeLen := startCodeLen
      reserved := 0
      flags := output.nextUnit.flags ||| (if droppable then vidEncUnitDroppable else 0) } := by
  have cleared : ((output.setStartCodeLen 0).setStartCodeLen startCodeLen).nextUnit =
      { output.nextUnit with startCodeLen := startCodeLen } := by
    calc ((output.setStartCodeLen 0).setStartCodeLen startCodeLen).nextUnit
        = { (output.setStartCodeLen 0).nextUnit with startCodeLen := startCodeLen } :=
          (output.setStartCodeLen 0).setStartCodeLen_units_self startCodeLen
      _ = { output.nextUnit with startCodeLen := startCodeLen } := by
        rw [show (output.setStartCodeLen 0).nextUnit = { output.nextUnit with startCodeLen := 0 }
          from output.setStartCodeLen_units_self 0]
  refine (Output.addUnit_units_self ..).trans ?_
  rw [cleared, X264Nal.bytes_length]
  rfl

end Pack

theorem Output.Finds.pack {output : Output} {block : Block} (finds : output.Finds block)
    (nalu : X264Nal) (startCodeLen : Nat) (droppable : Bool) :
    (output.pack nalu startCodeLen droppable).Finds (block.next nalu) :=
  ((finds.setStartCodeLen 0).setStartCodeLen startCodeLen).addUnit droppable nalu

section Steps

variable {readable : Nat → Bool} {nalu : X264Nal} {packing : Packing} {block : Block}

theorem packNalu_skips (without : nalu.startCodeLen packing.startCodeLen = 0) :
    packNalu readable nalu packing =
      .ok { packing with output := packing.output.setStartCodeLen 0, startCodeLen := 0 } := by
  rw [packNalu, if_pos without, without]

/-- Whatever is read, the unit is packed unless the process is gone before. -/
theorem packNalu_cases (starts : nalu.startCodeLen packing.startCodeLen ≠ 0) :
    (∃ next droppable, packNalu readable nalu packing = .ok next ∧
        next.startCodeLen = nalu.startCodeLen packing.startCodeLen ∧
        next.output =
          packing.output.pack nalu (nalu.startCodeLen packing.startCodeLen) droppable) ∨
      ∃ final, packNalu readable nalu packing = .error final ∧
        final.output = (packing.output.setStartCodeLen 0).setStartCodeLen
          (nalu.startCodeLen packing.startCodeLen) := by
  by_cases mapped : readable (((packing.output.setStartCodeLen 0).setStartCodeLen
      (nalu.startCodeLen packing.startCodeLen)).nextUnit.data +
        nalu.startCodeLen packing.startCodeLen) = true
  · exact Or.inl ⟨_, _, (if_neg starts).trans (if_pos mapped), rfl, rfl⟩
  · exact Or.inr ⟨_, (if_neg starts).trans (if_neg mapped), rfl⟩

theorem packNalu_packs (starts : nalu.startCodeLen packing.startCodeLen ≠ 0)
    (finds : packing.output.Finds block)
    (mapped : block.readable (block.staleAddress (nalu.startCodeLen packing.startCodeLen)) = true) :
    packNalu block.readable nalu packing =
      .ok {
        output := packing.output.pack nalu (nalu.startCodeLen packing.startCodeLen)
          (block.staleRefIdc (nalu.startCodeLen packing.startCodeLen) = 0)
        startCodeLen := nalu.startCodeLen packing.startCodeLen
        droppable := packing.droppable &&
          block.staleRefIdc (nalu.startCodeLen packing.startCodeLen) = 0
        crashed := false } := by
  have finds' := (finds.setStartCodeLen 0).setStartCodeLen (nalu.startCodeLen packing.startCodeLen)
  rw [packNalu, if_neg starts]
  simp only [finds'.nextUnit_data, finds'.memory]
  rw [← Block.staleAddress, if_pos mapped]
  -- `droppable` is only ever cleared
  have stays : (if packing.droppable = true ∧
        block.staleRefIdc (nalu.startCodeLen packing.startCodeLen) ≠ 0 then false
      else packing.droppable) =
      (packing.droppable && block.staleRefIdc (nalu.startCodeLen packing.startCodeLen) = 0) := by
    cases packing.droppable <;> simp
  rw [← stays]
  rfl

theorem packNalu_crashes (starts : nalu.startCodeLen packing.startCodeLen ≠ 0)
    (finds : packing.output.Finds block)
    (unmapped :
      block.readable (block.staleAddress (nalu.startCodeLen packing.startCodeLen)) ≠ true) :
    ∃ final, packNalu block.readable nalu packing = .error final ∧ final.crashed = true := by
  have finds' := (finds.setStartCodeLen 0).setStartCodeLen (nalu.startCodeLen packing.startCodeLen)
  rw [packNalu, if_neg starts]
  simp only [finds'.nextUnit_data]
  rw [← Block.staleAddress, if_neg unmapped]
  exact ⟨_, rfl, rfl⟩

end Steps

/-- How the loop leaves its variables that has packed `units` without a crash. -/
structure Packed (block : Block) (units : List PackedUnit) (packing final : Packing) : Prop where
  crashed : final.crashed = false
  frame : final.output.frame = { packing.output.frame with
    numUnits := packing.output.frame.numUnits + units.length
    units := final.output.frame.units
    len := packing.output.frame.len + (bytesOf units).length }
  memory : final.output.memory = block.memory.write block.data (bytesOf units)
  records : ∀ (index : Nat) record, (block.records units)[index]? = some record →
    final.output.frame.units (packing.output.frame.numUnits + index) = record
  kept : ∀ index < packing.output.frame.numUnits,
    final.output.frame.units index = packing.output.frame.units index
  droppable : final.droppable =
    (packing.droppable && (block.staleRefIdcs units).all fun refIdc => refIdc = 0)

namespace Packed

variable {block : Block} {units : List PackedUnit} {packing final : Packing}

theorem nil (finds : packing.output.Finds block) (running : packing.crashed = false) :
    Packed block [] packing packing where
  crashed := running
  frame := by simp [bytesOf]
  memory := by simp [bytesOf, finds.memory]
  records := by simp [Block.records]
  kept := by simp
  droppable := by simp [Block.staleRefIdcs]

theorem skip (packed : Packed block units
      { packing with output := packing.output.setStartCodeLen 0, startCodeLen := 0 } final) :
    Packed block units packing final where
  crashed := packed.crashed
  frame := packed.frame
  memory := packed.memory
  records := packed.records
  kept := by
    intro index before
    rw [packed.kept index before]
    exact packing.output.setStartCodeLen_units_of_ne 0 (by omega)
  droppable := packed.droppable

theorem cons {nalu : X264Nal} {startCodeLen : Nat} (finds : packing.output.Finds block)
    (packed : Packed (block.next nalu) units {
      output := packing.output.pack nalu startCodeLen (block.staleRefIdc startCodeLen = 0)
      startCodeLen := startCodeLen
      droppable := packing.droppable && block.staleRefIdc startCodeLen = 0
      crashed := false } final) :
    Packed block (⟨nalu, startCodeLen⟩ :: units) packing final where
  crashed := packed.crashed
  frame := by
    rw [packed.frame, bytesOf_cons, List.length_append, ← Nat.add_assoc, List.length_cons,
      Nat.cast_succ, Int.add_comm _ 1, ← Int.add_assoc]
    rfl
  memory := by
    rw [packed.memory, bytesOf_cons, ← Memory.write_write, X264Nal.bytes_length]
    rfl
  records := by
    intro index record inside
    cases index with
    | zero =>
      -- the units behind this one leave its record alone
      obtain rfl : _ = record := Option.some.inj inside
      have added : packing.output.frame.numUnits <
          (packing.output.pack nalu startCodeLen
            (block.staleRefIdc startCodeLen = 0)).frame.numUnits := Int.lt_succ _
      rw [Nat.cast_zero, Int.add_zero, packed.kept _ added, Output.pack_units_self,
        finds.bitstream, finds.nextUnit_flags]
      simp only [decide_eq_true_eq, Block.staleFlags]
    | succ index =>
      have later := packed.records index record inside
      rwa [Output.pack_numUnits, Int.add_right_comm, Int.add_assoc] at later
  kept := by
    intro index before
    have other : index ≠ packing.output.frame.numUnits := by omega
    have earlier : index < (packing.output.pack nalu startCodeLen
        (block.staleRefIdc startCodeLen = 0)).frame.numUnits := by
      rw [Output.pack_numUnits]
      omega
    rw [packed.kept index earlier, Output.pack_units_of_ne _ _ _ _ other]
  droppable := by
    rw [packed.droppable, Block.staleRefIdcs, List.all_cons, Bool.and_assoc]

end Packed

section Loop

variable {packing : Packing} {block : Block}

/-- Where every `nal_ref_idc` can be read the loop runs to its end. -/
theorem packed_of_readable (nalus : List X264Nal) (finds : packing.output.Finds block)
    (running : packing.crashed = false)
    (readable : block.Readable (packedUnits packing.startCodeLen nalus)) :
    Packed block (packedUnits packing.startCodeLen nalus) packing
      (Script.execute (packNalu block.readable) nalus packing) := by
  -- a NAL unit that is packed leaves the rest of the block to the next, a skipped one all of it
  induction nalus generalizing packing block with
  | nil => exact .nil finds running
  | cons nalu nalus ih =>
    by_cases without : nalu.startCodeLen packing.startCodeLen = 0
    · rw [packedUnits, if_pos without, without] at readable ⊢
      rw [Script.execute_cons_ok _ (packNalu_skips without)]
      have skipped := @ih { packing with
        output := packing.output.setStartCodeLen 0
        startCodeLen := 0 } block (finds.setStartCodeLen 0) running readable
      exact skipped.skip
    · rw [packedUnits, if_neg without] at readable ⊢
      rw [Script.execute_cons_ok _ (packNalu_packs without finds readable.1)]
      exact .cons finds (@ih {
        output := _
        startCodeLen := nalu.startCodeLen packing.startCodeLen
        droppable := _
        crashed := false } (block.next nalu) (finds.pack ..) rfl readable.2)

theorem crashed_of_not_readable (nalus : List X264Nal) (finds : packing.output.Finds block)
    (unreadable : ¬ block.Readable (packedUnits packing.startCodeLen nalus)) :
    (Script.execute (packNalu block.readable) nalus packing).crashed = true := by
  induction nalus generalizing packing block with
  | nil => exact absurd trivial unreadable
  | cons nalu nalus ih =>
    by_cases without : nalu.startCodeLen packing.startCodeLen = 0
    · rw [packedUnits, if_pos without, without] at unreadable
      rw [Script.execute_cons_ok _ (packNalu_skips without)]
      exact @ih { packing with
        output := packing.output.setStartCodeLen 0
        startCodeLen := 0 } block (finds.setStartCodeLen 0) unreadable
    · rw [packedUnits, if_neg without, Block.Readable] at unreadable
      by_cases mapped : block.readable
          (block.staleAddress (nalu.startCodeLen packing.startCodeLen)) = true
      · -- then it is a later one that cannot be read
        rw [Script.execute_cons_ok _ (packNalu_packs without finds mapped)]
        exact @ih {
          output := _
          startCodeLen := nalu.startCodeLen packing.startCodeLen
          droppable := _
          crashed := false } (block.next nalu) (finds.pack ..)
          (fun rest => unreadable ⟨mapped, rest⟩)
      · obtain ⟨final, crashes, crashed⟩ := packNalu_crashes without finds mapped
        rw [Script.execute_cons_error _ crashes]
        exact crashed

end Loop

section Frame

variable (block : Block) (prop : SurfaceProp) (opaqueData : Int) (picture : PictureOut)

theorem startFrame_finds : (startFrame block prop opaqueData picture).Finds block where
  data := by simp [startFrame, videoEncGetFreeFrame, Output.setHeader]
  flags := by simp [startFrame, videoEncGetFreeFrame, Output.setHeader]
  bitstream := rfl
  memory := rfl

variable {block}

/-- The loop on a frame that was just made. -/
theorem packNalus_packed {nalus : List X264Nal}
    (readable : block.Readable (packedUnits 0 nalus)) :
    Packed block (packedUnits 0 nalus)
      (startPacking (startFrame block prop opaqueData picture))
      (packNalus block (startFrame block prop opaqueData picture) nalus) :=
  @packed_of_readable (startPacking _) block nalus (startFrame_finds ..) rfl readable

theorem packNalus_crashed_iff (nalus : List X264Nal) :
    (packNalus block (startFrame block prop opaqueData picture) nalus).crashed = true ↔
      ¬ block.Readable (packedUnits 0 nalus) := by
  constructor
  · intro crashed readable
    rw [(packNalus_packed prop opaqueData picture readable).crashed] at crashed
    cases crashed
  · intro unreadable
    exact @crashed_of_not_readable (startPacking _) block nalus (startFrame_finds ..) unreadable

end Frame

/-- Without a crash in the loop the call returns. -/
theorem finishFrame_returns_iff (cbOut : Bool) (packing : Packing) :
    (finishFrame cbOut packing).result ≠ none ↔ packing.crashed ≠ true := by
  cases crashed : packing.crashed with
  | true => simp [finishFrame, crashed]
  | false => cases cbOut <;> simp [finishFrame, crashed]

/-- Where x264 makes a frame and memory is granted, every `nal_ref_idc` has to be readable. -/
theorem avcEncEncode_returns_iff (config : Config) (cbOut : Bool) (malloc : Room → Option Block)
    (call : AvcCall) :
    (avcEncEncode config cbOut malloc call).result ≠ none ↔
      (call.surface.Accepted config →
        ∀ encoded ∈ call.encoded, ∀ block ∈ malloc (room config encoded.2.length),
          block.Readable (packedUnits 0 encoded.2)) := by
  by_cases accepted : call.surface.Accepted config
  case neg => simp [avcEncEncode, accepted]
  case pos =>
    cases encoded : call.encoded with
    | none => simp [avcEncEncode, accepted, encoded]
    | some frame =>
      obtain ⟨picture, nalus⟩ := frame
      cases nalus with
      | nil => simp [avcEncEncode, accepted, encoded, packedUnits, Block.Readable]
      | cons nalu nalus =>
        cases granted : malloc (room config (nalu :: nalus).length) with
        | none =>
          rw [List.length_cons] at granted
          simp [avcEncEncode, accepted, encoded, granted]
        | some block =>
          have returns : (avcEncEncode config cbOut malloc call).result ≠ none ↔
              block.Readable (packedUnits 0 (nalu :: nalus)) := by
            simp only [avcEncEncode, if_pos accepted, encoded, granted]
            rw [finishFrame_returns_iff, Ne, packNalus_crashed_iff, not_not]
          rw [returns]
          simp [accepted, -List.length_cons, granted]

/-! ## Which NAL units are packed -/

/-- The NAL units with a start code. -/
def started (nalus : List X264Nal) : List X264Nal := nalus.filter fun nalu => nalu.HasStartCode

/-- The NAL units from the first with a start code on. -/
def fromFirstStartCode (nalus : List X264Nal) : List X264Nal :=
  nalus.dropWhile fun nalu => ¬ nalu.HasStartCode

theorem fromFirstStartCode_of_starts {nalu : X264Nal} (starts : nalu.HasStartCode)
    (nalus : List X264Nal) : fromFirstStartCode (nalu :: nalus) = nalu :: nalus :=
  List.dropWhile_cons_of_neg (by simpa using starts)

theorem fromFirstStartCode_of_not_starts {nalu : X264Nal} (without : ¬ nalu.HasStartCode)
    (nalus : List X264Nal) : fromFirstStartCode (nalu :: nalus) = fromFirstStartCode nalus :=
  List.dropWhile_cons_of_pos (by simpa using without)

/-- A NAL unit with its own start code. -/
def ownUnit (nalu : X264Nal) : PackedUnit := ⟨nalu, nalu.startCodeLen 0⟩

@[simp] theorem ownUnit_nalu (nalu : X264Nal) : (ownUnit nalu).nalu = nalu := rfl

@[simp] theorem ownUnit_startCodeLen (nalu : X264Nal) :
    (ownUnit nalu).startCodeLen = nalu.startCodeLen 0 := rfl

/-- Behind the first start code everything is packed. -/
theorem packedUnits_nalus_of_pos {previous : Nat} (positive : previous ≠ 0) (nalus : List X264Nal) :
    (packedUnits previous nalus).map PackedUnit.nalu = nalus := by
  induction nalus generalizing previous with
  | nil => rfl
  | cons nalu nalus ih =>
    have kept : nalu.startCodeLen previous ≠ 0 := by
      rw [Ne, X264Nal.startCodeLen_eq_zero_iff]
      exact fun both => positive both.2
    rw [packedUnits, if_neg kept, List.map_cons, ih kept]

theorem packedUnits_nalus (nalus : List X264Nal) :
    (packedUnits 0 nalus).map PackedUnit.nalu = fromFirstStartCode nalus := by
  induction nalus with
  | nil => rfl
  | cons nalu nalus ih =>
    by_cases starts : nalu.HasStartCode
    · have kept : nalu.startCodeLen 0 ≠ 0 := by simp [X264Nal.startCodeLen_eq_zero_iff, starts]
      rw [packedUnits, if_neg kept, List.map_cons, packedUnits_nalus_of_pos kept,
        fromFirstStartCode_of_starts starts]
    · have skipped := X264Nal.startCodeLen_of_not_hasStartCode starts 0
      rw [packedUnits, if_pos skipped, skipped, ih, fromFirstStartCode_of_not_starts starts]

end EncoderFrames

end RtpPlayer
