import RtpPlayer.MediaCodec.Vp8Partitions

/-! # Who owns the frame of the VP8 encoder

`get_partitions` makes one frame and has to hand it to `cb_out` once, and not to write to it after
that, or to free it.  It never frees it: the frame stays behind where no picture comes, where the
check of a partition fails before the end of one and where there is no `cb_out`. -/

namespace RtpPlayer

open Foundations Ownership

namespace EncoderFrames

open VideoEnc (Config)

namespace Receiving

/-- Who owns the frame, `none` once it was used by whom it does not belong to. -/
def owner (receiving : Receiving) : Option Owner :=
  ownerAfter .holder (receiving.output.trace.map FrameEvent.use)

theorem settled_iff (receiving : Receiving) :
    Settled (receiving.output.trace.map FrameEvent.use) ↔
      receiving.owner = some .receiver ∨ receiving.owner = some .nobody := Iff.rfl

theorem owner_of_trace {receiving next : Receiving} {more : List FrameEvent}
    (grown : next.output.trace = receiving.output.trace ++ more) :
    next.owner = receiving.owner.bind (ownerAfter · (more.map FrameEvent.use)) := by
  rw [owner, grown, List.map_append, ownerAfter_append]
  rfl

variable {cbOut : Option Callback} {picture : PictureArgs} {receiving : Receiving}

theorem owner_addPartition (partition : CxPartition) :
    (receiving.addPartition partition).owner = receiving.owner.bind (·.use .write) := by
  rw [owner_of_trace (receiving.addPartition_trace partition)]
  cases receiving.owner with
  | none => rfl
  | some owner => cases owner <;> rfl

theorem owner_endOfFrame (partition : CxPartition) :
    (receiving.endOfFrame picture partition).owner = receiving.owner.bind (·.use .write) := by
  rw [owner_of_trace (receiving.endOfFrame_trace partition picture)]
  cases receiving.owner with
  | none => rfl
  | some owner => cases owner <;> rfl

theorem owner_deliver {callback : Callback} (got : receiving.gotPic = true) :
    (deliver (some callback) receiving).owner = receiving.owner.bind (·.use .handOver) := by
  have grown : (deliver (some callback) receiving).output.trace =
      receiving.output.trace ++ [.deliver] := by
    rw [deliver_of_gotPic got]
    rfl
  rw [owner_of_trace grown]
  cases receiving.owner with
  | none => rfl
  | some owner => cases owner <;> rfl

/-- What was misused stays misused. -/
theorem owner_deliver_of_none (misused : receiving.owner = none) :
    (deliver cbOut receiving).owner = none := by
  cases cbOut with
  | none => exact misused
  | some callback =>
    cases got : receiving.gotPic with
    | false => rwa [deliver_of_idle got]
    | true => rw [owner_deliver got, misused, Option.bind_none]

/-- The frame is still the holder's after a fragment, and after the end of a frame until it is
delivered; a frame that was handed over is misused by either. -/
theorem owner_take (partition : CxPartition) :
    (receiving.take picture partition).owner = receiving.owner.bind (·.use .write) := by
  by_cases fragment : partition.isFragment = true
  · rw [take_of_fragment fragment, owner_addPartition]
  · rw [take_of_last fragment, owner_endOfFrame, owner_addPartition]
    -- to write twice is to write once
    cases receiving.owner with
    | none => rfl
    | some owner => cases owner <;> rfl

theorem owner_after_of_none (packet : CxPkt) (misused : receiving.owner = none) :
    (Script.after (receivePacket cbOut picture packet receiving)).owner = none := by
  cases packet with
  | frame partition =>
    by_cases takes : receiving.Takes partition
    · rw [receivePacket_of_takes takes, Script.after_ok]
      apply owner_deliver_of_none
      rw [owner_take, misused, Option.bind_none]
    · rw [receivePacket_of_not_takes takes]
      exact misused
  | psnr | other => exact owner_deliver_of_none misused

/-- Without `cb_out` the frame is never handed over. -/
theorem owner_after_of_no_callback (packet : CxPkt) (held : receiving.owner = some .holder) :
    (Script.after (receivePacket none picture packet receiving)).owner = some .holder := by
  cases packet with
  | frame partition =>
    by_cases takes : receiving.Takes partition
    · rw [receivePacket_of_takes takes, Script.after_ok, deliver_none, owner_take, held]
      rfl
    · rw [receivePacket_of_not_takes takes]
      exact held
  | psnr | other => exact held

end Receiving

/-! ## Whole runs -/

/-- The picture from its partition `next` on: its partitions come in order, and what follows does
not pass the check, of a frame of which the callback has left `left` units. -/
def HandsOverFrom (left : Int) : Nat → List CxPartition → Prop
  | _, [] => False
  | next, partition :: later =>
    next < vpxEncPartitions ∧ partition.partitionId = next ∧
      if partition.isFragment then HandsOverFrom left (next + 1) later
      else ∀ follower ∈ later.head?, ¬ (left < vpxEncPartitions ∧ follower.partitionId = left)

instance decidableHandsOverFrom (left : Int) :
    ∀ (next : Nat) (partitions : List CxPartition), Decidable (HandsOverFrom left next partitions)
  | _, [] => .isFalse id
  | next, _ :: later =>
    have := decidableHandsOverFrom left (next + 1) later
    inferInstanceAs (Decidable (_ ∧ _ ∧ ite _ _ _))

/-- A callback is there, and the packets have one picture that is handed to it. -/
def HandsOver : Option Callback → List CxPkt → Prop
  | none, _ => False
  | some callback, packets =>
    HandsOverFrom (callback.leaves 0).numUnits 0 (partitionsOf packets)

instance (cbOut : Option Callback) (packets : List CxPkt) : Decidable (HandsOver cbOut packets) :=
  match cbOut with
  | none => .isFalse id
  | some callback =>
    decidableHandsOverFrom (callback.leaves 0).numUnits 0 (partitionsOf packets)

section Runs

open Receiving

variable {picture : PictureArgs} {receiving : Receiving}

theorem owner_execute_of_none {cbOut : Option Callback} (packets : List CxPkt)
    (misused : receiving.owner = none) :
    (Script.execute (receivePacket cbOut picture) packets receiving).owner = none :=
  @Script.execute_invariant _ _ _ (fun state : Receiving => state.owner = none) packets
    (fun packet _ _ => owner_after_of_none packet) _ misused

theorem owner_execute_of_no_callback (packets : List CxPkt)
    (held : receiving.owner = some .holder) :
    (Script.execute (receivePacket none picture) packets receiving).owner = some .holder :=
  @Script.execute_invariant _ _ _ (fun state : Receiving => state.owner = some .holder) packets
    (fun packet _ _ => owner_after_of_no_callback packet) _ held

/-- Once the frame is handed over everything hangs on the next partition. -/
theorem execute_handed {callback : Callback} (packets : List CxPkt)
    (handed : receiving.owner = some .receiver) (idle : receiving.gotPic = false) :
    Settled ((Script.execute (receivePacket (some callback) picture) packets
        receiving).output.trace.map FrameEvent.use) ↔
      ∀ follower ∈ (partitionsOf packets).head?, ¬ receiving.Takes follower := by
  induction packets with
  | nil => simp [settled_iff, handed]
  | cons packet packets ih =>
    cases packet with
    | frame partition =>
      rw [partitionsOf_frame, List.head?_cons]
      by_cases takes : receiving.Takes partition
      · -- the unit is written to a frame that is the callback's
        have misused :
            (deliver (some callback) (receiving.take picture partition)).owner = none := by
          apply owner_deliver_of_none
          rw [owner_take, handed]
          rfl
        rw [Script.execute_cons_ok _ (receivePacket_of_takes takes)]
        apply iff_of_false
        · exact not_settled_of_none (owner_execute_of_none packets misused)
        · simp [takes]
      · rw [Script.execute_cons_error _ (receivePacket_of_not_takes takes)]
        apply iff_of_true
        · exact Or.inl handed
        · simpa using takes
    | psnr =>
      rw [execute_psnr idle]
      exact ih
    | other =>
      rw [execute_other idle]
      exact ih

/-- The first picture leaves the frame as the callback does. -/
theorem frame_after_last {callback : Callback} {partition : CxPartition}
    (first : receiving.delivered = []) :
    (deliver (some callback) ((receiving.addPartition partition).endOfFrame picture
      partition)).output.frame = callback.leaves 0 := by
  have none : ((receiving.addPartition partition).endOfFrame picture partition).delivered = [] :=
    first
  rw [deliver_frame rfl, none, List.length_nil]

theorem execute_held {callback : Callback} (packets : List CxPkt)
    (held : receiving.owner = some .holder) (idle : receiving.gotPic = false) {next : Nat}
    (count : receiving.output.frame.numUnits = next) (first : receiving.delivered = []) :
    Settled ((Script.execute (receivePacket (some callback) picture) packets
        receiving).output.trace.map FrameEvent.use) ↔
      HandsOverFrom (callback.leaves 0).numUnits next (partitionsOf packets) := by
  -- up to the end of the picture the frame stays the holder's, with `next` units
  induction packets generalizing receiving next with
  | nil => simp [settled_iff, held, HandsOverFrom]
  | cons packet packets ih =>
    cases packet with
    | frame partition =>
      rw [partitionsOf_frame, HandsOverFrom, ← and_assoc]
      rw [← takes_iff count]
      by_cases takes : receiving.Takes partition
      · rw [and_iff_right takes]
        by_cases fragment : partition.isFragment = true
        · have kept : (receiving.addPartition partition).gotPic = false := idle
          rw [Script.execute_cons_ok _ (receivePacket_of_takes takes), take_of_fragment fragment,
            deliver_of_idle kept, if_pos fragment]
          apply ih
          · rw [owner_addPartition, held]
            rfl
          · exact kept
          · exact addPartition_count count partition
          · exact first
        · -- from here on it is `execute_handed` that counts
          have handed : (deliver (some callback) ((receiving.addPartition partition).endOfFrame
              picture partition)).owner = some .receiver := by
            rw [owner_deliver rfl, owner_endOfFrame, owner_addPartition, held]
            rfl
          rw [Script.execute_cons_ok _ (receivePacket_of_takes takes), take_of_last fragment,
            if_neg fragment, execute_handed packets handed (deliver_gotPic callback)]
          simp only [Takes, frame_after_last first]
      · rw [Script.execute_cons_error _ (receivePacket_of_not_takes takes)]
        apply iff_of_false
        · exact not_settled_of_holder held
        · exact fun both => takes both.1
    | psnr =>
      rw [execute_psnr idle]
      exact ih held idle count first
    | other =>
      rw [execute_other idle]
      exact ih held idle count first

/-- After the picture was handed over nothing changes but the return value. -/
theorem execute_rejecting {callback : Callback} (packets : List CxPkt)
    (idle : receiving.gotPic = false)
    (rejects : ∀ follower ∈ (partitionsOf packets).head?, ¬ receiving.Takes follower) :
    ∃ result, Script.execute (receivePacket (some callback) picture) packets receiving =
      { receiving with result := result } := by
  induction packets with
  | nil => exact ⟨receiving.result, rfl⟩
  | cons packet packets ih =>
    cases packet with
    | frame partition =>
      have rejected : ¬ receiving.Takes partition := rejects partition rfl
      rw [Script.execute_cons_error _ (receivePacket_of_not_takes rejected)]
      exact ⟨-1, rfl⟩
    | psnr =>
      rw [execute_psnr idle]
      exact ih rejects
    | other =>
      rw [execute_other idle]
      exact ih rejects

/-- What is handed over is the frame that the model of whole pictures makes of the last packet. -/
structure Hands (simple : VideoEncFrameBs) (frame : Frame) : Prop where
  isKey : frame.flags &&& videoFrameTypeKey ≠ 0 ↔ simple.isKey = true
  pts : frame.pts = simple.pts
  opaqueData : frame.opaqueData = simple.opaqueData
  codecPriv : frame.codecPriv = .vp8 simple.codecPriv

theorem hands_endOfFrame (surface : VideoSurface) (prop : SurfaceProp) (encFlag : UInt32)
    (partition : CxPartition) (fresh : receiving.output.frame.flags = 0) :
    ∃ simple, receiving.ctx.getPartitions surface encFlag (some partition.cxFrame) =
        ((receiving.endOfFrame ⟨surface.pts, prop, surface.opaqueData⟩ partition).ctx,
          some simple) ∧
      Hands simple
        (receiving.endOfFrame ⟨surface.pts, prop, surface.opaqueData⟩ partition).output.frame := by
  refine ⟨_, rfl, ?_⟩
  constructor
  case isKey =>
    have flags : (receiving.endOfFrame ⟨surface.pts, prop, surface.opaqueData⟩
        partition).output.frame.flags =
        if partition.isKey then receiving.output.frame.flags ||| videoFrameTypeKey
        else receiving.output.frame.flags := rfl
    rw [flags, fresh]
    show _ ↔ partition.isKey = true
    cases partition.isKey <;> decide
  case pts => rfl
  case opaqueData => rfl
  case codecPriv => rfl

theorem execute_hands {callback : Callback} (surface : VideoSurface) (prop : SurfaceProp)
    (encFlag : UInt32) (packets : List CxPkt) (idle : receiving.gotPic = false) {next : Nat}
    (count : receiving.output.frame.numUnits = next) (first : receiving.delivered = [])
    (fresh : receiving.output.frame.flags = 0)
    (hands : HandsOverFrom (callback.leaves 0).numUnits next (partitionsOf packets)) :
    ∃ partition ∈ partitionsOf packets, ∃ output simple,
      (Script.execute (receivePacket (some callback) ⟨surface.pts, prop, surface.opaqueData⟩)
        packets receiving).delivered = [output] ∧
      receiving.ctx.getPartitions surface encFlag (some partition.cxFrame) =
        ((Script.execute (receivePacket (some callback) ⟨surface.pts, prop, surface.opaqueData⟩)
          packets receiving).ctx, some simple) ∧
      Hands simple output.frame := by
  induction packets generalizing receiving next with
  | nil => exact hands.elim
  | cons packet packets ih =>
    cases packet with
    | frame partition =>
      rw [partitionsOf_frame, HandsOverFrom, ← and_assoc, ← takes_iff count] at hands
      obtain ⟨takes, rest⟩ := hands
      by_cases fragment : partition.isFragment = true
      · have kept : (receiving.addPartition partition).gotPic = false := idle
        have added := addPartition_count count partition
        rw [if_pos fragment] at rest
        rw [Script.execute_cons_ok _ (receivePacket_of_takes takes), take_of_fragment fragment,
          deliver_of_idle kept]
        obtain ⟨last, member, output, simple, found⟩ := ih kept added first fresh rest
        exact ⟨last, List.mem_cons_of_mem _ member, output, simple, found⟩
      · rw [if_neg fragment] at rest
        have rejects : ∀ follower ∈ (partitionsOf packets).head?, ¬ (deliver (some callback)
            ((receiving.addPartition partition).endOfFrame
              ⟨surface.pts, prop, surface.opaqueData⟩ partition)).Takes follower := by
          simpa only [Takes, frame_after_last first] using rest
        obtain ⟨result, final⟩ := execute_rejecting packets (deliver_gotPic callback) rejects
        have fresh_added : (receiving.addPartition partition).output.frame.flags = 0 := fresh
        obtain ⟨simple, populated, handed⟩ :=
          hands_endOfFrame surface prop encFlag partition fresh_added
        rw [Script.execute_cons_ok _ (receivePacket_of_takes takes), take_of_last fragment, final,
          deliver_of_gotPic rfl]
        refine ⟨partition, List.mem_cons_self, _, simple, ?_, populated, handed⟩
        exact congrArg (· ++ _) first
    | psnr =>
      rw [execute_psnr idle]
      exact ih idle count first fresh hands
    | other =>
      rw [execute_other idle]
      exact ih idle count first fresh hands

end Runs

section Calls

variable (config : Config) (cbOut : Option Callback) (picture : PictureArgs)
  (packets : List CxPkt) (ctx : Vp8EncContext)

/-- Before the frame is handed over it is only written to, and after that nothing is done to it. -/
theorem getPartitions_writes {cbOut : Option Callback} {packets : List CxPkt}
    (hands : HandsOver cbOut packets) (block : Block) :
    ∃ writes : List Use, (∀ use ∈ writes, use = .write) ∧
      (getPartitions config cbOut (fun _ => some block) picture packets
        ctx).2.trace.map FrameEvent.use = writes ++ [.handOver] := by
  cases cbOut with
  | none => exact hands.elim
  | some callback =>
    have held : (startReceiving ctx block).owner = some .holder := rfl
    have settled := (@execute_held picture _ callback packets held rfl 0 rfl rfl).mpr hands
    obtain ⟨writes, only, last⟩ := settled_iff_exists.mp settled
    refine ⟨writes, only, last.resolve_right ?_⟩
    intro released
    have member : Use.release ∈ (Script.execute (Receiving.receivePacket (some callback) picture)
        packets (startReceiving ctx block)).output.trace.map FrameEvent.use := by
      rw [released]
      simp
    obtain ⟨event, _, release⟩ := List.mem_map.mp member
    exact event.use_ne_release release

/-- A picture that is handed over is the one that the model of whole pictures has for its last
packet. -/
theorem getPartitions_refines {cbOut : Option Callback} {packets : List CxPkt}
    (hands : HandsOver cbOut packets) (block : Block) {picture : PictureArgs}
    {surface : VideoSurface} (pts : picture.pts = surface.pts)
    (opaqueData : picture.opaqueData = surface.opaqueData) (encFlag : UInt32) :
    ∃ partition ∈ partitionsOf packets, ∃ output simple,
      (getPartitions config cbOut (fun _ => some block) picture packets ctx).2.delivered =
        [output] ∧
      ctx.getPartitions surface encFlag (some partition.cxFrame) =
        ((getPartitions config cbOut (fun _ => some block) picture packets ctx).1,
          some simple) ∧
      Hands simple output.frame := by
  cases cbOut with
  | none => exact hands.elim
  | some callback =>
    obtain ⟨_, prop, _⟩ := picture
    subst pts opaqueData
    exact @execute_hands (startReceiving ctx block) callback surface prop encFlag packets
      rfl 0 rfl rfl rfl hands

/-- The exact condition under which the frame ends up with one owner.  Then it is written to, handed
over with what the model of whole pictures has for the last packet, and left alone.  Without memory
there is no frame. -/
theorem getPartitions_settles_iff (block : Block) :
    (Settled ((getPartitions config cbOut (fun _ => some block) picture packets
        ctx).2.trace.map FrameEvent.use) ↔ HandsOver cbOut packets) ∧
      (HandsOver cbOut packets →
        (∃ writes : List Use, (∀ use ∈ writes, use = .write) ∧
          (getPartitions config cbOut (fun _ => some block) picture packets
            ctx).2.trace.map FrameEvent.use = writes ++ [.handOver]) ∧
        ∀ surface : VideoSurface, picture.pts = surface.pts →
          picture.opaqueData = surface.opaqueData → ∀ encFlag,
          ∃ partition ∈ partitionsOf packets, ∃ output simple,
            (getPartitions config cbOut (fun _ => some block) picture packets ctx).2.delivered =
              [output] ∧
            ctx.getPartitions surface encFlag (some partition.cxFrame) =
              ((getPartitions config cbOut (fun _ => some block) picture packets ctx).1,
                some simple) ∧
            Hands simple output.frame) ∧
      (getPartitions config cbOut (fun _ => none) picture packets ctx).2.trace = [] := by
  refine ⟨?_, fun hands => ⟨getPartitions_writes config picture ctx hands block, ?_⟩, rfl⟩
  · have held : (startReceiving ctx block).owner = some .holder := rfl
    cases cbOut with
    | none =>
      have kept := @owner_execute_of_no_callback picture _ packets held
      exact iff_of_false (not_settled_of_holder kept) id
    | some callback => exact execute_held packets held rfl rfl rfl
  · intro surface pts opaqueData encFlag
    exact getPartitions_refines config ctx hands block pts opaqueData encFlag

end Calls

/-- A frame of one partition. -/
def wholePicture (partitionId : Int) : CxPkt :=
  .frame { buf := [0x10, 0x02, 0x00], flags := vpxFrameIsKey, partitionId := partitionId }

/-- A callback that leaves the frame as it has it, of one unit. -/
def keepsOne : Callback where
  leaves := fun _ => {
    numUnits := 1
    units := fun _ => ⟨0, 0, 0, 0, 0⟩
    data := 0
    len := 3
    pts := 0
    flags := videoFrameTypeKey
    prop := ⟨0, 0, 0⟩
    opaqueData := 0
    codec := .vp8
    codecPriv := .zeros }

def zeroBlock : Block := ⟨fun _ => ⟨0, 0, 0, 0, 0⟩, 0, fun _ => 0, fun _ => true⟩

def smallContext : Vp8EncContext := vp8EncInit ⟨16, 16, 1⟩

/-- A call for a picture of 16 x 16. -/
def smallRun (cbOut : Option Callback) (packets : List CxPkt) : Outcome :=
  (getPartitions ⟨16, 16, 30, 1, 1, 1⟩ cbOut (fun _ => some zeroBlock) ⟨0, ⟨0, 0, 0⟩, 0⟩ packets
    smallContext).2

/-- A dropped picture, a picture without a callback and a partition out of order leave the frame
behind, and a second picture is delivered in the frame of the first. -/
theorem smallRun_not_settled :
    ¬ Settled ((smallRun (some keepsOne) []).trace.map FrameEvent.use) ∧
      ¬ Settled ((smallRun none [wholePicture 0]).trace.map FrameEvent.use) ∧
      ¬ Settled ((smallRun (some keepsOne) [wholePicture 1]).trace.map FrameEvent.use) ∧
      ¬ Settled ((smallRun (some keepsOne) [wholePicture 0, wholePicture 1]).trace.map
        FrameEvent.use) ∧
      (smallRun (some keepsOne) [wholePicture 0, wholePicture 1]).delivered.length = 2 := by
  decide

/-- A second picture in order is rejected: the frame still has the units of the first. -/
example : HandsOver (some keepsOne) [.psnr, wholePicture 0, .psnr, wholePicture 0] := by decide

end EncoderFrames

end RtpPlayer
