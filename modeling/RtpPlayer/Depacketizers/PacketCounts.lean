import RtpPlayer.Depacketizers.NaluSteps
import RtpPlayer.Depacketizers.PacketTrace
import RtpPlayer.Depacketizers.Vp8FrameStarts

/-! # Packet counts

`m_packets` counts a packet before it is looked at.  Whatever is refused or thrown away afterwards
stays counted unless the count is reset with it, and a STAP-A packet that closes a frame before its
end is no longer counted for the next one. -/

namespace RtpPlayer

open Foundations
open RtpDepacketizer
open StampedByte (stamp bytesOf bringers)
open PacketTraced (follow)

/-! ## H.264 -/

namespace RtpDepacketizerH264

/-- What an operation does to the trace. -/
def stampOperation (operation : NaluOperation) (result : ParseResult RtpDepacketizerH264)
    (trace : PacketTrace) : PacketTrace :=
  let depacketizer := result.depacketizer
  match operation with
  | .append part bytes =>
    if depacketizer.naluLen + bytes.length ≤ maxEsFrameSize then
      let packet := if part = .startcode then none else some trace.number
      { trace with nalu := trace.nalu ++ stamp packet bytes }
    else
      trace.reset
  | .decode last =>
    if depacketizer.naluLen = 0 ∨ ¬ depacketizer.Admits then
      { trace with nalu := [] }
    else if depacketizer.closes last then
      trace.close (trace.frame ++ trace.nalu.take depacketizer.storedLen)
    else
      { trace with nalu := [], frame := trace.frame ++ trace.nalu }
  | .fail => { trace with nalu := [] }

instance : PacketTraced RtpDepacketizerH264 where
  nalu depacketizer := depacketizer.nalu.slice 0 depacketizer.naluLen
  frame depacketizer := depacketizer.frame.slice 0 depacketizer.frameLen
  packets := packets
  follow depacketizer call trace :=
    if call.payload = [] then trace
    else (Script.execute (Script.observed (perform call) stampOperation)
      (NaluOperation.ofPacket call.payload call.marker)
      (depacketizer.beginPacket call, trace.count)).2

variable {call : ParseCall}

/-- Parsing a packet under a trace is performing its script under observation. -/
theorem stamped_answer (depacketizer : RtpDepacketizerH264) (nonempty : call.payload ≠ [])
    (trace : PacketTrace) :
    (answer depacketizer call, follow depacketizer call trace) =
      Script.execute (Script.observed (perform call) stampOperation)
        (NaluOperation.ofPacket call.payload call.marker)
        (depacketizer.beginPacket call, trace.count) := by
  refine Prod.ext ?_ (if_neg nonempty)
  rw [Script.execute_observed_fst, answer_eq _ nonempty]

/-- The trace has the bytes in the buffers and in the frame that is handed out, and none but the
packets listed have been counted. -/
structure Stamped (listed : Finset Nat) (state : ParseResult RtpDepacketizerH264 × PacketTrace) :
    Prop where
  describes : state.2.Describes state.1.depacketizer
  counted : state.2.counted ⊆ listed
  delivers : state.1.status = .frame → ∀ frame ∈ state.1.frame,
    ∃ stored, state.2.closed.head? = some stored ∧ bytesOf stored = frameBytes state.1 frame

variable {listed : Finset Nat} {state : ParseResult RtpDepacketizerH264 × PacketTrace}

theorem length_nalu {depacketizer : RtpDepacketizerH264} {trace : PacketTrace}
    (describes : trace.Describes depacketizer) : trace.nalu.length = depacketizer.naluLen := by
  have length := congrArg List.length describes.nalu
  rw [StampedByte.bytesOf, List.length_map] at length
  exact length.trans (Memory.slice_length ..)

theorem store_bytes {depacketizer : RtpDepacketizerH264} {trace : PacketTrace}
    (describes : trace.Describes depacketizer) :
    bytesOf (trace.frame ++ trace.nalu.take depacketizer.storedLen) =
      depacketizer.store.frame.slice 0 depacketizer.store.frameLen := by
  have within : depacketizer.storedLen ≤ depacketizer.naluLen := Nat.min_le_left ..
  rw [StampedByte.bytesOf_append, StampedByte.bytesOf_take, describes.frame, describes.nalu,
    store_frame]
  exact congrArg _ (Memory.take_slice within)

theorem Stamped.after (stamped : Stamped listed state) (call : ParseCall)
    (operation : NaluOperation) :
    Stamped listed
      (Script.after (Script.observed (perform call) stampOperation operation state)) := by
  obtain ⟨result, trace⟩ := state
  obtain ⟨describes, counted, delivers⟩ := stamped
  rw [Script.after_observed]
  have step := naluStep_perform call operation result
  dsimp only at describes counted delivers ⊢
  -- what the operation does is all that is needed of it
  generalize perform call operation result = outcome at step ⊢
  cases step with
  | appended part bytes fits =>
    rw [stampOperation, if_pos fits]
    refine ⟨⟨?_, describes.frame, describes.packets⟩, counted, delivers⟩
    rw [StampedByte.bytesOf_append, StampedByte.bytesOf_stamp, describes.nalu]
    exact (Memory.slice_write_append ..).symm
  | overflowed part bytes tooLarge =>
    rw [stampOperation, if_neg (Nat.not_le.mpr tooLarge)]
    -- the frame goes with its packets
    exact ⟨⟨rfl, rfl, rfl⟩, Finset.empty_subset _, nofun⟩
  | nothing last empty =>
    rw [stampOperation, if_pos (.inl empty)]
    refine ⟨⟨?_, describes.frame, describes.packets⟩, counted, nofun⟩
    rw [Script.after_ok, PacketTraced.nalu]
    simp [instPacketTraced, empty]
  | rejected last occupied rejected =>
    rw [stampOperation, if_pos (.inr rejected)]
    exact ⟨⟨rfl, describes.frame, describes.packets⟩, counted, nofun⟩
  | stored last occupied admits remains =>
    rw [stampOperation, if_neg (by tauto), if_neg (by simp [remains])]
    refine ⟨⟨rfl, ?_, ?_⟩, counted, nofun⟩
    · -- nothing of the NALU is cut off
      have whole : trace.nalu.take result.depacketizer.storedLen = trace.nalu := by
        refine List.take_of_length_le ?_
        rw [storedLen_of_remains remains, ← length_nalu describes]
      rw [← whole]
      exact store_bytes describes
    · rw [describes.packets, Script.after_ok, store_eq]
      rfl
  | closed last occupied admits closing =>
    rw [stampOperation, if_neg (by tauto), if_pos closing]
    refine ⟨⟨rfl, rfl, rfl⟩, Finset.empty_subset _, ?_⟩
    intro _ frame handed
    obtain ⟨_, _, rfl⟩ := Option.map_eq_some_iff.mp handed
    exact ⟨_, rfl, store_bytes describes⟩
  | failed => exact ⟨⟨rfl, describes.frame, describes.packets⟩, counted, nofun⟩

theorem stamped_beginPacket {depacketizer : RtpDepacketizerH264} {trace : PacketTrace}
    (follows : trace.Follows depacketizer) (call : ParseCall) :
    Stamped (insert trace.number trace.counted) (depacketizer.beginPacket call, trace.count) :=
  ⟨⟨follows.nalu, follows.frame, follows.count_card⟩, Finset.Subset.refl _, nofun⟩

theorem stamped_follow {depacketizer : RtpDepacketizerH264} {trace : PacketTrace}
    (follows : trace.Follows depacketizer) (call : ParseCall) :
    Stamped (insert trace.number trace.counted)
      (answer depacketizer call, follow depacketizer call trace) := by
  by_cases empty : call.payload = []
  · have same : follow depacketizer call trace = trace := if_pos empty
    rw [answer_of_empty _ empty, same]
    exact ⟨⟨follows.nalu, follows.frame, follows.packets⟩, Finset.subset_insert .., nofun⟩
  · rw [stamped_answer _ empty]
    refine Script.execute_invariant ?_ (stamped_beginPacket follows call)
    intro operation _ state holds
    exact holds.after call operation

/-! ### The count of a frame -/

/-- The bytes of the frame that the next decode closes. -/
def storedBytes (state : ParseResult RtpDepacketizerH264 × PacketTrace) : List StampedByte :=
  state.2.frame ++ state.2.nalu.take state.1.depacketizer.storedLen

/-- A frame that is handed out has no byte of a packet that was counted for an earlier one: no
STAP-A packet has gone on behind a NALU that closed a frame. -/
def StoresCounted (last : Bool) (state : ParseResult RtpDepacketizerH264 × PacketTrace) : Prop :=
  HandsOut last state.1 → bringers (storedBytes state) ⊆ state.2.counted

/-- Every packet that has been counted has a byte in a frame that is handed out: none has been
refused, abandoned, kept out by the gate, thrown away by `set_sync_point` or cut off. -/
def CountedAreStored (last : Bool) (state : ParseResult RtpDepacketizerH264 × PacketTrace) : Prop :=
  HandsOut last state.1 → state.2.counted ⊆ bringers (storedBytes state)

/-- As many packets have been counted as have a byte in a frame that is handed out. -/
def CountsStored (last : Bool) (state : ParseResult RtpDepacketizerH264 × PacketTrace) : Prop :=
  HandsOut last state.1 → state.2.counted.card = (bringers (storedBytes state)).card

instance (last : Bool) (state : ParseResult RtpDepacketizerH264 × PacketTrace) :
    Decidable (StoresCounted last state) :=
  inferInstanceAs (Decidable (_ → _))

instance (last : Bool) (state : ParseResult RtpDepacketizerH264 × PacketTrace) :
    Decidable (CountedAreStored last state) :=
  inferInstanceAs (Decidable (_ → _))

/-- The last decode of the packet meets the condition. -/
def Decodes (condition : Bool → ParseResult RtpDepacketizerH264 × PacketTrace → Prop)
    (state : RtpDepacketizerH264 × PacketTrace) (call : ParseCall) : Prop :=
  Script.Guarded (Script.observed (perform call) stampOperation) (OnLastDecode condition)
    (NaluOperation.ofPacket call.payload call.marker) (state.1.beginPacket call, state.2.count)

instance (condition : Bool → ParseResult RtpDepacketizerH264 × PacketTrace → Prop)
    [∀ last state, Decidable (condition last state)] (state : RtpDepacketizerH264 × PacketTrace)
    (call : ParseCall) : Decidable (Decodes condition state call) :=
  inferInstanceAs (Decidable (Script.Guarded ..))

/-- Where only counted packets are stored, the counts agree exactly where all of them are. -/
theorem countsStored_iff {last : Bool} (stores : StoresCounted last state) :
    CountsStored last state ↔ CountedAreStored last state := by
  refine forall_congr' fun handsOut => ?_
  constructor
  · intro same
    exact (Finset.eq_of_subset_of_card_le (stores handsOut) (Nat.le_of_eq same)).symm.subset
  · intro stored
    rw [stored.antisymm (stores handsOut)]

theorem decodes_countsStored_iff {state : RtpDepacketizerH264 × PacketTrace}
    (stores : Decodes StoresCounted state call) :
    Decodes CountsStored state call ↔ Decodes CountedAreStored state call := by
  refine @Script.guarded_congr _ _ _ _ _ _ (fun _ => True) (fun _ _ _ _ _ => trivial) ?_ _ _
    trivial stores
  intro operation later state _
  exact onLastDecode_congr fun last => countsStored_iff

theorem countIsExact_of_silent (silent : state.1.status ≠ .frame) : CountIsExact state :=
  fun delivers => absurd delivers silent

theorem countIsExact_decode (last : Bool)
    (describes : state.2.Describes state.1.depacketizer) :
    CountIsExact
        (Script.after (Script.observed (perform call) stampOperation (.decode last) state)) ↔
      CountsStored last state := by
  obtain ⟨result, trace⟩ := state
  rw [Script.after_observed]
  have step := naluStep_perform call (.decode last) result
  dsimp only at describes ⊢
  generalize perform call (.decode last) result = outcome at step ⊢
  cases step with
  | nothing last empty =>
    refine iff_of_true (countIsExact_of_silent (by simp)) ?_
    intro handsOut
    exact absurd empty handsOut.1
  | rejected last occupied rejected =>
    refine iff_of_true (countIsExact_of_silent (by simp)) ?_
    intro handsOut
    exact absurd handsOut.2.1 rejected
  | stored last occupied admits remains =>
    refine iff_of_true (countIsExact_of_silent (by simp)) ?_
    intro handsOut
    cases remains.symm.trans handsOut.2.2.1
  | closed last occupied admits closing =>
    -- `m_packets` is the number of packets in the list, and the frame gets it
    rw [stampOperation, if_neg (by tauto), if_pos closing]
    constructor
    · intro exact handsOut
      obtain ⟨out, given⟩ := Option.isSome_iff_exists.mp handsOut.2.2.2
      rw [describes.packets]
      exact exact rfl _ (Option.map_eq_some_iff.mpr ⟨out, given, rfl⟩) _ rfl
    · intro counts _ frame handed stored isHead
      obtain ⟨out, given, rfl⟩ := Option.map_eq_some_iff.mp handed
      cases isHead
      have same := counts ⟨occupied, admits, closing, by simp [given]⟩
      rw [describes.packets] at same
      exact same

theorem countIsExact_append (part : NaluPart) (bytes : List UInt8) (exact : CountIsExact state) :
    CountIsExact (Script.after
      (Script.observed (perform call) stampOperation (.append part bytes) state)) := by
  obtain ⟨result, trace⟩ := state
  rw [Script.after_observed]
  have step := naluStep_perform call (.append part bytes) result
  dsimp only at exact ⊢
  generalize perform call (.append part bytes) result = outcome at step ⊢
  cases step with
  | appended part bytes fits =>
    rw [stampOperation, if_pos fits]
    exact exact
  | overflowed => exact countIsExact_of_silent (by simp)

theorem countIsExact_iff {depacketizer : RtpDepacketizerH264} {trace : PacketTrace}
    (follows : trace.Follows depacketizer) (call : ParseCall) :
    CountIsExact (answer depacketizer call, follow depacketizer call trace) ↔
      Decodes CountsStored (depacketizer, trace) call := by
  by_cases empty : call.payload = []
  · rw [answer_of_empty _ empty, Decodes, empty]
    exact iff_of_true (countIsExact_of_silent (by simp)) trivial
  rw [stamped_answer _ empty, Decodes]
  refine execute_ofPacket_iff ?_ ?_ (fun part bytes _ => countIsExact_append part bytes) ?_
    (fun last _ (stamped : Stamped _ _) => countIsExact_decode last stamped.describes) _ _
    (stamped_beginPacket follows call) (countIsExact_of_silent (by simp [beginPacket]))
  · intro operation state next stamped continues
    have kept := stamped.after call operation
    rw [continues] at kept
    exact kept
  · intro operation state final ended
    refine countIsExact_of_silent ?_
    rw [status_of_error (Script.of_observed_error ended).1]
    decide
  · intro state
    refine countIsExact_of_silent ?_
    rw [Script.after_observed]
    simp [perform, fail]

instance : LawfulPacketTraced RtpDepacketizerH264 where
  parsed call follows := (stamped_follow follows call).describes
  counted call follows := (stamped_follow follows call).counted
  synced _ := ⟨rfl, rfl, rfl⟩
  delivered {trace depacketizer call frame bytes} follows delivered := by
    obtain ⟨status, handed, content⟩ := delivery_eq_some_iff.mp delivered
    obtain ⟨stored, isHead, same⟩ := (stamped_follow follows call).delivers status frame handed
    exact ⟨stored, isHead, same.trans content⟩

end RtpDepacketizerH264

/-! ## VP8 -/

namespace RtpDepacketizerVp8

/-- What a payload does to the trace. -/
def stampPayload (depacketizer : RtpDepacketizerVp8) (call : ParseCall) (trace : PacketTrace)
    (payload : Vp8Payload) : PacketTrace :=
  if payload.ShortKeyFrame then
    trace
  else if maxEsFrameSize < depacketizer.frameLen + payload.bytes.length then
    trace.reset
  else
    let frame := trace.frame ++ stamp (some trace.number) payload.bytes
    if call.marker = false then
      { trace with frame := frame }
    else if depacketizer.ShutBehind payload then
      trace.reset
    else
      trace.close frame

instance : PacketTraced RtpDepacketizerVp8 where
  nalu _ := []
  frame depacketizer := depacketizer.frame.slice 0 depacketizer.frameLen
  packets := packets
  follow depacketizer call trace :=
    if call.packetLen = 0 then trace
    else (Vp8Payload.ofCall call).elim trace.count (depacketizer.stampPayload call trace.count)

variable {depacketizer : RtpDepacketizerVp8} {call : ParseCall} {trace : PacketTrace}
  {payload : Vp8Payload}

theorem follow_of_carries (carries : Vp8Payload.ofCall call = some payload) (trace : PacketTrace) :
    follow depacketizer call trace = depacketizer.stampPayload call trace.count payload := by
  have occupied : call.packetLen ≠ 0 := by
    intro empty
    rw [Vp8Payload.ofCall_of_empty empty] at carries
    cases carries
  simp only [follow, if_neg occupied, carries, Option.elim_some]

/-- Everything a `parse` call can do under a trace. -/
inductive StampStep (depacketizer : RtpDepacketizerVp8) (call : ParseCall) (trace : PacketTrace) :
    ParseResult RtpDepacketizerVp8 → PacketTrace → Prop where
  | empty : StampStep depacketizer call trace ⟨.error, depacketizer, call.frame⟩ trace
  | refused {result : ParseResult RtpDepacketizerVp8}
      (same : PacketTraced.frame result.depacketizer = PacketTraced.frame depacketizer)
      (counted : result.depacketizer.packets = depacketizer.packets + 1)
      (silent : result.status ≠ .frame) : StampStep depacketizer call trace result trace.count
  | reset {result : ParseResult RtpDepacketizerVp8}
      (emptied : PacketTraced.frame result.depacketizer = [])
      (uncounted : result.depacketizer.packets = 0) (silent : result.status ≠ .frame) :
      StampStep depacketizer call trace result trace.count.reset
  | held (payload : Vp8Payload) (accepts : depacketizer.Accepts call payload) :
      StampStep depacketizer call trace ⟨.needMore, depacketizer.hold payload, call.frame⟩
        { trace.count with frame := trace.frame ++ stamp (some trace.number) payload.bytes }
  | delivered (payload : Vp8Payload) (accepts : depacketizer.Accepts call payload)
      (marked : call.marker = true) (passes : ¬ depacketizer.ShutBehind payload) :
      StampStep depacketizer call trace
        { status := .frame
          depacketizer := { depacketizer.hold payload with
            keyRequired := false, packets := 0, frameLen := 0 }
          frame := call.frame.map fun _ => (depacketizer.hold payload).closedFrame call }
        (trace.count.close (trace.frame ++ stamp (some trace.number) payload.bytes))

theorem stampStep_follow (depacketizer : RtpDepacketizerVp8) (call : ParseCall)
    (trace : PacketTrace) :
    StampStep depacketizer call trace (answer depacketizer call)
      (follow depacketizer call trace) := by
  -- a call without payload returns before it counts anything
  by_cases empty : call.packetLen = 0
  · have same : follow depacketizer call trace = trace := if_pos empty
    rw [answer_of_empty empty, same]
    exact .empty
  have step := step_answer depacketizer call
  generalize answer depacketizer call = result at step ⊢
  cases step with
  | empty none => exact absurd none empty
  | refused refused =>
    have counted : follow depacketizer call trace = trace.count := by
      simp only [follow, if_neg empty, refused, Option.elim_none]
    rw [counted]
    exact .refused rfl rfl nofun
  | shortKeyFrame payload carries short =>
    rw [follow_of_carries carries, stampPayload, if_pos short]
    exact .refused rfl rfl nofun
  | tooLarge payload carries whole tooLarge =>
    rw [follow_of_carries carries, stampPayload, if_neg whole, if_pos tooLarge]
    exact .reset rfl rfl nofun
  | held payload accepts unmarked =>
    rw [follow_of_carries accepts.carries, stampPayload, if_neg accepts.whole,
      if_neg (Nat.not_lt.mpr accepts.fits), if_pos unmarked]
    exact .held payload accepts
  | dropped payload accepts marked keyRequired notKey =>
    rw [follow_of_carries accepts.carries, stampPayload, if_neg accepts.whole,
      if_neg (Nat.not_lt.mpr accepts.fits), if_neg (by simp [marked]),
      if_pos (shutBehind_iff.mpr ⟨keyRequired, notKey⟩)]
    exact .reset rfl rfl nofun
  | delivered payload accepts marked passes =>
    have opens : ¬ depacketizer.ShutBehind payload := mt shutBehind_iff.mp (not_gated passes)
    rw [follow_of_carries accepts.carries, stampPayload, if_neg accepts.whole,
      if_neg (Nat.not_lt.mpr accepts.fits), if_neg (by simp [marked]), if_neg opens]
    exact .delivered payload accepts marked opens

theorem hold_bytes (describes : bytesOf trace.frame = PacketTraced.frame depacketizer)
    (payload : Vp8Payload) :
    bytesOf (trace.frame ++ stamp (some trace.number) payload.bytes) =
      (depacketizer.hold payload).frame.slice 0 (depacketizer.hold payload).frameLen := by
  rw [StampedByte.bytesOf_append, StampedByte.bytesOf_stamp, describes]
  exact (Memory.slice_write_append ..).symm

instance : LawfulPacketTraced RtpDepacketizerVp8 where
  parsed {trace depacketizer} call follows := by
    have step := stampStep_follow depacketizer call trace
    generalize answer depacketizer call = result at step ⊢
    generalize follow depacketizer call trace = followed at step ⊢
    cases step with
    | empty => exact follows.toDescribes
    | refused same counted silent =>
      exact ⟨follows.nalu, follows.frame.trans same.symm, follows.count_card.trans counted.symm⟩
    | reset emptied uncounted silent => exact ⟨rfl, emptied.symm, uncounted.symm⟩
    | held payload accepts =>
      exact ⟨follows.nalu, hold_bytes follows.frame payload, follows.count_card⟩
    | delivered payload accepts marked passes => exact ⟨rfl, rfl, rfl⟩
  counted {trace depacketizer} call _ := by
    have step := stampStep_follow depacketizer call trace
    generalize answer depacketizer call = result at step
    generalize follow depacketizer call trace = followed at step ⊢
    cases step with
    | empty => exact Finset.subset_insert ..
    | refused | held => exact Finset.Subset.refl _
    | reset | delivered => exact Finset.empty_subset _
  synced _ := ⟨rfl, rfl, rfl⟩
  delivered {trace depacketizer call frame bytes} follows delivered := by
    obtain ⟨status, handed, content⟩ := delivery_eq_some_iff.mp delivered
    have step := stampStep_follow depacketizer call trace
    generalize answer depacketizer call = result at step status handed content
    generalize follow depacketizer call trace = followed at step ⊢
    cases step with
    | empty | held => cases status
    | refused same counted silent => exact absurd status silent
    | reset emptied uncounted silent => exact absurd status silent
    | delivered payload accepts marked passes =>
      obtain ⟨_, _, rfl⟩ := Option.map_eq_some_iff.mp handed
      exact ⟨_, rfl, (hold_bytes follows.frame payload).trans content⟩

/-! ### The count of a frame -/

/-- Where a packet completes a frame, every packet that has been counted before is in it. -/
def CountedAreHeld (state : RtpDepacketizerVp8 × PacketTrace) (call : ParseCall) : Prop :=
  ∀ payload, state.1.Accepts call payload → call.marker = true → call.frame.isSome →
    ¬ state.1.ShutBehind payload → state.2.counted ⊆ bringers state.2.frame

theorem bringers_held (accepts : depacketizer.Accepts call payload) (trace : PacketTrace) :
    bringers (trace.frame ++ stamp (some trace.number) payload.bytes) =
      insert trace.number (bringers trace.frame) := by
  rw [StampedByte.bringers_append,
    StampedByte.bringers_stamp _ (Vp8Payload.bytes_ne_nil accepts.carries), Finset.union_comm,
    Finset.insert_eq]

/-- What is in `m_frame` has been counted. -/
theorem bringers_followCall (call : DepacketizerCall) (depacketizer : RtpDepacketizerVp8)
    (trace : PacketTrace) (counted : bringers trace.frame ⊆ trace.counted) :
    bringers (followCall call depacketizer trace).frame ⊆
      (followCall call depacketizer trace).counted := by
  cases call with
  | setSyncPoint => exact Finset.empty_subset _
  | parse call =>
    have step := stampStep_follow depacketizer call trace
    rw [followCall]
    dsimp only
    generalize answer depacketizer call = result at step
    generalize follow depacketizer call trace = followed at step ⊢
    cases step with
    | empty => exact counted
    | refused => exact counted.trans (Finset.subset_insert ..)
    | reset | delivered => exact Finset.empty_subset _
    | held payload accepts =>
      dsimp only
      rw [bringers_held accepts]
      exact Finset.insert_subset_insert _ counted

theorem follow_of_opens (accepts : depacketizer.Accepts call payload)
    (marked : call.marker = true) (passes : ¬ depacketizer.ShutBehind payload)
    (trace : PacketTrace) :
    follow depacketizer call trace =
      trace.count.close (trace.frame ++ stamp (some trace.number) payload.bytes) := by
  rw [follow_of_carries accepts.carries, stampPayload, if_neg accepts.whole,
    if_neg (Nat.not_lt.mpr accepts.fits), if_neg (by simp [marked]), if_neg passes]
  rfl

/-- The frame that a packet completes counts right exactly where nothing has been counted that is
not in it. -/
theorem held_card_iff (follows : trace.Follows depacketizer)
    (counted : bringers trace.frame ⊆ trace.counted)
    (accepts : depacketizer.Accepts call payload) :
    (depacketizer.hold payload).packets =
        (bringers (trace.frame ++ stamp (some trace.number) payload.bytes)).card ↔
      trace.counted ⊆ bringers trace.frame := by
  -- the packet is new both to the count and to the frame
  have fresh : trace.number ∉ bringers trace.frame := fun member =>
    Nat.lt_irrefl _ (follows.before _ (counted member))
  have packets : (depacketizer.hold payload).packets = trace.counted.card + 1 :=
    congrArg (· + 1) follows.packets.symm
  rw [bringers_held accepts, Finset.card_insert_of_notMem fresh, packets, Nat.add_right_cancel_iff]
  constructor
  · intro same
    exact (Finset.eq_of_subset_of_card_le counted (Nat.le_of_eq same)).symm.subset
  · intro held
    rw [held.antisymm counted]

theorem countIsExact_iff (call : ParseCall) (follows : trace.Follows depacketizer)
    (counted : bringers trace.frame ⊆ trace.counted) :
    CountIsExact (answer depacketizer call, follow depacketizer call trace) ↔
      CountedAreHeld (depacketizer, trace) call := by
  constructor
  · intro exact payload accepts marked given passes
    obtain ⟨bytes, delivered⟩ := delivery_of_passes accepts marked given passes
    obtain ⟨status, handed, -⟩ := delivery_eq_some_iff.mp delivered
    have closed : (follow depacketizer call trace).closed.head? =
        some (trace.frame ++ stamp (some trace.number) payload.bytes) := by
      rw [follow_of_opens accepts marked passes]
      rfl
    exact (held_card_iff follows counted accepts).mp (exact status _ handed _ closed)
  · intro held status frame handed stored isHead
    obtain ⟨payload, accepts, marked, given, passes, rfl⟩ :=
      of_delivery (delivery_eq_some_iff.mpr ⟨status, handed, rfl⟩)
    dsimp only at isHead
    rw [follow_of_opens accepts marked passes] at isHead
    cases isHead
    exact (held_card_iff follows counted accepts).mpr (held payload accepts marked given passes)

end RtpDepacketizerVp8

/-! ## Runs -/

/-- The counts of all frames are exact in a run if and only if every packet is in the frame it is
counted for; of H.264 runs this is said where no frame has bytes of a packet counted earlier. -/
theorem packetCounts_iff (nalu frame : Memory UInt8) (calls : List DepacketizerCall) :
    ((∀ past call after, calls = past ++ .parse call :: after →
        RtpDepacketizerH264.Decodes RtpDepacketizerH264.StoresCounted
          (traced (RtpDepacketizerH264.create nalu frame) past) call) →
      (PacketsAreExact (RtpDepacketizerH264.create nalu frame) calls ↔
        ∀ past call after, calls = past ++ .parse call :: after →
          RtpDepacketizerH264.Decodes RtpDepacketizerH264.CountedAreStored
            (traced (RtpDepacketizerH264.create nalu frame) past) call)) ∧
    (PacketsAreExact (RtpDepacketizerVp8.create frame) calls ↔
      ∀ past call after, calls = past ++ .parse call :: after →
        RtpDepacketizerVp8.CountedAreHeld
          (traced (RtpDepacketizerVp8.create frame) past) call) := by
  constructor
  · intro stores
    have exactly : PacketsAreExact (RtpDepacketizerH264.create nalu frame) calls ↔
        ∀ past call after, calls = past ++ .parse call :: after →
          RtpDepacketizerH264.Decodes RtpDepacketizerH264.CountsStored
            (traced (RtpDepacketizerH264.create nalu frame) past) call := by
      refine @packetsAreExact_iff _ _ _ _ (fun _ _ => True) _ (fun _ _ _ _ _ => trivial) ?_ _
        (PacketTrace.follows_begin rfl rfl rfl) trivial calls
      intro call depacketizer trace follows _
      exact RtpDepacketizerH264.countIsExact_iff follows call
    rw [exactly]
    refine forall_congr' fun past => forall_congr' fun call => forall₂_congr fun after split => ?_
    exact RtpDepacketizerH264.decodes_countsStored_iff (stores past call after split)
  · refine @packetsAreExact_iff _ _ _ _ (fun _ trace => bringers trace.frame ⊆ trace.counted) _
      ?_ ?_ _ (PacketTrace.follows_begin rfl rfl rfl) (Finset.empty_subset _) calls
    · intro call depacketizer trace _ counted
      exact RtpDepacketizerVp8.bringers_followCall call depacketizer trace counted
    · intro call depacketizer trace follows counted
      exact RtpDepacketizerVp8.countIsExact_iff call follows counted

def parameterSets : List DepacketizerCall :=
  [.parse (.ofPayload [0x67, 1] false 3000 96), .parse (.ofPayload [0x68, 2] true 3000 96)]

/-- An access unit of two packets counts two. -/
theorem packetCounts_parameterSets :
    PacketsAreExact (RtpDepacketizerH264.create (fun _ => 0) fun _ => 0) parameterSets :=
  ((packetCounts_iff _ _ _).1 (forall_parse_of_guarded (by decide +kernel))).mpr
    (forall_parse_of_guarded (by decide +kernel))

/-- A packet of a type that is not supported. -/
def unsupportedPacket : ParseCall := .ofPayload [0x1f, 7] false 3000 96

def parameterSet : ParseCall := .ofPayload [0x67, 1] true 3000 96

/-- A packet that ends with its descriptor. -/
def descriptorOnly : ParseCall := .ofPayload [0x10] false 3000 100

def tenByteKeyFrame : ParseCall :=
  .ofPayload [0x10, 0, 0, 0, 0, 0, 0, 16, 0, 16, 0] true 3000 100

theorem packetCounts_wrong :
    (¬ ∀ nalu frame calls, PacketsAreExact (RtpDepacketizerH264.create nalu frame) calls) ∧
      ¬ ∀ frame calls, PacketsAreExact (RtpDepacketizerVp8.create frame) calls := by
  constructor
  · intro every
    obtain ⟨stored, isHead, -, count⟩ := every (fun _ => 0) (fun _ => 0)
      [.parse unsupportedPacket, .parse parameterSet] [.parse unsupportedPacket] parameterSet [] rfl
      ⟨6, 3000, 0, 96, 2⟩ [0, 0, 0, 1, 0x67, 1] (by decide +kernel)
    have one : ∀ stored ∈ (traced (RtpDepacketizerH264.create (fun _ => 0) fun _ => 0)
        [.parse unsupportedPacket, .parse parameterSet]).2.closed.head?,
        (bringers stored).card = 1 := by
      decide +kernel
    rw [one stored isHead] at count
    exact absurd count (by decide)
  · intro every
    obtain ⟨stored, isHead, -, count⟩ := every (fun _ => 0)
      [.parse descriptorOnly, .parse tenByteKeyFrame] [.parse descriptorOnly] tenByteKeyFrame [] rfl
      ⟨10, 3000, frameIsSyncPoint, 100, 2⟩ [0, 0, 0, 0, 0, 0, 16, 0, 16, 0] (by decide +kernel)
    have one : ∀ stored ∈ (traced (RtpDepacketizerVp8.create fun _ => 0)
        [.parse descriptorOnly, .parse tenByteKeyFrame]).2.closed.head?,
        (bringers stored).card = 1 := by
      decide +kernel
    rw [one stored isHead] at count
    exact absurd count (by decide)

end RtpPlayer
