import RtpPlayer.Depacketizers.NaluHistory
import RtpPlayer.Depacketizers.Vp8FrameStarts

/-! # Sync-point flags

An H.264 frame gets its flag from the NALU that completes it alone, a VP8 frame from `m_frame_type`,
whichever packet wrote it last.  The flag is right where the IDR NALUs of a frame come last in it,
and where no packet writes or keeps a type for a frame that is not its own. -/

namespace RtpPlayer

open Foundations
open RtpDepacketizer

def MediaFrame.IsSyncPoint (frame : MediaFrame) : Prop := frame.flags &&& frameIsSyncPoint ≠ 0

instance (frame : MediaFrame) : Decidable frame.IsSyncPoint := inferInstanceAs (Decidable (_ ≠ _))

/-! ## H.264 -/

namespace FramePiece

open RtpDepacketizerH264 (packetType idrType)

/-- Among the first `len` bytes is the header of an IDR NALU, right behind a start code. -/
def HoldIdr : List FramePiece → Nat → Prop
  | [], _ => False
  | piece :: pieces, len =>
    (piece.part = .startcode ∧ (∃ header ∈ (bytesOf pieces).head?, packetType header = idrType) ∧
      piece.bytes.length < len) ∨ HoldIdr pieces (len - piece.bytes.length)

/-- The header of the NALU that the pieces make up: a start code, and behind it bytes of packets of
the NALU alone. -/
def ownHeader : List FramePiece → Option UInt8
  | [] => none
  | start :: rest =>
    if start.part = .startcode ∧ start.bytes = NaluOperation.startcode ∧
        ∀ piece ∈ rest, piece.part ≠ .startcode then
      (bytesOf rest).head?
    else none

instance decidableHoldIdr : ∀ (pieces : List FramePiece) (len : Nat), Decidable (HoldIdr pieces len)
  | [], _ => .isFalse id
  | piece :: pieces, len =>
    have := decidableHoldIdr pieces (len - piece.bytes.length)
    inferInstanceAs (Decidable (_ ∨ _))

theorem of_ownHeader {pieces : List FramePiece} {header : UInt8}
    (own : ownHeader pieces = some header) :
    ∃ start rest, pieces = start :: rest ∧ start.part = .startcode ∧
      start.bytes = NaluOperation.startcode ∧ (∀ piece ∈ rest, piece.part ≠ .startcode) ∧
        (bytesOf rest).head? = some header := by
  cases pieces with
  | nil => cases own
  | cons start rest =>
    rw [ownHeader] at own
    split at own
    next alone => exact ⟨start, rest, rfl, alone.1, alone.2.1, alone.2.2, own⟩
    next => cases own

theorem bytesOf_of_ownHeader {pieces : List FramePiece} {header : UInt8}
    (own : ownHeader pieces = some header) :
    ∃ body, bytesOf pieces = NaluOperation.startcode ++ header :: body := by
  obtain ⟨start, rest, rfl, -, code, -, headed⟩ := of_ownHeader own
  obtain ⟨body, same⟩ := List.head?_eq_some_iff.mp headed
  refine ⟨body, ?_⟩
  rw [← same, ← code]
  exact List.flatMap_cons

/-- What a packet continues has no header of its own. -/
theorem not_holdIdr_of_continued {pieces : List FramePiece}
    (continued : ∀ piece ∈ pieces, piece.part ≠ .startcode) (len : Nat) : ¬ HoldIdr pieces len := by
  induction pieces generalizing len with
  | nil => exact id
  | cons piece pieces ih =>
    rw [List.forall_mem_cons] at continued
    rintro (⟨started, -⟩ | later)
    · exact continued.1 started
    · exact ih continued.2 _ later

theorem holdIdr_iff_of_ownHeader {pieces : List FramePiece} {header : UInt8}
    (own : ownHeader pieces = some header) (len : Nat) :
    HoldIdr pieces len ↔
      packetType header = idrType ∧ RtpDepacketizerH264.startcodeLength < len := by
  obtain ⟨start, rest, rfl, started, code, continued, headed⟩ := of_ownHeader own
  have later := not_holdIdr_of_continued continued (len - start.bytes.length)
  rw [HoldIdr, or_iff_left later, and_iff_right started, code, headed]
  simp [NaluOperation.startcode, RtpDepacketizerH264.startcodeLength]

/-- A NALU behind others begins with a start code, so the others hold what they held. -/
theorem holdIdr_append {pieces : List FramePiece} {header : UInt8}
    (own : ownHeader pieces = some header) (earlier : List FramePiece) (len : Nat) :
    HoldIdr (earlier ++ pieces) ((bytesOf earlier).length + len) ↔
      HoldIdr earlier (bytesOf earlier).length ∨ HoldIdr pieces len := by
  induction earlier with
  | nil => simp [HoldIdr, bytesOf]
  | cons piece earlier ih =>
    have length : (bytesOf (piece :: earlier)).length =
        piece.bytes.length + (bytesOf earlier).length := by
      simp [bytesOf]
    have heads : (∃ header ∈ (bytesOf (earlier ++ pieces)).head?, packetType header = idrType) ↔
        ∃ header ∈ (bytesOf earlier).head?, packetType header = idrType := by
      obtain ⟨body, bytes⟩ := bytesOf_of_ownHeader own
      have both : bytesOf (earlier ++ pieces) = bytesOf earlier ++ bytesOf pieces :=
        List.flatMap_append
      rw [both, bytes]
      cases bytesOf earlier with
      | nil => exact iff_of_false (by simp [NaluOperation.startcode]; decide) (by simp)
      | cons first rest => rfl
    have room : (∃ header ∈ (bytesOf earlier).head?, packetType header = idrType) →
        0 < (bytesOf earlier).length := by
      rintro ⟨header, isHead, -⟩
      exact List.length_pos_of_mem (List.mem_of_mem_head? isHead)
    have rest : piece.bytes.length + (bytesOf earlier).length + len - piece.bytes.length =
        (bytesOf earlier).length + len := by
      omega
    rw [List.cons_append, HoldIdr, HoldIdr, heads, length, rest, ih, Nat.add_sub_cancel_left,
      or_assoc]
    refine or_congr_left (and_congr_right fun _ => and_congr_right fun idr => ?_)
    have := room idr
    exact iff_of_true (by omega) (by omega)

end FramePiece

namespace NaluHistory

open RtpDepacketizerH264 (packetType idrType startcodeLength HandsOut OnLastDecode
  execute_ofPacket_iff naluStep_perform)
open FramePiece (HoldIdr ownHeader)

/-- A frame that the call delivers is marked as a sync point exactly where it holds an IDR NALU. -/
def FlagIsTrue (history : NaluHistory) (call : ParseCall) : Prop :=
  ∀ frame bytes, delivery (RtpDepacketizer.answer history.depacketizer call) = some (frame, bytes) →
    ∃ closed ∈ (history.answer call).trace.closed.head?,
      bytes <+: FramePiece.bytesOf closed.flatten ∧
        (frame.IsSyncPoint ↔ HoldIdr closed.flatten frame.len)

/-- The NALU that completes a frame is alone in `m_nalu`, with its start code and its header: no
fragment has come without the start of its NALU, no NALU on top of an unfinished one, and no entry
of a STAP-A packet is empty. -/
def ClosesAlone (last : Bool) (traced : TracedResult) : Prop :=
  HandsOut last traced.result → (ownHeader traced.trace.pieces).isSome = true

/-- An IDR NALU is in the frame before. -/
def HasIdr (traced : TracedResult) : Prop :=
  HoldIdr traced.trace.nalus.flatten traced.result.depacketizer.frameLen

/-- Where an IDR NALU is in the frame, an IDR NALU completes it; and one that completes the frame
has room for its header there. -/
def IdrCloses (last : Bool) (traced : TracedResult) : Prop :=
  HandsOut last traced.result → ∀ header ∈ ownHeader traced.trace.pieces,
    (HasIdr traced → packetType header = idrType) ∧
      (packetType header = idrType → HasIdr traced ∨
        traced.result.depacketizer.frameLen + startcodeLength < maxEsFrameSize)

instance (last : Bool) (traced : TracedResult) : Decidable (ClosesAlone last traced) :=
  inferInstanceAs (Decidable (_ → _))

instance (traced : TracedResult) : Decidable (HasIdr traced) :=
  FramePiece.decidableHoldIdr ..

instance (last : Bool) (traced : TracedResult) : Decidable (IdrCloses last traced) :=
  inferInstanceAs (Decidable (_ → _))

/-- The byte in `m_nalu` that tells the flag is that of an IDR NALU exactly where the frame that is
completed holds one. -/
def TypeIsTrue (last : Bool) (traced : TracedResult) : Prop :=
  HandsOut last traced.result → (traced.result.depacketizer.naluType = idrType ↔
    HoldIdr (traced.trace.nalus ++ [traced.trace.pieces]).flatten
      (traced.result.depacketizer.frameLen + traced.result.depacketizer.storedLen))

/-- What `FlagIsTrue` says of a packet's script. -/
def FlagIsTrueOf (traced : TracedResult) : Prop :=
  traced.result.status = .frame → ∀ frame ∈ traced.result.frame,
    ∃ closed ∈ traced.trace.closed.head?, (frame.IsSyncPoint ↔ HoldIdr closed.flatten frame.len)

theorem closedFrame_isSyncPoint (depacketizer : RtpDepacketizerH264) (call : ParseCall) :
    (depacketizer.closedFrame call).IsSyncPoint ↔ depacketizer.naluType = idrType := by
  rw [MediaFrame.IsSyncPoint, RtpDepacketizerH264.closedFrame, RtpDepacketizerH264.closingFlags]
  split_ifs <;> simp_all [frameIsIncomplete, frameIsSyncPoint]

variable {call : ParseCall} {traced : TracedResult}

theorem flagIsTrueOf_of_silent (silent : traced.result.status ≠ .frame) : FlagIsTrueOf traced :=
  fun delivers => absurd delivers silent

theorem flagIsTrueOf_decode (last : Bool) :
    FlagIsTrueOf (Script.after (traced.perform call (.decode last))) ↔
      TypeIsTrue last traced := by
  obtain ⟨result, trace⟩ := traced
  rw [TracedResult.after_perform]
  have step := naluStep_perform call (.decode last) result
  dsimp only at step ⊢
  generalize RtpDepacketizerH264.perform call (.decode last) result = outcome at step ⊢
  cases step with
  | nothing last empty =>
    refine iff_of_true (flagIsTrueOf_of_silent (by simp)) ?_
    intro handsOut
    exact absurd empty handsOut.1
  | rejected last occupied rejected =>
    refine iff_of_true (flagIsTrueOf_of_silent (by simp)) ?_
    intro handsOut
    exact absurd handsOut.2.1 rejected
  | stored last occupied admits remains =>
    refine iff_of_true (flagIsTrueOf_of_silent (by simp)) ?_
    intro handsOut
    cases remains.symm.trans handsOut.2.2.1
  | closed last occupied admits closing =>
    -- the flag is that of this NALU, and the frame is all of them
    rw [NaluTrace.after, if_neg (by tauto), if_pos closing]
    have len : (result.depacketizer.closedFrame call).len =
        result.depacketizer.frameLen + result.depacketizer.storedLen := by
      rw [RtpDepacketizerH264.closedFrame, RtpDepacketizerH264.store_eq]
    constructor
    · intro flag handsOut
      obtain ⟨out, given⟩ := Option.isSome_iff_exists.mp handsOut.2.2.2
      obtain ⟨frames, isHead, tells⟩ := flag rfl _ (Option.map_eq_some_iff.mpr ⟨out, given, rfl⟩)
      cases isHead
      rw [closedFrame_isSyncPoint, len] at tells
      exact tells
    · intro holds _ frame handed
      obtain ⟨out, given, rfl⟩ := Option.map_eq_some_iff.mp handed
      refine ⟨_, rfl, ?_⟩
      rw [closedFrame_isSyncPoint, len]
      exact holds ⟨occupied, admits, closing, by simp [given]⟩

theorem flagIsTrueOf_append (part : NaluPart) (bytes : List UInt8) (flag : FlagIsTrueOf traced) :
    FlagIsTrueOf (Script.after (traced.perform call (.append part bytes))) := by
  obtain ⟨result, trace⟩ := traced
  rw [TracedResult.after_perform]
  have step := naluStep_perform call (.append part bytes) result
  dsimp only at step ⊢
  generalize RtpDepacketizerH264.perform call (.append part bytes) result = outcome at step ⊢
  cases step with
  | appended part bytes fits =>
    rw [NaluTrace.after, if_pos fits]
    exact flag
  | overflowed => exact flagIsTrueOf_of_silent (by simp)

/-- The last decode of the packet meets the condition. -/
def Decodes (condition : Bool → TracedResult → Prop) (history : NaluHistory) (call : ParseCall) :
    Prop :=
  Script.Guarded (TracedResult.perform call) (OnLastDecode condition)
    (NaluOperation.ofPacket call.payload call.marker)
    ⟨history.depacketizer.beginPacket call, history.trace⟩

instance (condition : Bool → TracedResult → Prop) [∀ last traced, Decidable (condition last traced)]
    (history : NaluHistory) (call : ParseCall) : Decidable (history.Decodes condition call) :=
  inferInstanceAs (Decidable (Script.Guarded ..))

theorem Tracks.flagIsTrue_iff {history : NaluHistory} (tracks : history.Tracks) (call : ParseCall) :
    history.FlagIsTrue call ↔ history.Decodes TypeIsTrue call := by
  -- only the last decode of a packet can hand out a frame
  have script : FlagIsTrueOf (history.answer call) ↔ history.Decodes TypeIsTrue call := by
    rw [NaluHistory.answer, Decodes]
    by_cases empty : call.payload = []
    · rw [if_pos empty, empty]
      exact iff_of_true (flagIsTrueOf_of_silent (by simp)) trivial
    · rw [if_neg empty]
      refine execute_ofPacket_iff (fun _ _ _ _ _ => trivial) ?_
        (fun part bytes _ => flagIsTrueOf_append part bytes) ?_
        (fun last _ _ => flagIsTrueOf_decode last) _ _ trivial ?_
      · -- what ends the packet early is an error
        intro operation state final ended
        have agrees := state.perform_agrees call operation
        rw [ended] at agrees
        cases outcome : RtpDepacketizerH264.perform call operation state.result with
        | ok next =>
          rw [outcome] at agrees
          exact agrees.elim
        | error result =>
          rw [outcome] at agrees
          obtain rfl : final.result = result := agrees
          refine flagIsTrueOf_of_silent ?_
          rw [RtpDepacketizerH264.status_of_error outcome]
          decide
      · intro state
        refine flagIsTrueOf_of_silent ?_
        rw [TracedResult.after_perform]
        simp [RtpDepacketizerH264.perform, RtpDepacketizerH264.fail]
      · exact flagIsTrueOf_of_silent (by simp [RtpDepacketizerH264.beginPacket])
  rw [← script, FlagIsTrue, FlagIsTrueOf, answer_result]
  constructor
  · -- what is delivered and what the trace closes are one frame
    intro flag status frame handed
    obtain ⟨closed, isHead, -, tells⟩ :=
      flag frame _ (delivery_eq_some_iff.mpr ⟨status, handed, rfl⟩)
    exact ⟨closed, isHead, tells⟩
  · intro flag frame bytes delivered
    obtain ⟨-, closed, isHead, consists⟩ := tracks.delivery delivered
    obtain ⟨status, handed, -⟩ := delivery_eq_some_iff.mp delivered
    obtain ⟨other, same, tells⟩ := flag status frame handed
    obtain rfl := Option.some.inj (isHead.symm.trans same)
    exact ⟨closed, isHead, consists, tells⟩

/-- The type of a NALU that is alone in `m_nalu` is that of its own header. -/
theorem typeIsTrue_iff {last : Bool} (tracks : traced.Tracks call)
    (alone : ClosesAlone last traced) : TypeIsTrue last traced ↔ IdrCloses last traced := by
  refine forall_congr' fun handsOut => ?_
  obtain ⟨header, own⟩ := Option.isSome_iff_exists.mp (alone handsOut)
  obtain ⟨body, bytes⟩ := FramePiece.bytesOf_of_ownHeader own
  obtain ⟨naluLen, nalu, frameLen, -⟩ := tracks.describes
  have type : traced.result.depacketizer.naluType = packetType header := by
    have read : traced.result.depacketizer.nalu startcodeLength = header :=
      Memory.apply_of_getElem? nalu (by rw [bytes]; rfl)
    rw [RtpDepacketizerH264.naluType, read]
  have room : startcodeLength < traced.result.depacketizer.storedLen ↔
      traced.result.depacketizer.frameLen + startcodeLength < maxEsFrameSize := by
    rw [bytes] at naluLen
    simp only [NaluOperation.startcode, List.length_append, List.length_cons, List.length_nil]
      at naluLen
    rw [RtpDepacketizerH264.storedLen, naluLen, startcodeLength]
    omega
  have holds : HoldIdr (traced.trace.nalus ++ [traced.trace.pieces]).flatten
        (traced.result.depacketizer.frameLen + traced.result.depacketizer.storedLen) ↔
      HasIdr traced ∨ packetType header = idrType ∧
        traced.result.depacketizer.frameLen + startcodeLength < maxEsFrameSize := by
    rw [List.flatten_append, List.flatten_singleton, HasIdr, frameLen,
      FramePiece.holdIdr_append own, FramePiece.holdIdr_iff_of_ownHeader own, room, frameLen]
  rw [type, holds]
  simp only [Option.mem_def, own, Option.some.injEq, forall_eq']
  tauto

theorem Tracks.decodes_typeIsTrue_iff {history : NaluHistory} (tracks : history.Tracks)
    {call : ParseCall} (alone : history.Decodes ClosesAlone call) :
    history.Decodes TypeIsTrue call ↔ history.Decodes IdrCloses call := by
  refine @Script.guarded_congr _ _ _ _ _ _ (TracedResult.Tracks call) ?_ ?_ _ _
    (tracks.beginPacket call) alone
  · intro operation state next holds continues
    have kept := holds.after operation
    rw [continues] at kept
    exact kept
  · intro operation later state holds
    exact RtpDepacketizerH264.onLastDecode_congr fun last => typeIsTrue_iff holds

end NaluHistory

/-! ## VP8 -/

namespace RtpDepacketizerVp8

theorem closedFrame_isSyncPoint (depacketizer : RtpDepacketizerVp8) (call : ParseCall) :
    (depacketizer.closedFrame call).IsSyncPoint ↔ depacketizer.frameType = .videoFrameKey := by
  rw [MediaFrame.IsSyncPoint, closedFrame]
  split_ifs with key <;> simp [key, frameIsSyncPoint]

/-- The type that the packet writes or keeps is that of its own frame: with S = 1 and PartID = 0 it
begins a frame or has the type of the one in `m_frame`, and without them it begins no frame while
`m_frame_type` says key frame. -/
def WritesOwnType (depacketizer : RtpDepacketizerVp8) (payload : Vp8Payload) : Prop :=
  if payload.isFirst then
    depacketizer.frameLen ≠ 0 →
      (payload.BeginsKeyFrame ↔ depacketizer.frameType = .videoFrameKey)
  else depacketizer.frameLen = 0 → depacketizer.frameType ≠ .videoFrameKey

instance (depacketizer : RtpDepacketizerVp8) (payload : Vp8Payload) :
    Decidable (depacketizer.WritesOwnType payload) :=
  inferInstanceAs (Decidable (ite _ _ _))

/-- A packet that is accepted, or refused as a short key frame, writes the type of its own frame. -/
def MeetsFrameType (depacketizer : RtpDepacketizerVp8) : DepacketizerCall → Prop
  | .setSyncPoint => True
  | .parse call => ∀ payload, Vp8Payload.ofCall call = some payload →
      payload.ShortKeyFrame ∨ depacketizer.Accepts call payload →
        depacketizer.WritesOwnType payload

instance (depacketizer : RtpDepacketizerVp8) : DecidablePred depacketizer.MeetsFrameType
  | .setSyncPoint => .isTrue trivial
  | .parse call => Vp8Payload.decidableForallPayload call _

end RtpDepacketizerVp8

namespace Vp8History

open RtpDepacketizerVp8 (step_answer)

/-- A frame that the call delivers is marked as a sync point exactly where its first packet has
S = 1 and PartID = 0 and its first payload byte a clear P bit. -/
def FlagIsTrue (history : Vp8History) (call : ParseCall) : Prop :=
  ∀ frame bytes, delivery (answer history.depacketizer call) = some (frame, bytes) →
    bytes = (history.delivers call).flatMap Vp8Payload.bytesOf ∧
      (frame.IsSyncPoint ↔ ∃ head ∈ (history.delivers call).head?, Vp8Payload.StartsKeyFrame head)

/-- `m_frame_type` says key frame exactly where the first packet in `m_frame` starts one. -/
structure TypeOfHead (history : Vp8History) : Prop where
  tracks : history.Tracks
  type : ∀ head ∈ history.held.head?,
    (history.depacketizer.frameType = .videoFrameKey ↔ Vp8Payload.StartsKeyFrame head)

theorem typeOfHead_of_nothing {depacketizer : RtpDepacketizerVp8}
    (empty : depacketizer.frameLen = 0) : (begin depacketizer).TypeOfHead :=
  ⟨tracks_begin empty, nofun⟩

variable {history : Vp8History} {call : ParseCall} {payload : Vp8Payload}

theorem TypeOfHead.hold (holds : history.TypeOfHead)
    (accepts : history.depacketizer.Accepts call payload)
    (own : history.depacketizer.WritesOwnType payload) :
    ∃ head, (history.held ++ [call]).head? = some head ∧
      ((history.depacketizer.hold payload).frameType = .videoFrameKey ↔
        Vp8Payload.StartsKeyFrame head) := by
  rw [RtpDepacketizerVp8.hold_key_iff]
  cases held : history.held with
  | nil =>
    have empty := holds.tracks.held_eq_nil_iff.mp held
    refine ⟨call, rfl, ?_⟩
    rw [Vp8Payload.startsKeyFrame_iff accepts.carries]
    split
    next first => rfl
    next continued =>
      rw [RtpDepacketizerVp8.WritesOwnType, if_neg continued] at own
      refine iff_of_false (own empty) fun begins => continued ?_
      exact ((Vp8Payload.beginsKeyFrame_iff payload).mp begins).1
  | cons head rest =>
    have occupied : history.depacketizer.frameLen ≠ 0 := by
      rw [Ne, ← holds.tracks.held_eq_nil_iff, held]
      exact List.cons_ne_nil head rest
    have type := holds.type head (by rw [held]; rfl)
    refine ⟨head, rfl, ?_⟩
    split
    next first =>
      rw [RtpDepacketizerVp8.WritesOwnType, if_pos first] at own
      exact (own occupied).trans type
    next continued => exact type

theorem TypeOfHead.next (holds : history.TypeOfHead) (input : DepacketizerCall)
    (meets : history.depacketizer.MeetsFrameType input) : (history.next input).TypeOfHead := by
  refine ⟨holds.tracks.next input, ?_⟩
  cases input with
  | setSyncPoint =>
    intro head isHead
    cases isHead
  | parse call =>
    have step := step_answer history.depacketizer call
    rw [Vp8History.next]
    generalize answer history.depacketizer call = result at step ⊢
    cases step with
    | empty | refused =>
      rw [holds.tracks.heldAfter_of_error rfl rfl]
      exact holds.type
    | shortKeyFrame payload carries short =>
      rw [holds.tracks.heldAfter_of_error rfl rfl]
      intro head isHead
      -- the frame in the buffer, if there is one, is a key frame too
      have occupied : history.depacketizer.frameLen ≠ 0 := by
        rw [Ne, ← holds.tracks.held_eq_nil_iff]
        exact List.ne_nil_of_mem (List.mem_of_mem_head? isHead)
      have own := meets payload carries (.inl short)
      rw [RtpDepacketizerVp8.WritesOwnType,
        if_pos ((Vp8Payload.beginsKeyFrame_iff payload).mp short.1).1] at own
      exact iff_of_true rfl ((holds.type head isHead).mp ((own occupied).mp short.1))
    | tooLarge | dropped | delivered =>
      intro head isHead
      cases isHead
    | held payload accepts unmarked =>
      rw [heldAfter_of_held accepts]
      obtain ⟨head, isHead, type⟩ :=
        holds.hold accepts (meets payload accepts.carries (.inr accepts))
      intro other same
      obtain rfl := Option.some.inj (isHead.symm.trans same)
      exact type

theorem TypeOfHead.flagIsTrue (holds : history.TypeOfHead)
    (meets : history.depacketizer.MeetsFrameType (.parse call)) : history.FlagIsTrue call := by
  intro frame bytes delivered
  obtain ⟨-, consists, -⟩ := holds.tracks.delivery delivered
  obtain ⟨payload, accepts, marked, given, passes, rfl⟩ :=
    RtpDepacketizerVp8.of_delivery delivered
  obtain ⟨head, isHead, type⟩ := holds.hold accepts (meets payload accepts.carries (.inr accepts))
  refine ⟨consists, ?_⟩
  rw [RtpDepacketizerVp8.closedFrame_isSyncPoint, type, delivers, isHead]
  simp

end Vp8History

/-! ## Runs -/

/-- All frames that the calls deliver have a true flag, from whatever the buffers hold at first. -/
def RtpDepacketizerH264.FlagsAreTrue (nalu frame : Memory UInt8) (calls : List DepacketizerCall) :
    Prop :=
  ∀ past call after, calls = past ++ .parse call :: after →
    (NaluHistory.machine.run (.begin (.create nalu frame)) past).FlagIsTrue call

def RtpDepacketizerVp8.FlagsAreTrue (frame : Memory UInt8) (calls : List DepacketizerCall) : Prop :=
  ∀ past call after, calls = past ++ .parse call :: after →
    (Vp8History.machine.run (.begin (.create frame)) past).FlagIsTrue call

/-- Of VP8 runs, those are good in which every packet writes the type of its own frame; of H.264
runs in which frames are completed by NALUs that are alone in `m_nalu`, exactly those in which a
frame with an IDR NALU is completed by one. -/
theorem syncPointFlags_true (nalu frame : Memory UInt8) (calls : List DepacketizerCall) :
    ((∀ past call after, calls = past ++ .parse call :: after →
        (NaluHistory.machine.run (.begin (.create nalu frame)) past).Decodes
          NaluHistory.ClosesAlone call) →
      (RtpDepacketizerH264.FlagsAreTrue nalu frame calls ↔
        ∀ past call after, calls = past ++ .parse call :: after →
          (NaluHistory.machine.run (.begin (.create nalu frame)) past).Decodes
            NaluHistory.IdrCloses call)) ∧
    ((machine _).Guarded RtpDepacketizerVp8.MeetsFrameType (.create frame) calls →
      RtpDepacketizerVp8.FlagsAreTrue frame calls) := by
  constructor
  · intro alone
    refine forall_congr' fun past => forall_congr' fun call => forall₂_congr fun after split => ?_
    have tracks : (NaluHistory.machine.run (.begin (.create nalu frame)) past).Tracks :=
      (NaluHistory.tracks_begin rfl rfl).run past
    rw [tracks.flagIsTrue_iff, tracks.decodes_typeIsTrue_iff (alone past call after split)]
  · rintro meets past call after rfl
    obtain ⟨meetsBefore, meetsCall, -⟩ := ((machine _).guarded_append ..).mp meets
    have holds : (Vp8History.machine.run (.begin (.create frame)) past).TypeOfHead :=
      Vp8History.machine.run_invariant_of_guarded (fun _ input holds meets => holds.next input meets)
        (Vp8History.typeOfHead_of_nothing rfl) (Vp8History.projects.guarded meetsBefore)
    rw [← Vp8History.run_begin] at meetsCall
    exact holds.flagIsTrue meetsCall

/-- SPS, PPS and an IDR slice, each in its own packet. -/
def idrPackets : List DepacketizerCall :=
  [[0x67], [0x68], [0x65]].map fun nalu => .parse (.ofPayload nalu false 3000 96)

/-- The IDR slice comes last, and behind a VP8 key frame a frame that is none. -/
theorem syncPointFlags_true_sample :
    RtpDepacketizerH264.FlagsAreTrue (fun _ => 0) (fun _ => 0)
        [.parse (.ofPayload [0x67] false 3000 96), .parse (.ofPayload [0x68] false 3000 96),
          .parse (.ofPayload [0x65] true 3000 96)] ∧
      RtpDepacketizerVp8.FlagsAreTrue (fun _ => 0)
        [.parse (.ofPayload [0x10, 0x10, 0, 0, 0x9d, 1, 0x2a, 0x80, 2, 0xe0, 1] true 0 100),
          .parse (.ofPayload [0x10, 0x11] false 3000 100),
          .parse (.ofPayload [0x00, 7, 8] true 3000 100)] :=
  ⟨((syncPointFlags_true _ (fun _ => 0) _).1 (forall_parse_of_guarded (by decide +kernel))).mpr
      (forall_parse_of_guarded (by decide +kernel)),
    (syncPointFlags_true (fun _ => 0) _ _).2 (by decide +kernel)⟩

/-- The end of the sequence, in the same access unit. -/
def endOfSequence : ParseCall := .ofPayload [0x0a] true 3000 96

/-- A key frame that is too short. -/
def shortKeyFrame : ParseCall := .ofPayload [0x10, 0x10, 0, 0] false 3000 100

/-- The last packet of a frame of which the others are lost. -/
def lastPacket : ParseCall := .ofPayload [0x00, 7, 8] true 6000 100

theorem syncPointFlags_wrong :
    (¬ ∀ nalu frame calls, RtpDepacketizerH264.FlagsAreTrue nalu frame calls) ∧
      ¬ ∀ frame calls, RtpDepacketizerVp8.FlagsAreTrue frame calls := by
  constructor
  · intro every
    have flag := every (fun _ => 0) (fun _ => 0) (idrPackets ++ [.parse endOfSequence]) idrPackets
      endOfSequence [] rfl
    obtain ⟨closed, isHead, -, tells⟩ := flag ⟨20, 3000, 0, 96, 4⟩
      [0, 0, 0, 1, 0x67, 0, 0, 0, 1, 0x68, 0, 0, 0, 1, 0x65, 0, 0, 0, 1, 0x0a] (by decide +kernel)
    have holds : ∀ closed ∈ ((NaluHistory.machine.run (.begin (.create (fun _ => 0) fun _ => 0))
        idrPackets).answer endOfSequence).trace.closed.head?,
        FramePiece.HoldIdr closed.flatten 20 := by
      decide +kernel
    exact absurd (tells.mpr (holds closed isHead)) (by decide)
  · intro every
    have flag := every (fun _ => 0) [.parse shortKeyFrame, .parse lastPacket] [.parse shortKeyFrame]
      lastPacket [] rfl
    obtain ⟨-, tells⟩ := flag ⟨2, 6000, frameIsSyncPoint, 100, 2⟩ [7, 8] (by decide +kernel)
    obtain ⟨head, begins, key⟩ := tells.mp (by decide)
    -- nothing is held of the packet that was refused
    have tracks : (Vp8History.machine.run (.begin (.create fun _ => 0))
        [.parse shortKeyFrame]).Tracks :=
      (Vp8History.tracks_begin rfl).run _
    rw [Vp8History.delivers, tracks.held_eq_nil_iff.mpr (by decide +kernel)] at begins
    obtain rfl : lastPacket = head := Option.some.inj begins
    have continued : Vp8Payload.ofCall lastPacket = some ⟨false, [7, 8]⟩ := by decide +kernel
    rw [Vp8Payload.startsKeyFrame_iff continued] at key
    exact absurd key (by decide)

end RtpPlayer
