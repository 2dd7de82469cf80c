import RtpPlayer.Depacketizers.NaluSteps

/-! # Where the bytes of an H.264 frame come from

A depacketizer run beside a trace of the blocks its packets have put into `m_nalu` and of the NALUs
that have gone from there to `m_frame`.  The trace never influences the depacketizer; it says of
every byte which `parse` call brought it and in which NALU it went. -/

namespace RtpPlayer

open Foundations
open RtpDepacketizer
open RtpDepacketizerH264 (NaluStep naluStep_perform)

/-- A block of bytes and the packet it was made from. -/
structure FramePiece where
  part : NaluPart
  bytes : List UInt8
  call : ParseCall

def FramePiece.bytesOf (pieces : List FramePiece) : List UInt8 := pieces.flatMap FramePiece.bytes

/-- The pieces in `m_nalu`, the NALUs in `m_frame` and the frames closed so far, the last first. -/
structure NaluTrace where
  pieces : List FramePiece
  nalus : List (List FramePiece)
  closed : List (List (List FramePiece))

namespace NaluTrace

/-- The trace after an operation for the packet of `call`. -/
def after (trace : NaluTrace) (call : ParseCall) (depacketizer : RtpDepacketizerH264) :
    NaluOperation → NaluTrace
  | .append part bytes =>
    if depacketizer.naluLen + bytes.length ≤ maxEsFrameSize then
      { trace with pieces := trace.pieces ++ [⟨part, bytes, call⟩] }
    else
      -- too large for `m_nalu`: what is in `m_frame` goes with it
      { trace with pieces := [], nalus := [] }
  | .decode last =>
    if depacketizer.naluLen = 0 ∨ ¬ depacketizer.Admits then
      { trace with pieces := [] }
    else if depacketizer.closes last then
      ⟨[], [], (trace.nalus ++ [trace.pieces]) :: trace.closed⟩
    else
      { trace with pieces := [], nalus := trace.nalus ++ [trace.pieces] }
  | .fail => { trace with pieces := [] }

/-- The trace names what is in the buffers. -/
structure Describes (trace : NaluTrace) (depacketizer : RtpDepacketizerH264) : Prop where
  naluLen : depacketizer.naluLen = (FramePiece.bytesOf trace.pieces).length
  nalu : depacketizer.nalu.slice 0 (FramePiece.bytesOf trace.pieces).length =
    FramePiece.bytesOf trace.pieces
  frameLen : depacketizer.frameLen = (FramePiece.bytesOf trace.nalus.flatten).length
  frame : depacketizer.frame.slice 0 (FramePiece.bytesOf trace.nalus.flatten).length =
    FramePiece.bytesOf trace.nalus.flatten

/-- The NALUs the trace knows of all have the property. -/
structure Every (property : List FramePiece → Prop) (trace : NaluTrace) : Prop where
  pieces : property trace.pieces
  nalus : ∀ nalu ∈ trace.nalus, property nalu
  closed : ∀ frame ∈ trace.closed, ∀ nalu ∈ frame, property nalu

variable {trace : NaluTrace} {depacketizer : RtpDepacketizerH264}
  {property : List FramePiece → Prop}

theorem Every.dropNalu (every : trace.Every property) (nothing : property []) :
    { trace with pieces := [] }.Every property :=
  ⟨nothing, every.nalus, every.closed⟩

theorem Every.stored (every : trace.Every property) :
    ∀ nalu ∈ trace.nalus ++ [trace.pieces], property nalu := by
  intro nalu member
  rcases List.mem_append.mp member with before | last
  · exact every.nalus nalu before
  · rw [List.mem_singleton.mp last]
    exact every.pieces

/-- A property of nothing that the appended piece keeps is kept. -/
theorem Every.after (every : trace.Every property) (nothing : property []) {call : ParseCall}
    (operation : NaluOperation)
    (appended : ∀ part bytes, operation = .append part bytes →
      property (trace.pieces ++ [⟨part, bytes, call⟩])) :
    (trace.after call depacketizer operation).Every property := by
  cases operation with
  | append part bytes =>
    rw [NaluTrace.after]
    split
    next fits => exact ⟨appended part bytes rfl, every.nalus, every.closed⟩
    next tooLarge => exact ⟨nothing, nofun, every.closed⟩
  | decode last =>
    rw [NaluTrace.after]
    split
    next dropped => exact every.dropNalu nothing
    next stored =>
      split
      next closing =>
        exact ⟨nothing, nofun, List.forall_mem_cons.mpr ⟨every.stored, every.closed⟩⟩
      next remains => exact ⟨nothing, every.stored, every.closed⟩
  | fail => exact every.dropNalu nothing

theorem Describes.dropNalu (describes : trace.Describes depacketizer) :
    { trace with pieces := [] }.Describes { depacketizer with naluLen := 0 } :=
  ⟨rfl, rfl, describes.frameLen, describes.frame⟩

theorem describes_nothing (closed : List (List (List FramePiece)))
    (nalu : depacketizer.naluLen = 0) (frame : depacketizer.frameLen = 0) :
    Describes ⟨[], [], closed⟩ depacketizer := ⟨nalu, rfl, frame, rfl⟩

theorem Describes.pushNalu (describes : trace.Describes depacketizer) (piece : FramePiece) :
    { trace with pieces := trace.pieces ++ [piece] }.Describes
      (depacketizer.pushNalu piece.bytes) := by
  have bytes : FramePiece.bytesOf (trace.pieces ++ [piece]) =
      FramePiece.bytesOf trace.pieces ++ piece.bytes := by
    rw [FramePiece.bytesOf, List.flatMap_append, List.flatMap_singleton]
    rfl
  refine ⟨?_, ?_, describes.frameLen, describes.frame⟩
  · rw [bytes, List.length_append, RtpDepacketizerH264.pushNalu, describes.naluLen]
  · rw [bytes, List.length_append, RtpDepacketizerH264.pushNalu, describes.naluLen,
      Memory.slice_write_append, describes.nalu]

/-- The bytes of the frame with the current NALU stored, as far as there is room for it. -/
theorem Describes.store_frame (describes : trace.Describes depacketizer) :
    depacketizer.store.frame.slice 0 depacketizer.store.frameLen =
      FramePiece.bytesOf trace.nalus.flatten ++
        (FramePiece.bytesOf trace.pieces).take depacketizer.storedLen := by
  have within : depacketizer.storedLen ≤ (FramePiece.bytesOf trace.pieces).length :=
    describes.naluLen ▸ Nat.min_le_left ..
  rw [RtpDepacketizerH264.store_frame, describes.frameLen, describes.frame]
  conv_rhs => rw [← describes.nalu]
  rw [Memory.take_slice within]

theorem bytesOf_nalus (nalus : List (List FramePiece)) (pieces : List FramePiece) :
    FramePiece.bytesOf (nalus ++ [pieces]).flatten =
      FramePiece.bytesOf nalus.flatten ++ FramePiece.bytesOf pieces := by
  simp [FramePiece.bytesOf]

theorem Describes.store (describes : trace.Describes depacketizer) {last : Bool}
    (remains : depacketizer.closes last = false) :
    { trace with pieces := [], nalus := trace.nalus ++ [trace.pieces] }.Describes
      depacketizer.store := by
  have frame := describes.store_frame
  rw [RtpDepacketizerH264.storedLen_of_remains remains, describes.naluLen, List.take_length,
    ← bytesOf_nalus] at frame
  have frameLen : depacketizer.store.frameLen =
      (FramePiece.bytesOf (trace.nalus ++ [trace.pieces]).flatten).length := by
    rw [← frame, Memory.slice_length]
  exact ⟨rfl, rfl, frameLen, frameLen ▸ frame⟩

end NaluTrace

structure TracedResult where
  result : ParseResult RtpDepacketizerH264
  trace : NaluTrace

namespace TracedResult

def perform (call : ParseCall) (operation : NaluOperation) (traced : TracedResult) :
    Except TracedResult TracedResult :=
  let trace := traced.trace.after call traced.result.depacketizer operation
  match RtpDepacketizerH264.perform call operation traced.result with
  | .ok result => .ok ⟨result, trace⟩
  | .error result => .error ⟨result, trace⟩

theorem perform_agrees (call : ParseCall) (operation : NaluOperation) (traced : TracedResult) :
    Script.Agree (fun traced result => traced.result = result) (traced.perform call operation)
      (RtpDepacketizerH264.perform call operation traced.result) := by
  rw [perform]
  cases RtpDepacketizerH264.perform call operation traced.result with
  | ok result => rfl
  | error result => rfl

theorem after_perform (call : ParseCall) (operation : NaluOperation) (traced : TracedResult) :
    Script.after (traced.perform call operation) =
      ⟨Script.after (RtpDepacketizerH264.perform call operation traced.result),
        traced.trace.after call traced.result.depacketizer operation⟩ := by
  rw [perform]
  cases RtpDepacketizerH264.perform call operation traced.result with
  | ok result => rfl
  | error result => rfl

/-- The trace names what is in the buffers and, where a frame is handed out, what it consists of. -/
structure Tracks (call : ParseCall) (traced : TracedResult) : Prop where
  describes : traced.trace.Describes traced.result.depacketizer
  delivers : traced.result.status = .frame → ∀ frame ∈ traced.result.frame,
    frame.pts = call.pts.toNat ∧
      ∃ closed ∈ traced.trace.closed.head?,
        frameBytes traced.result frame <+: FramePiece.bytesOf closed.flatten

theorem Tracks.after {call : ParseCall} {traced : TracedResult} (tracks : traced.Tracks call)
    (operation : NaluOperation) : (Script.after (traced.perform call operation)).Tracks call := by
  obtain ⟨result, trace⟩ := traced
  obtain ⟨describes, delivers⟩ := tracks
  rw [after_perform]
  have step := naluStep_perform call operation result
  dsimp only at describes delivers ⊢
  generalize RtpDepacketizerH264.perform call operation result = outcome at step ⊢
  cases step with
  | appended part bytes fits =>
    rw [NaluTrace.after, if_pos fits]
    exact ⟨describes.pushNalu ⟨part, bytes, call⟩, delivers⟩
  | overflowed part bytes tooLarge =>
    -- both buffers are empty again
    rw [NaluTrace.after, if_neg (Nat.not_le.mpr tooLarge)]
    exact ⟨NaluTrace.describes_nothing _ rfl rfl, nofun⟩
  | nothing last empty =>
    rw [NaluTrace.after, if_pos (.inl empty)]
    have dropped := describes.dropNalu
    rw [← empty] at dropped
    exact ⟨dropped, nofun⟩
  | rejected last occupied rejected =>
    rw [NaluTrace.after, if_pos (.inr rejected)]
    exact ⟨describes.dropNalu, nofun⟩
  | stored last occupied admits remains =>
    rw [NaluTrace.after, if_neg (by tauto), if_neg (by simp [remains])]
    exact ⟨describes.store remains, nofun⟩
  | closed last occupied admits closing =>
    rw [NaluTrace.after, if_neg (by tauto), if_pos closing]
    refine ⟨NaluTrace.describes_nothing _ rfl rfl, ?_⟩
    intro _ frame handed
    obtain ⟨_, _, rfl⟩ := Option.map_eq_some_iff.mp handed
    refine ⟨rfl, _, rfl, ?_⟩
    -- the NALU that closes the frame may be cut off, so the frame is a prefix only
    rw [NaluTrace.bytesOf_nalus]
    change result.depacketizer.store.frame.slice 0 result.depacketizer.store.frameLen <+: _
    rw [describes.store_frame]
    exact (List.prefix_append_right_inj _).mpr (List.take_prefix ..)
  | failed => exact ⟨describes.dropNalu, nofun⟩

end TracedResult

structure NaluHistory where
  depacketizer : RtpDepacketizerH264
  trace : NaluTrace

namespace NaluHistory

def answer (history : NaluHistory) (call : ParseCall) : TracedResult :=
  if call.payload = [] then
    ⟨⟨.error, history.depacketizer, call.frame⟩, history.trace⟩
  else
    Script.execute (TracedResult.perform call) (NaluOperation.ofPacket call.payload call.marker)
      ⟨history.depacketizer.beginPacket call, history.trace⟩

theorem answer_result (history : NaluHistory) (call : ParseCall) :
    (history.answer call).result = RtpDepacketizer.answer history.depacketizer call := by
  rw [answer]
  by_cases empty : call.payload = []
  · rw [if_pos empty, RtpDepacketizerH264.answer_of_empty _ empty]
  · rw [if_neg empty, RtpDepacketizerH264.answer_eq _ empty]
    refine Script.execute_related
      (fun (traced : TracedResult) result => traced.result = result) ?_ _ rfl
    rintro operation traced _ rfl
    exact traced.perform_agrees call operation

def next (history : NaluHistory) : DepacketizerCall → NaluHistory
  | .parse call => ⟨(history.answer call).result.depacketizer, (history.answer call).trace⟩
  | .setSyncPoint =>
    ⟨history.depacketizer.setSyncPoint, { history.trace with pieces := [], nalus := [] }⟩

def machine : Machine NaluHistory DepacketizerCall (Option (ParseResult RtpDepacketizerH264)) where
  step history call :=
    (history.next call, ((RtpDepacketizer.machine _).step history.depacketizer call).2)

def begin (depacketizer : RtpDepacketizerH264) : NaluHistory := ⟨depacketizer, ⟨[], [], []⟩⟩

@[simp] theorem machine_step_fst (history : NaluHistory) (call : DepacketizerCall) :
    (machine.step history call).1 = history.next call := rfl

theorem next_depacketizer (history : NaluHistory) (call : DepacketizerCall) :
    (history.next call).depacketizer =
      ((RtpDepacketizer.machine _).step history.depacketizer call).1 := by
  cases call with
  | parse call => exact congrArg ParseResult.depacketizer (history.answer_result call)
  | setSyncPoint => rfl

theorem projects : machine.Projects (RtpDepacketizer.machine _) depacketizer := next_depacketizer

theorem run_begin (depacketizer : RtpDepacketizerH264) (calls : List DepacketizerCall) :
    (machine.run (begin depacketizer) calls).depacketizer =
      (RtpDepacketizer.machine _).run depacketizer calls :=
  projects.run _ _

/-- The trace of the history names what is in the buffers. -/
def Tracks (history : NaluHistory) : Prop := history.trace.Describes history.depacketizer

theorem tracks_begin {depacketizer : RtpDepacketizerH264} (nalu : depacketizer.naluLen = 0)
    (frame : depacketizer.frameLen = 0) : (begin depacketizer).Tracks :=
  NaluTrace.describes_nothing _ nalu frame

variable {history : NaluHistory} {call : ParseCall}

theorem Tracks.beginPacket (tracks : history.Tracks) (call : ParseCall) :
    TracedResult.Tracks call ⟨history.depacketizer.beginPacket call, history.trace⟩ :=
  ⟨⟨tracks.naluLen, tracks.nalu, tracks.frameLen, tracks.frame⟩, nofun⟩

theorem Tracks.answer (tracks : history.Tracks) (call : ParseCall) :
    (history.answer call).Tracks call := by
  rw [NaluHistory.answer]
  split
  next empty => exact ⟨tracks, nofun⟩
  next nonempty =>
    -- `Tracks` is what every operation of the packet keeps
    exact Script.execute_invariant
      (fun operation _ traced (holds : traced.Tracks call) => holds.after operation)
      (tracks.beginPacket call)

theorem Tracks.next (tracks : history.Tracks) (call : DepacketizerCall) :
    (history.next call).Tracks := by
  cases call with
  | parse call => exact (tracks.answer call).describes
  | setSyncPoint => exact NaluTrace.describes_nothing _ rfl rfl

theorem Tracks.run (tracks : history.Tracks) (calls : List DepacketizerCall) :
    (machine.run history calls).Tracks :=
  machine.run_invariant (fun _ call holds => holds.next call) tracks calls

/-- A delivered frame begins what its NALUs were made from, with the timestamp of the packet that
closes it. -/
theorem Tracks.delivery (tracks : history.Tracks) {frame : MediaFrame} {bytes : List UInt8}
    (delivered : delivery (RtpDepacketizer.answer history.depacketizer call) =
      some (frame, bytes)) :
    frame.pts = call.pts.toNat ∧
      ∃ closed ∈ (history.answer call).trace.closed.head?,
        bytes <+: FramePiece.bytesOf closed.flatten := by
  rw [← answer_result] at delivered
  obtain ⟨status, filled, rfl⟩ := delivery_eq_some_iff.mp delivered
  exact (tracks.answer call).delivers status frame filled

theorem every_answer {property : List FramePiece → Prop} (every : history.trace.Every property)
    (nothing : property [])
    (appended : ∀ part bytes, .append part bytes ∈
      NaluOperation.ofPacket call.payload call.marker →
      ∀ pieces, property pieces → property (pieces ++ [⟨part, bytes, call⟩])) :
    (history.answer call).trace.Every property := by
  rw [NaluHistory.answer]
  split
  next empty => exact every
  next nonempty =>
    have keeps : ∀ operation ∈ NaluOperation.ofPacket call.payload call.marker,
        ∀ traced : TracedResult, traced.trace.Every property →
        (Script.after (traced.perform call operation)).trace.Every property := by
      intro operation member traced holds
      rw [TracedResult.after_perform]
      refine holds.after nothing operation ?_
      rintro part bytes rfl
      exact appended part bytes member _ holds.pieces
    exact Script.execute_invariant keeps every

end NaluHistory

end RtpPlayer
