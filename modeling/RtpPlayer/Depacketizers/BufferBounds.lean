import RtpPlayer.Depacketizers.NaluSteps
import RtpPlayer.Depacketizers.Vp8Steps

/-! # Bounds of the buffers

Both depacketizers copy into buffers of `MAX_ES_FRAME_SIZE` bytes.  A copy is logged with the start
and the size that the code computes for it, as integers; whatever is fed, every copy stays within
its buffer. -/

namespace RtpPlayer

open Foundations
open RtpDepacketizer

/-- `memcpy` to a buffer of a depacketizer, or the bytes of one macro. -/
structure BufferWrite where
  start : Int
  size : Int
  deriving DecidableEq

structure BufferWrite.Within (write : BufferWrite) : Prop where
  start : 0 ≤ write.start
  size : 0 ≤ write.size
  limit : write.start + write.size ≤ maxEsFrameSize

/-- A frame that is handed out has bytes, and no more than the buffer. -/
def MediaFrame.Sized (frame : MediaFrame) : Prop := 1 ≤ frame.len ∧ frame.len ≤ maxEsFrameSize

/-- No cell behind the buffer is changed. -/
def KeepsBeyond (before after : Memory UInt8) : Prop :=
  ∀ index, maxEsFrameSize ≤ index → after index = before index

theorem KeepsBeyond.refl (memory : Memory UInt8) : KeepsBeyond memory memory := fun _ _ => rfl

theorem KeepsBeyond.trans {first second third : Memory UInt8} (earlier : KeepsBeyond first second)
    (later : KeepsBeyond second third) : KeepsBeyond first third :=
  fun index beyond => (later index beyond).trans (earlier index beyond)

theorem keepsBeyond_write (memory : Memory UInt8) {start : Nat} {bytes : List UInt8}
    (within : start + bytes.length ≤ maxEsFrameSize) :
    KeepsBeyond memory (memory.write start bytes) :=
  fun _ beyond => Memory.write_apply_after (Nat.le_trans within beyond)

/-! ## H.264 -/

namespace RtpDepacketizerH264

structure Bounded (depacketizer : RtpDepacketizerH264) : Prop where
  naluLen : depacketizer.naluLen ≤ maxEsFrameSize
  frameLen : depacketizer.frameLen ≤ maxEsFrameSize

theorem Bounded.storedLen {depacketizer : RtpDepacketizerH264} (bounded : depacketizer.Bounded) :
    depacketizer.frameLen + depacketizer.storedLen ≤ maxEsFrameSize := by
  have := bounded.frameLen
  rw [RtpDepacketizerH264.storedLen]
  omega

/-- A NALU that is stored stays within `m_frame`. -/
theorem Bounded.store {depacketizer : RtpDepacketizerH264} (bounded : depacketizer.Bounded) :
    depacketizer.store.Bounded ∧ KeepsBeyond depacketizer.frame depacketizer.store.frame := by
  rw [store_eq]
  exact ⟨⟨Nat.zero_le _, bounded.storedLen⟩,
    keepsBeyond_write _ (by rw [Memory.slice_length]; exact bounded.storedLen)⟩

/-- The copies an operation makes, with the sizes as `ADD_BUFFER` and `decode_nalu` have them. -/
def operationWrites (operation : NaluOperation) (result : ParseResult RtpDepacketizerH264) :
    List BufferWrite :=
  let depacketizer := result.depacketizer
  let naluLen : Int := depacketizer.naluLen
  let room : Int := maxEsFrameSize - depacketizer.frameLen
  match operation with
  | .append _ bytes =>
    if (bytes.length : Int) > maxEsFrameSize - naluLen then [] else [⟨naluLen, bytes.length⟩]
  | .decode _ =>
    let size := if naluLen > room then room else naluLen
    if naluLen ≤ 0 ∨ ¬ depacketizer.Admits ∨ size ≤ 0 then [] else [⟨depacketizer.frameLen, size⟩]
  | .fail => []

def logWrites (operation : NaluOperation) (result : ParseResult RtpDepacketizerH264)
    (log : List BufferWrite) : List BufferWrite :=
  log ++ operationWrites operation result

/-- The copies a `parse` call makes, in order. -/
def writes (depacketizer : RtpDepacketizerH264) (call : ParseCall) : List BufferWrite :=
  (Script.execute (Script.observed (perform call) logWrites)
    (NaluOperation.ofPacket call.payload call.marker) (depacketizer.beginPacket call, [])).2

/-- What is so of a packet's script from the state `begun` on. -/
structure WithinBuffers (begun : RtpDepacketizerH264)
    (state : ParseResult RtpDepacketizerH264 × List BufferWrite) : Prop where
  bounded : state.1.depacketizer.Bounded
  writes : ∀ write ∈ state.2, write.Within
  nalu : KeepsBeyond begun.nalu state.1.depacketizer.nalu
  frame : KeepsBeyond begun.frame state.1.depacketizer.frame
  sized : state.1.status = .frame → ∀ frame ∈ state.1.frame, frame.Sized

theorem operationWrites_within {result : ParseResult RtpDepacketizerH264}
    (bounded : result.depacketizer.Bounded) (operation : NaluOperation) :
    ∀ write ∈ operationWrites operation result, write.Within := by
  have naluLen := bounded.naluLen
  have frameLen := bounded.frameLen
  intro write member
  cases operation with
  | append part bytes =>
    simp only [operationWrites, List.mem_ite_nil_left, List.mem_singleton] at member
    obtain ⟨fits, rfl⟩ := member
    exact ⟨Int.natCast_nonneg _, Int.natCast_nonneg _, by dsimp only; omega⟩
  | decode last =>
    simp only [operationWrites, List.mem_ite_nil_left, List.mem_singleton] at member
    obtain ⟨copied, rfl⟩ := member
    refine ⟨Int.natCast_nonneg _, ?_, ?_⟩ <;> dsimp only <;> split <;> omega
  | fail => cases member

theorem WithinBuffers.after {begun : RtpDepacketizerH264}
    {state : ParseResult RtpDepacketizerH264 × List BufferWrite}
    (within : WithinBuffers begun state) (call : ParseCall) (operation : NaluOperation) :
    WithinBuffers begun
      (Script.after (Script.observed (perform call) logWrites operation state)) := by
  obtain ⟨result, log⟩ := state
  have logged : ∀ write ∈ logWrites operation result log, write.Within := by
    intro write member
    rcases List.mem_append.mp member with before | now
    · exact within.writes write before
    · exact operationWrites_within within.bounded operation write now
  have bounded := within.bounded
  have room := bounded.storedLen
  rw [Script.after_observed]
  have step := naluStep_perform call operation result
  dsimp only
  generalize perform call operation result = outcome at step ⊢
  cases step with
  | appended part bytes fits =>
    exact {
      bounded := ⟨fits, bounded.frameLen⟩
      writes := logged
      nalu := within.nalu.trans (keepsBeyond_write _ fits)
      frame := within.frame
      sized := within.sized }
  | overflowed =>
    exact ⟨⟨Nat.zero_le _, Nat.zero_le _⟩, logged, within.nalu, within.frame,
      fun delivers => by cases delivers⟩
  | nothing =>
    exact ⟨bounded, logged, within.nalu, within.frame,
      fun delivers => by cases delivers⟩
  | rejected =>
    exact ⟨⟨Nat.zero_le _, bounded.frameLen⟩, logged, within.nalu, within.frame,
      fun delivers => by cases delivers⟩
  | stored last occupied admits remains =>
    obtain ⟨boundedStore, frame⟩ := bounded.store
    exact {
      bounded := boundedStore
      writes := logged
      nalu := by
        rw [Script.after_ok, store_eq]
        exact within.nalu
      frame := within.frame.trans frame
      sized := fun delivers => by cases delivers }
  | closed last occupied admits closing =>
    obtain ⟨boundedStore, frame⟩ := bounded.store
    have sized : (result.depacketizer.closedFrame call).Sized := by
      rw [closedFrame, store_eq]
      refine ⟨?_, room⟩
      -- a full frame closes with the NALU before
      have := bounded.frameLen
      rw [storedLen]
      dsimp only
      have : 0 < maxEsFrameSize := by decide
      omega
    exact {
      bounded := ⟨Nat.zero_le _, Nat.zero_le _⟩
      writes := logged
      nalu := by
        rw [Script.after_ok, store_eq]
        exact within.nalu
      frame := within.frame.trans frame
      sized := by
        intro _ frame filled
        obtain ⟨out, -, rfl⟩ := Option.map_eq_some_iff.mp filled
        exact sized }
  | failed =>
    exact ⟨⟨Nat.zero_le _, bounded.frameLen⟩, logged, within.nalu, within.frame,
      fun delivers => by cases delivers⟩

theorem withinBuffers_answer {depacketizer : RtpDepacketizerH264}
    (bounded : depacketizer.Bounded) (call : ParseCall) :
    WithinBuffers depacketizer (answer depacketizer call, depacketizer.writes call) := by
  have started : WithinBuffers depacketizer (depacketizer.beginPacket call, []) :=
    ⟨⟨bounded.naluLen, bounded.frameLen⟩, nofun, .refl _, .refl _, nofun⟩
  by_cases empty : call.payload = []
  · rw [answer_of_empty _ empty, writes, empty]
    exact ⟨bounded, nofun, .refl _, .refl _, nofun⟩
  · have executed : (answer depacketizer call, depacketizer.writes call) =
        Script.execute (Script.observed (perform call) logWrites)
          (NaluOperation.ofPacket call.payload call.marker) (depacketizer.beginPacket call, []) :=
      Prod.ext (by rw [Script.execute_observed_fst, answer_eq _ empty]) rfl
    rw [executed]
    exact Script.execute_invariant
      (fun operation _ _ within => within.after call operation) started

theorem bounded_run (nalu frame : Memory UInt8) (calls : List DepacketizerCall) :
    ((machine RtpDepacketizerH264).run (create nalu frame) calls).Bounded := by
  refine Machine.run_invariant _ ?_ ⟨Nat.zero_le _, Nat.zero_le _⟩ calls
  intro depacketizer call bounded
  cases call with
  | parse call => exact (withinBuffers_answer bounded call).bounded
  | setSyncPoint => exact ⟨Nat.zero_le _, Nat.zero_le _⟩

end RtpDepacketizerH264

/-! ## VP8 -/

namespace RtpDepacketizerVp8

/-- The copy a `parse` call makes, if it makes one, with the size that `parse` has for it. -/
def writes (depacketizer : RtpDepacketizerVp8) (call : ParseCall) : List BufferWrite :=
  (Vp8Payload.ofCall call).elim [] fun payload =>
    let size : Int := payload.bytes.length
    if payload.ShortKeyFrame ∨ size > maxEsFrameSize - depacketizer.frameLen then []
    else [⟨depacketizer.frameLen, size⟩]

theorem writes_within {depacketizer : RtpDepacketizerVp8} {call : ParseCall} :
    ∀ write ∈ depacketizer.writes call, write.Within := by
  intro write member
  rw [writes] at member
  cases carries : Vp8Payload.ofCall call with
  | none =>
    rw [carries] at member
    cases member
  | some payload =>
    rw [carries] at member
    simp only [Option.elim_some, List.mem_ite_nil_left, List.mem_singleton] at member
    obtain ⟨copied, rfl⟩ := member
    exact ⟨Int.natCast_nonneg _, Int.natCast_nonneg _, by dsimp only; omega⟩

/-- What a `parse` call leaves of a buffer that was within its bounds. -/
structure WithinBuffer (begun : RtpDepacketizerVp8) (result : ParseResult RtpDepacketizerVp8) :
    Prop where
  frameLen : result.depacketizer.frameLen ≤ maxEsFrameSize
  frame : KeepsBeyond begun.frame result.depacketizer.frame
  sized : result.status = .frame → ∀ frame ∈ result.frame, frame.Sized

theorem withinBuffer_answer {depacketizer : RtpDepacketizerVp8}
    (bounded : depacketizer.frameLen ≤ maxEsFrameSize) (call : ParseCall) :
    WithinBuffer depacketizer (answer depacketizer call) := by
  have step := step_answer depacketizer call
  generalize answer depacketizer call = result at step ⊢
  cases step with
  | empty | refused | shortKeyFrame => exact ⟨bounded, .refl _, nofun⟩
  | tooLarge => exact ⟨Nat.zero_le _, .refl _, nofun⟩
  | held payload accepts => exact ⟨accepts.fits, keepsBeyond_write _ accepts.fits, nofun⟩
  | dropped payload accepts => exact ⟨Nat.zero_le _, keepsBeyond_write _ accepts.fits, nofun⟩
  | delivered payload accepts =>
    refine ⟨Nat.zero_le _, keepsBeyond_write _ accepts.fits, ?_⟩
    intro _ frame filled
    obtain ⟨out, -, rfl⟩ := Option.map_eq_some_iff.mp filled
    have occupied := List.length_pos_of_ne_nil (Vp8Payload.bytes_ne_nil accepts.carries)
    exact ⟨Nat.le_trans occupied (Nat.le_add_left _ _), accepts.fits⟩

theorem bounded_run (frame : Memory UInt8) (calls : List DepacketizerCall) :
    ((machine RtpDepacketizerVp8).run (create frame) calls).frameLen ≤ maxEsFrameSize := by
  have keeps : ∀ (depacketizer : RtpDepacketizerVp8) (call : DepacketizerCall),
      depacketizer.frameLen ≤ maxEsFrameSize →
        ((machine RtpDepacketizerVp8).step depacketizer call).1.frameLen ≤ maxEsFrameSize := by
    intro depacketizer call bounded
    cases call with
    | parse call => exact (withinBuffer_answer bounded call).frameLen
    | setSyncPoint => exact Nat.zero_le _
  exact Machine.run_invariant _ keeps (Nat.zero_le _) calls

end RtpDepacketizerVp8

namespace RtpDepacketizer

theorem sized_of_delivery {δ : Type} [RtpDepacketizer δ] {result : ParseResult δ}
    (sized : result.status = .frame → ∀ frame ∈ result.frame, frame.Sized) :
    ∀ delivered ∈ delivery result, delivered.1.Sized := by
  intro delivered member
  obtain ⟨status, filled, -⟩ := delivery_eq_some_iff.mp member
  exact sized status delivered.1 filled

/-- After any calls the lengths are within the buffers, and so is every copy that the next packet
brings; a frame that it closes has a byte at least. -/
theorem buffers_never_overflow :
    (∀ (nalu frame : Memory UInt8) (calls : List DepacketizerCall),
      let reached := (machine RtpDepacketizerH264).run (RtpDepacketizerH264.create nalu frame) calls
      reached.naluLen ≤ maxEsFrameSize ∧ reached.frameLen ≤ maxEsFrameSize ∧
        ∀ call, (∀ write ∈ reached.writes call, write.Within) ∧
          KeepsBeyond reached.nalu (answer reached call).depacketizer.nalu ∧
          KeepsBeyond reached.frame (answer reached call).depacketizer.frame ∧
          ∀ delivered ∈ delivery (answer reached call), delivered.1.Sized) ∧
    ∀ (frame : Memory UInt8) (calls : List DepacketizerCall),
      let reached := (machine RtpDepacketizerVp8).run (RtpDepacketizerVp8.create frame) calls
      reached.frameLen ≤ maxEsFrameSize ∧
        ∀ call, (∀ write ∈ reached.writes call, write.Within) ∧
          KeepsBeyond reached.frame (answer reached call).depacketizer.frame ∧
          ∀ delivered ∈ delivery (answer reached call), delivered.1.Sized := by
  constructor
  · intro nalu frame calls reached
    have bounded := RtpDepacketizerH264.bounded_run nalu frame calls
    refine ⟨bounded.naluLen, bounded.frameLen, fun call => ?_⟩
    have within := RtpDepacketizerH264.withinBuffers_answer bounded call
    exact ⟨within.writes, within.nalu, within.frame, sized_of_delivery within.sized⟩
  · intro frame calls reached
    have bounded := RtpDepacketizerVp8.bounded_run frame calls
    refine ⟨bounded, fun call => ?_⟩
    have within := RtpDepacketizerVp8.withinBuffer_answer bounded call
    exact ⟨RtpDepacketizerVp8.writes_within, within.frame, sized_of_delivery within.sized⟩

end RtpDepacketizer

end RtpPlayer
