import RtpPlayer.Foundations.LoggedReader
import RtpPlayer.Foundations.Machine

/-! # The depacketizer interface

What `Depacketizers/RtpDepacketizer.h` and `Common/common.h` fix for both depacketizers: the
arguments of `parse`, the frame it fills and the status it returns. -/

namespace RtpPlayer

open Foundations

def maxEsFrameSize : Nat := 1000000

def frameIsIncomplete : Nat := 0x0001

def frameIsSyncPoint : Nat := 0x0002

/-- `DEPACKETIZER_xxx` -/
inductive DepacketizerStatus where
  | needMore
  | error
  | frame
  deriving DecidableEq

/-- The part of a `MediaFrame` a depacketizer fills.  Its `data` always gets the depacketizer's own
`m_frame`, so the bytes of a frame are looked up there (`frameBytes`). -/
structure MediaFrame where
  len : Nat
  pts : Int
  flags : Nat
  rtpPayloadType : Int
  packets : Nat
  deriving DecidableEq

/-- The arguments of one `parse` call.  The packet is the payload of an `RtpPacket`, never `NULL`;
`frame` is what the out parameter holds, `none` for `NULL`. -/
structure ParseCall where
  packet : Memory UInt8
  packetLen : Int
  marker : Bool
  pts : UInt32
  payloadType : Int
  frame : Option MediaFrame

/-- What the owner of a depacketizer may call. -/
inductive DepacketizerCall where
  | parse (call : ParseCall)
  | setSyncPoint

/-- The condition on the arguments, where the call is a `parse`. -/
def DepacketizerCall.Parses (condition : ParseCall → Prop) : DepacketizerCall → Prop
  | .parse call => condition call
  | .setSyncPoint => True

instance (condition : ParseCall → Prop) [DecidablePred condition] :
    DecidablePred (DepacketizerCall.Parses condition)
  | .parse call => inferInstanceAs (Decidable (condition call))
  | .setSyncPoint => .isTrue trivial

/-- What a `parse` call leaves: its status, the depacketizer and the out parameter. -/
structure ParseResult (δ : Type) where
  status : DepacketizerStatus
  depacketizer : δ
  frame : Option MediaFrame

namespace ParseCall

def payload (call : ParseCall) : List UInt8 := call.packet.slice 0 call.packetLen.toNat

def ofPayload (payload : List UInt8) (marker : Bool) (pts : UInt32) (payloadType : Int) :
    ParseCall where
  packet := Memory.ofList payload fun _ => 0
  packetLen := payload.length
  marker := marker
  pts := pts
  payloadType := payloadType
  frame := some ⟨0, 0, 0, 0, 0⟩

@[simp] theorem payload_ofPayload (payload : List UInt8) (marker : Bool) (pts : UInt32)
    (payloadType : Int) : (ofPayload payload marker pts payloadType).payload = payload :=
  Memory.slice_ofList payload _

theorem payload_eq_nil_iff (call : ParseCall) : call.payload = [] ↔ call.packetLen ≤ 0 := by
  rw [← List.length_eq_zero_iff, payload, Memory.slice_length]
  omega

end ParseCall

/-- The virtual functions of `RtpDepacketizer`, and `m_frame`, which the `data` of every frame
points to. -/
class RtpDepacketizer (δ : Type) where
  parse : δ → ParseCall → LoggedReader UInt8 (ParseResult δ)
  setSyncPoint : δ → δ
  frameBuffer : δ → Memory UInt8

namespace RtpDepacketizer

variable {δ : Type} [RtpDepacketizer δ]

/-- What a `parse` call returns and leaves. -/
def answer (depacketizer : δ) (call : ParseCall) : ParseResult δ :=
  (parse depacketizer call).value call.packet

/-- The bytes of the frame in the out parameter, as they are when `parse` returns. -/
def frameBytes (result : ParseResult δ) (frame : MediaFrame) : List UInt8 :=
  (frameBuffer result.depacketizer).slice 0 frame.len

/-- The frame a `parse` call delivers, with its bytes. -/
def delivery (result : ParseResult δ) : Option (MediaFrame × List UInt8) :=
  if result.status = .frame then
    result.frame.map fun frame => (frame, frameBytes result frame)
  else none

theorem delivery_eq_some_iff {result : ParseResult δ} {frame : MediaFrame} {bytes : List UInt8} :
    delivery result = some (frame, bytes) ↔
      result.status = .frame ∧ result.frame = some frame ∧ frameBytes result frame = bytes := by
  rw [delivery]
  by_cases status : result.status = .frame
  · rw [if_pos status, Option.map_eq_some_iff, and_iff_right status]
    simp only [Prod.mk.injEq]
    constructor
    · rintro ⟨_, handed, rfl, same⟩
      exact ⟨handed, same⟩
    · rintro ⟨handed, same⟩
      exact ⟨frame, handed, rfl, same⟩
  · simp [status]

/-- A depacketizer and whoever calls it. -/
def machine (δ : Type) [RtpDepacketizer δ] :
    Machine δ DepacketizerCall (Option (ParseResult δ)) where
  step
    | depacketizer, .parse call =>
      ((answer depacketizer call).depacketizer, some (answer depacketizer call))
    | depacketizer, .setSyncPoint => (setSyncPoint depacketizer, none)

@[simp] theorem machine_step_parse (depacketizer : δ) (call : ParseCall) :
    (machine δ).step depacketizer (.parse call) =
      ((answer depacketizer call).depacketizer, some (answer depacketizer call)) := rfl

@[simp] theorem machine_step_setSyncPoint (depacketizer : δ) :
    (machine δ).step depacketizer .setSyncPoint = (setSyncPoint depacketizer, none) := rfl

/-- The condition on a machine that the calls drive holds of every `parse` call of a run. -/
theorem forall_parse_of_guarded {σ ο : Type} {driven : Machine σ DepacketizerCall ο} {state : σ}
    {condition : σ → ParseCall → Prop} {calls : List DepacketizerCall}
    (guarded : driven.Guarded (fun state input => input.Parses (condition state)) state calls) :
    ∀ past call after, calls = past ++ .parse call :: after →
      condition (driven.run state past) call :=
  fun past _ after split => (driven.guarded_iff state calls).mp guarded past _ after split

/-- None of the calls delivers a frame. -/
def Silent (depacketizer : δ) (calls : List DepacketizerCall) : Prop :=
  ∀ result, some result ∈ (machine δ).outputs depacketizer calls → result.status ≠ .frame

/-- The last of the calls is `set_sync_point`, or there is none since the construction. -/
def Synchronises (calls : List DepacketizerCall) : Prop :=
  ∀ last ∈ calls.getLast?, last = .setSyncPoint

theorem Silent.cons {depacketizer : δ} {call : DepacketizerCall} {calls : List DepacketizerCall}
    (silent : Silent depacketizer (call :: calls)) :
    Silent depacketizer [call] ∧ Silent ((machine δ).step depacketizer call).1 calls := by
  constructor
  · intro result member
    rw [Machine.outputs_cons, Machine.outputs_nil, List.mem_singleton] at member
    exact silent result (by rw [Machine.outputs_cons, member]; exact List.mem_cons_self)
  · intro result member
    exact silent result (List.mem_cons_of_mem _ member)

def afterPackets (depacketizer : δ) (calls : List ParseCall) : δ :=
  (machine δ).run depacketizer (calls.map .parse)

def answers (depacketizer : δ) : List ParseCall → List (ParseResult δ)
  | [] => []
  | call :: calls =>
    answer depacketizer call :: answers (answer depacketizer call).depacketizer calls

theorem afterPackets_append (depacketizer : δ) (first second : List ParseCall) :
    afterPackets depacketizer (first ++ second) =
      afterPackets (afterPackets depacketizer first) second := by
  rw [afterPackets, List.map_append, Machine.run_append]
  rfl

theorem answers_append (depacketizer : δ) (first second : List ParseCall) :
    answers depacketizer (first ++ second) =
      answers depacketizer first ++ answers (afterPackets depacketizer first) second := by
  induction first generalizing depacketizer with
  | nil => rfl
  | cons call first ih => exact congrArg _ (ih _)

/-- All calls but the last ask for more, and `ends` tells what the last returns. -/
def Completes (depacketizer : δ) (calls : List ParseCall)
    (ends : ParseCall → ParseResult δ → Prop) : Prop :=
  ∃ earlier last, calls = earlier ++ [last] ∧
    (∀ result ∈ answers depacketizer earlier, result.status = .needMore) ∧
    ends last (answer (afterPackets depacketizer earlier) last)

theorem completes_singleton {depacketizer : δ} {call : ParseCall}
    {ends : ParseCall → ParseResult δ → Prop} (ended : ends call (answer depacketizer call)) :
    Completes depacketizer [call] ends :=
  ⟨[], call, rfl, by simp [answers], ended⟩

theorem Completes.cons {depacketizer : δ} {call : ParseCall} {calls : List ParseCall}
    {ends : ParseCall → ParseResult δ → Prop}
    (needMore : (answer depacketizer call).status = .needMore)
    (rest : Completes (answer depacketizer call).depacketizer calls ends) :
    Completes depacketizer (call :: calls) ends := by
  obtain ⟨earlier, last, rfl, waiting, ended⟩ := rest
  refine ⟨call :: earlier, last, rfl, ?_, ended⟩
  simpa only [answers, List.forall_mem_cons] using ⟨needMore, waiting⟩

end RtpDepacketizer

end RtpPlayer
