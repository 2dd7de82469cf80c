import RtpPlayer.Depacketizers.Vp8FrameStarts

/-! # The key-frame gate

`set_sync_point` asks that everything before the next key frame be dropped.  The gate keeps that
promise where `m_frame_type` says key frame only while the buffer begins with one. -/

namespace RtpPlayer

open Foundations
open RtpDepacketizer
open RtpDepacketizerVp8 (Step step_answer)

namespace RtpDepacketizerVp8

/-- While a key frame is required, a key frame begins on an empty buffer or on one of its own type,
and no packet continues a key frame of which the buffer holds nothing. -/
def OpensOnKeyFrame (depacketizer : RtpDepacketizerVp8) : DepacketizerCall → Prop
  | .setSyncPoint => True
  | .parse call => ∀ payload, Vp8Payload.ofCall call = some payload →
      depacketizer.keyRequired = true →
      -- a key frame refused as too short has set `m_frame_type` all the same
      (payload.BeginsKeyFrame → payload.ShortKeyFrame ∨ depacketizer.Accepts call payload →
        depacketizer.frameLen = 0 ∨ depacketizer.frameType = .videoFrameKey) ∧
      (payload.isFirst = false → depacketizer.Accepts call payload →
        depacketizer.frameType = .videoFrameKey → depacketizer.frameLen ≠ 0)

instance (depacketizer : RtpDepacketizerVp8) : DecidablePred depacketizer.OpensOnKeyFrame
  | .setSyncPoint => .isTrue trivial
  | .parse call => Vp8Payload.decidableForallPayload call _

/-- After the construction and after every `set_sync_point`, the first frame begins with the payload
of a packet that starts a key frame and has been accepted since. -/
def FirstFrameIsKeyFrame (depacketizer : RtpDepacketizerVp8) (calls : List DepacketizerCall) :
    Prop :=
  ∀ past since call after, calls = past ++ (since ++ .parse call :: after) → Synchronises past →
    let synced := (machine _).run depacketizer past
    Silent synced since → ∀ frame bytes,
    delivery (answer ((machine _).run synced since) call) = some (frame, bytes) →
      ∃ head, synced.AcceptedIn (since ++ [.parse call]) head ∧ Vp8Payload.StartsKeyFrame head ∧
        Vp8Payload.bytesOf head <+: bytes

end RtpDepacketizerVp8

namespace Vp8History

open RtpDepacketizerVp8 (OpensOnKeyFrame FirstFrameIsKeyFrame)

variable {history : Vp8History} {call : ParseCall}

/-- While a key frame is required, a buffer of key frame type begins with the start of one. -/
structure KeyFrameHeld (history : Vp8History) : Prop where
  tracks : history.Tracks
  starts : history.depacketizer.keyRequired = true →
    history.depacketizer.frameType = .videoFrameKey →
    ∀ head ∈ history.held.head?, Vp8Payload.StartsKeyFrame head

theorem keyFrameHeld_of_nothing {depacketizer : RtpDepacketizerVp8}
    (empty : depacketizer.frameLen = 0) : (begin depacketizer).KeyFrameHeld :=
  ⟨tracks_begin empty, fun _ _ _ member => absurd member (Option.not_mem_none _)⟩

theorem KeyFrameHeld.hold (holds : history.KeyFrameHeld) {payload : Vp8Payload}
    (accepts : history.depacketizer.Accepts call payload)
    (opens : history.depacketizer.OpensOnKeyFrame (.parse call))
    (required : history.depacketizer.keyRequired = true)
    (key : (history.depacketizer.hold payload).frameType = .videoFrameKey) :
    ∀ head ∈ (history.held ++ [call]).head?, Vp8Payload.StartsKeyFrame head := by
  obtain ⟨begins, continues⟩ := opens payload accepts.carries required
  intro head member
  by_cases empty : history.depacketizer.frameLen = 0
  · -- the packet itself is the head, so it must not continue a frame of a stale type
    rw [holds.tracks.held_eq_nil_iff.mpr empty] at member
    obtain rfl : call = head := by simpa using member
    rw [Vp8Payload.startsKeyFrame_iff accepts.carries]
    cases first : payload.isFirst with
    | true =>
      rw [RtpDepacketizerVp8.hold_frameType_of_first _ first] at key
      exact key
    | false =>
      rw [RtpDepacketizerVp8.hold_frameType_of_continued _ first] at key
      exact absurd empty (continues first accepts key)
  · -- the head was held before, under the same type
    have before : history.depacketizer.frameType = .videoFrameKey := by
      cases first : payload.isFirst with
      | true =>
        rw [RtpDepacketizerVp8.hold_frameType_of_first _ first] at key
        exact (begins key (.inr accepts)).resolve_left empty
      | false =>
        rw [RtpDepacketizerVp8.hold_frameType_of_continued _ first] at key
        exact key
    have occupied := mt holds.tracks.held_eq_nil_iff.mp empty
    rw [List.head?_append_of_ne_nil _ occupied] at member
    exact holds.starts required before head member

theorem KeyFrameHeld.next (holds : history.KeyFrameHeld) (input : DepacketizerCall)
    (opens : history.depacketizer.OpensOnKeyFrame input) : (history.next input).KeyFrameHeld := by
  refine ⟨holds.tracks.next input, ?_⟩
  cases input with
  | setSyncPoint => exact fun _ _ _ member => absurd member (Option.not_mem_none _)
  | parse call =>
    have step := step_answer history.depacketizer call
    rw [Vp8History.next]
    generalize answer history.depacketizer call = result at step ⊢
    cases step with
    | empty | refused =>
      rw [holds.tracks.heldAfter_of_error rfl rfl]
      exact holds.starts
    | shortKeyFrame payload carries short =>
      rw [holds.tracks.heldAfter_of_error rfl rfl]
      intro required _ head member
      by_cases key : history.depacketizer.frameType = .videoFrameKey
      · exact holds.starts required key head member
      · have empty := ((opens payload carries required).1 short.1 (.inl short)).resolve_right key
        rw [holds.tracks.held_eq_nil_iff.mpr empty] at member
        cases member
    | tooLarge | dropped | delivered =>
      exact fun _ _ _ member => absurd member (Option.not_mem_none _)
    | held payload accepts unmarked =>
      rw [heldAfter_of_held accepts]
      exact holds.hold accepts opens

end Vp8History

namespace RtpDepacketizerVp8

variable {depacketizer : RtpDepacketizerVp8}

theorem keyRequired_step {input : DepacketizerCall} (required : depacketizer.keyRequired = true)
    (silent : Silent depacketizer [input]) :
    ((machine _).step depacketizer input).1.keyRequired = true := by
  cases input with
  | setSyncPoint => rfl
  | parse call =>
    have status := silent (answer depacketizer call) (by simp)
    have step := step_answer depacketizer call
    rw [machine_step_parse]
    generalize answer depacketizer call = result at step status ⊢
    cases step with
    | empty | refused | shortKeyFrame | tooLarge | held | dropped => exact required
    | delivered => exact absurd rfl status

theorem keyRequired_run {calls : List DepacketizerCall} (required : depacketizer.keyRequired = true)
    (silent : Silent depacketizer calls) :
    ((machine _).run depacketizer calls).keyRequired = true := by
  induction calls generalizing depacketizer with
  | nil => exact required
  | cons input calls ih => exact ih (keyRequired_step required silent.cons.1) silent.cons.2

theorem synchronised (frame : Memory UInt8) {calls : List DepacketizerCall}
    (synchronises : Synchronises calls) :
    ((machine _).run (create frame) calls).keyRequired = true ∧
      (Vp8History.machine.run (.begin (create frame)) calls).held = [] := by
  -- the construction or the `set_sync_point` at the end
  rcases List.eq_nil_or_concat calls with rfl | ⟨before, last, rfl⟩
  · exact ⟨rfl, rfl⟩
  · obtain rfl := synchronises last (by simp)
    rw [List.concat_eq_append, Machine.run_append, Machine.run_append]
    exact ⟨rfl, rfl⟩

/-- Where the gate opens on key frames only, the first frame is a key frame. -/
theorem firstFrameIsKeyFrame (frame : Memory UInt8) (calls : List DepacketizerCall)
    (opens : (machine _).Guarded OpensOnKeyFrame (create frame) calls) :
    FirstFrameIsKeyFrame (create frame) calls := by
  rintro past since call after rfl synchronises synced silent out bytes delivered
  obtain ⟨required, nothing⟩ := synchronised frame synchronises
  rw [← List.append_assoc] at opens
  obtain ⟨opensBefore, opensCall, -⟩ := ((machine _).guarded_append ..).mp opens
  have held : (Vp8History.machine.run (.begin (create frame)) (past ++ since)).KeyFrameHeld :=
    Vp8History.machine.run_invariant_of_guarded (fun _ input holds opens => holds.next input opens)
      (Vp8History.keyFrameHeld_of_nothing rfl) (Vp8History.projects.guarded opensBefore)
  rw [Machine.run_append] at held opensCall
  -- only a delivery lifts the requirement, and there was none
  have stillRequired := keyRequired_run required silent
  generalize start : Vp8History.machine.run (.begin (create frame)) past = history at held nothing
  have state : (machine _).run (create frame) past = history.depacketizer := by
    rw [← start, Vp8History.run_begin]
  simp only [synced, state] at delivered opensCall stillRequired ⊢
  rw [← Vp8History.projects.run] at opensCall stillRequired delivered
  obtain ⟨⟨payload, accepts, passes⟩, same, -⟩ := held.tracks.delivery delivered
  have key := passes.resolve_left fun notRequired =>
    Bool.false_ne_true (notRequired.symm.trans stillRequired)
  have starts := held.hold accepts opensCall stillRequired key
  rw [same]
  cases contributors : (Vp8History.machine.run history since).delivers call with
  | nil => simp [Vp8History.delivers] at contributors
  | cons head rest =>
    have first : head ∈ ((Vp8History.machine.run history since).held ++ [call]).head? := by
      rw [← Vp8History.delivers, contributors]
      rfl
    refine ⟨head, Vp8History.acceptedIn_of_delivers nothing accepts (by rw [contributors]; simp),
      starts head first, ?_⟩
    rw [List.flatMap_cons]
    exact List.prefix_append ..

/-- The first packet of a key frame whose rest is still to come. -/
def sampleKeyFrameStart : ParseCall :=
  .ofPayload [0x10, 0x10, 0, 0, 0x9d, 1, 0x2a, 0x80, 2, 0xe0, 1] false 0 100

theorem firstFrameIsKeyFrame_sample :
    FirstFrameIsKeyFrame (create fun _ => 0)
      [.parse sampleTail, .setSyncPoint, .parse sampleKeyFrameStart, .parse sampleTail] :=
  firstFrameIsKeyFrame _ _ (by decide +kernel)

/-- With `set_sync_point` in the middle of a key frame, the rest of it passes the gate. -/
theorem firstFrameIsKeyFrame_staleType :
    ¬ FirstFrameIsKeyFrame (create fun _ => 0)
      [.parse sampleKeyFrameStart, .setSyncPoint, .parse sampleTail] := by
  intro all
  obtain ⟨head, ⟨before, after, -, split, -⟩, ⟨payload, carries, begins⟩, -⟩ :=
    all [.parse sampleKeyFrameStart, .setSyncPoint] [] sampleTail [] rfl
      (fun last member => by simpa using member.symm)
      (fun _ member => absurd member List.not_mem_nil)
      ⟨2, 3000, frameIsSyncPoint, 100, 2⟩ [7, 8] (by decide +kernel)
  have member : DepacketizerCall.parse head ∈ [DepacketizerCall.parse sampleTail] := by
    rw [List.nil_append] at split
    rw [split]
    simp
  obtain rfl := DepacketizerCall.parse.inj (List.mem_singleton.mp member)
  have continued : Vp8Payload.ofCall sampleTail = some ⟨false, [7, 8]⟩ := by decide +kernel
  obtain rfl := Option.some.inj (continued.symm.trans carries)
  cases begins

end RtpDepacketizerVp8

end RtpPlayer
