import RtpPlayer.Depacketizers.NaluSteps

/-! # The random-access gate

The sentries are cleared by the types of decoded NALUs, and the marker alone ends a frame.  Where
the operations of a packet keep what has cleared the sentries in `m_frame` until an IDR slice is
there too, the first frame is one that decoding can start at. -/

namespace RtpPlayer

open Foundations
open RtpDepacketizer

namespace RtpDepacketizerH264

open NaluOperation (startcode)

/-! ## Access points -/

/-- A NALU of the type, behind its start code. -/
def IsNalu (naluType : UInt8) (bytes : List UInt8) : Prop :=
  ∃ header body, bytes = startcode ++ header :: body ∧ packetType header = naluType

def Contains (naluType : UInt8) (nalus : List (List UInt8)) : Prop :=
  ∃ nalu ∈ nalus, IsNalu naluType nalu

def HasAccessPoint (nalus : List (List UInt8)) : Prop :=
  ∃ before idr after, nalus = before ++ idr :: after ∧ IsNalu idrType idr ∧
    Contains spsType before ∧ Contains ppsType before

/-- Each cleared sentry stands for one of the NALUs. -/
structure Collected (sentries : Sentries) (nalus : List (List UInt8)) : Prop where
  sps : sentries.sps = false → Contains spsType nalus
  pps : sentries.pps = false → Contains ppsType nalus
  idr : sentries.idr = false → HasAccessPoint nalus

theorem Contains.append {naluType : UInt8} {nalus : List (List UInt8)}
    (contains : Contains naluType nalus) (nalu : List UInt8) :
    Contains naluType (nalus ++ [nalu]) := by
  obtain ⟨found, member, typed⟩ := contains
  exact ⟨found, List.mem_append_left _ member, typed⟩

theorem contains_last {naluType : UInt8} {nalu : List UInt8} (typed : IsNalu naluType nalu)
    (nalus : List (List UInt8)) : Contains naluType (nalus ++ [nalu]) :=
  ⟨nalu, List.mem_append_right _ (List.mem_singleton_self _), typed⟩

theorem HasAccessPoint.append {nalus : List (List UInt8)} (accessPoint : HasAccessPoint nalus)
    (nalu : List UInt8) : HasAccessPoint (nalus ++ [nalu]) := by
  obtain ⟨before, idr, after, rfl, typed⟩ := accessPoint
  exact ⟨before, idr, after ++ [nalu], by simp, typed⟩

theorem Collected.append {sentries : Sentries} {nalus : List (List UInt8)}
    (collected : Collected sentries nalus) (nalu : List UInt8) :
    Collected sentries (nalus ++ [nalu]) where
  sps cleared := (collected.sps cleared).append nalu
  pps cleared := (collected.pps cleared).append nalu
  idr cleared := (collected.idr cleared).append nalu

/-- A NALU that moves the gate clears the sentry of its type. -/
theorem Sentries.gate_changed {sentries : Sentries} {naluType : UInt8}
    (changed : (sentries.gate naluType).2 ≠ sentries) :
    (naluType = spsType ∧ (sentries.gate naluType).2 = { sentries with sps := false }) ∨
      (naluType = ppsType ∧ (sentries.gate naluType).2 = { sentries with pps := false }) ∨
      (naluType = idrType ∧ sentries.sps = false ∧ sentries.pps = false ∧
        (sentries.gate naluType).2 = { sentries with idr := false }) := by
  unfold gate at *
  split_ifs at * with armed parameterSet sps missing other
  · exact .inl ⟨sps, rfl⟩
  · exact .inr (.inl ⟨parameterSet.resolve_left sps, rfl⟩)
  · exact absurd rfl changed
  · exact absurd rfl changed
  · obtain ⟨sps, pps⟩ := not_or.mp missing
    exact .inr (.inr ⟨not_not.mp other, Bool.eq_false_iff.mpr sps, Bool.eq_false_iff.mpr pps, rfl⟩)
  · exact absurd rfl changed

/-- What passes the gate is collected, if it is what it has passed as. -/
theorem Collected.gate {sentries : Sentries} {nalus : List (List UInt8)}
    (collected : Collected sentries nalus) {naluType : UInt8} {nalu : List UInt8}
    (typed : (sentries.gate naluType).2 ≠ sentries → IsNalu naluType nalu) :
    Collected (sentries.gate naluType).2 (nalus ++ [nalu]) := by
  by_cases unchanged : (sentries.gate naluType).2 = sentries
  · rw [unchanged]
    exact collected.append nalu
  -- the last sentry falls to an IDR slice behind both parameter sets, and that is an access point
  · have isNalu := typed unchanged
    have grown := collected.append nalu
    rcases Sentries.gate_changed unchanged with
      ⟨rfl, cleared⟩ | ⟨rfl, cleared⟩ | ⟨rfl, sps, pps, cleared⟩
    · rw [cleared]
      exact ⟨fun _ => contains_last isNalu nalus, grown.pps, grown.idr⟩
    · rw [cleared]
      exact ⟨grown.sps, fun _ => contains_last isNalu nalus, grown.idr⟩
    · rw [cleared]
      exact ⟨grown.sps, grown.pps, fun _ =>
        ⟨nalus, nalu, [], rfl, isNalu, collected.sps sps, collected.pps pps⟩⟩

def Sentries.armed : Sentries := ⟨true, true, true⟩

theorem collected_armed (nalus : List (List UInt8)) : Collected .armed nalus :=
  ⟨nofun, nofun, nofun⟩

/-! ## Operations that keep the gate honest -/

/-- While the first frame is awaited: a NALU is too large for `m_nalu` only before any sentry is
cleared; a NALU that clears one has a start code and a header, and the frame has room for them; and
a NALU that ends the frame is the last of its packet, and an IDR slice where a sentry is set. -/
def KeepsAccessPoint (operation : NaluOperation) (remaining : List NaluOperation)
    (result : ParseResult RtpDepacketizerH264) : Prop :=
  match operation with
  | .append _ bytes => maxEsFrameSize < result.depacketizer.naluLen + bytes.length →
      result.depacketizer.sentries = .armed
  | .decode last => result.depacketizer.naluLen ≠ 0 → result.depacketizer.Admits →
      ((result.depacketizer.sentries.gate result.depacketizer.naluType).2 ≠
          result.depacketizer.sentries →
        startcodeLength < result.depacketizer.storedLen ∧
          result.depacketizer.nalu.slice 0 startcodeLength = startcode) ∧
      (result.depacketizer.closes last = true →
        remaining = [] ∧ (result.depacketizer.sentries ≠ .clear →
          result.depacketizer.naluType = idrType))
  | .fail => True

instance (operation : NaluOperation) (remaining : List NaluOperation)
    (result : ParseResult RtpDepacketizerH264) :
    Decidable (KeepsAccessPoint operation remaining result) :=
  match operation with
  | .append _ _ => inferInstanceAs (Decidable (_ → _))
  | .decode _ => inferInstanceAs (Decidable (_ → _ → _ ∧ _))
  | .fail => .isTrue trivial

/-- `m_frame` is made of NALUs for every cleared sentry. -/
def HoldsCollected (depacketizer : RtpDepacketizerH264) : Prop :=
  ∃ nalus : List (List UInt8),
    depacketizer.frame.slice 0 depacketizer.frameLen = nalus.flatten ∧
      Collected depacketizer.sentries nalus

/-- The frame handed out has an access point, and no sentry is set. -/
structure HandsOutAccessPoint (result : ParseResult RtpDepacketizerH264) : Prop where
  sentries : result.depacketizer.sentries = .clear
  frame : ∀ frame ∈ result.frame, ∃ nalus : List (List UInt8),
    frameBytes result frame = nalus.flatten ∧ HasAccessPoint nalus

/-- Either the first frame is still awaited or it is handed out and the script has ended. -/
def AwaitsOrHandsOut (remaining : List NaluOperation) (result : ParseResult RtpDepacketizerH264) :
    Prop :=
  (result.status ≠ .frame ∧ result.depacketizer.HoldsCollected) ∨
    (result.status = .frame ∧ remaining = [] ∧ HandsOutAccessPoint result)

theorem isNalu_slice {depacketizer : RtpDepacketizerH264} {length : Nat}
    (header : startcodeLength < length)
    (begins : depacketizer.nalu.slice 0 startcodeLength = startcode) :
    IsNalu depacketizer.naluType (depacketizer.nalu.slice 0 length) := by
  obtain ⟨rest, stored⟩ := Nat.exists_eq_add_of_lt header
  rw [stored, Nat.add_assoc, Memory.slice_add, begins, Nat.zero_add, Memory.slice_succ]
  exact ⟨_, _, rfl, rfl⟩

theorem store_sentries (depacketizer : RtpDepacketizerH264) :
    depacketizer.store.sentries = (depacketizer.sentries.gate depacketizer.naluType).2 := by
  rw [store_eq]
  rfl

/-- Storing a NALU that clears a sentry only as what it is. -/
theorem HoldsCollected.store {depacketizer : RtpDepacketizerH264}
    (holds : depacketizer.HoldsCollected)
    (typed : (depacketizer.sentries.gate depacketizer.naluType).2 ≠ depacketizer.sentries →
      startcodeLength < depacketizer.storedLen ∧
        depacketizer.nalu.slice 0 startcodeLength = startcode) :
    depacketizer.store.HoldsCollected := by
  obtain ⟨nalus, bytes, collected⟩ := holds
  refine ⟨nalus ++ [depacketizer.nalu.slice 0 depacketizer.storedLen], ?_, ?_⟩
  · rw [store_frame, bytes, List.flatten_append, List.flatten_singleton]
  · rw [store_sentries]
    exact collected.gate fun changed => isNalu_slice (typed changed).1 (typed changed).2

theorem Sentries.gate_idr {sentries : Sentries} (passes : (sentries.gate idrType).1 = true) :
    (sentries.gate idrType).2 = .clear := by
  obtain ⟨sps, pps, idr⟩ := sentries
  revert sps pps idr
  decide

/-- Nothing but an IDR slice may end the frame while a sentry is set. -/
theorem store_sentries_of_closing {depacketizer : RtpDepacketizerH264}
    (admits : depacketizer.Admits)
    (idr : depacketizer.sentries ≠ .clear → depacketizer.naluType = idrType) :
    depacketizer.store.sentries = .clear := by
  rw [store_sentries]
  by_cases clear : depacketizer.sentries = .clear
  · rw [clear, Sentries.gate_clear]
  · rw [Admits, idr clear] at admits
    rw [idr clear, Sentries.gate_idr admits]

theorem keepsAccessPoint_step (call : ParseCall) {operation : NaluOperation}
    {remaining : List NaluOperation} {result : ParseResult RtpDepacketizerH264}
    (holds : result.depacketizer.HoldsCollected) (awaits : result.status ≠ .frame)
    (keeps : KeepsAccessPoint operation remaining result) :
    match perform call operation result with
    | .ok next => AwaitsOrHandsOut remaining next
    | .error final => AwaitsOrHandsOut [] final := by
  have step := naluStep_perform call operation result
  generalize perform call operation result = outcome at step ⊢
  cases step with
  | appended part bytes fits => exact .inl ⟨awaits, holds⟩
  | overflowed part bytes tooLarge =>
    -- `m_frame` is emptied without the sentries being set, so none may be cleared by then
    have armed : result.depacketizer.sentries = .armed := keeps tooLarge
    refine .inl ⟨nofun, [], rfl, ?_⟩
    exact armed ▸ collected_armed []
  | nothing last empty => exact .inl ⟨nofun, holds⟩
  | rejected last occupied rejected => exact .inl ⟨nofun, holds⟩
  | stored last occupied admits remains =>
    exact .inl ⟨nofun, holds.store (keeps occupied admits).1⟩
  | closed last occupied admits closing =>
    obtain ⟨typed, ends⟩ := keeps occupied admits
    obtain ⟨rfl, idr⟩ := ends closing
    have clear := store_sentries_of_closing admits idr
    obtain ⟨nalus, bytes, collected⟩ := holds.store typed
    refine .inr ⟨rfl, rfl, clear, fun frame handed => ?_⟩
    obtain ⟨_, _, rfl⟩ := Option.map_eq_some_iff.mp handed
    exact ⟨nalus, bytes, collected.idr (by rw [clear]; rfl)⟩
  | failed => exact .inl ⟨nofun, holds⟩

theorem awaitsOrHandsOut_execute {call : ParseCall} {operations : List NaluOperation}
    {result : ParseResult RtpDepacketizerH264} (holds : AwaitsOrHandsOut operations result)
    (keeps : Script.Guarded (perform call) KeepsAccessPoint operations result) :
    AwaitsOrHandsOut [] (Script.execute (perform call) operations result) := by
  -- the invariant knows what remains: once a frame is handed out, nothing may
  refine Script.execute_invariant_of_guarded ?_ ?_ operations holds keeps
  · intro operation remaining state next holds keeps continues
    rcases holds with ⟨awaits, collected⟩ | ⟨-, none, -⟩
    · have step := keepsAccessPoint_step call collected awaits keeps
      rw [continues] at step
      exact step
    · cases none
  · intro operation remaining state final holds keeps ends
    rcases holds with ⟨awaits, collected⟩ | ⟨-, none, -⟩
    · have step := keepsAccessPoint_step call collected awaits keeps
      rw [ends] at step
      exact step
    · cases none

theorem sentries_clear_answer {depacketizer : RtpDepacketizerH264}
    (clear : depacketizer.sentries = .clear) (call : ParseCall) :
    (answer depacketizer call).depacketizer.sentries = .clear := by
  by_cases empty : call.payload = []
  · rw [answer_of_empty _ empty]
    exact clear
  · rw [answer_eq _ empty]
    have keeps : ∀ operation ∈ NaluOperation.ofPacket call.payload call.marker,
        ∀ result : ParseResult RtpDepacketizerH264, result.depacketizer.sentries = .clear →
        (Script.after (perform call operation result)).depacketizer.sentries = .clear := by
      intro operation _ result clear
      have step := naluStep_perform call operation result
      generalize perform call operation result = outcome at step ⊢
      cases step with
      | appended | overflowed | nothing | rejected | failed => exact clear
      | stored | closed =>
        change result.depacketizer.store.sentries = .clear
        rw [store_sentries, clear, Sentries.gate_clear]
    exact Script.execute_invariant keeps clear

end RtpDepacketizerH264

/-! ## Runs -/

/-- A depacketizer and whether its first frame since the construction or the last `set_sync_point`
is still to come. -/
structure AwaitedFrame where
  depacketizer : RtpDepacketizerH264
  awaited : Bool

namespace AwaitedFrame

open RtpDepacketizerH264 (KeepsAccessPoint HoldsCollected AwaitsOrHandsOut HandsOutAccessPoint
  perform)

def next (state : AwaitedFrame) : DepacketizerCall → AwaitedFrame
  | .parse call =>
    ⟨(answer state.depacketizer call).depacketizer,
      state.awaited && (answer state.depacketizer call).status != .frame⟩
  | .setSyncPoint => ⟨state.depacketizer.setSyncPoint, true⟩

def machine : Machine AwaitedFrame DepacketizerCall (Option (ParseResult RtpDepacketizerH264)) where
  step state call :=
    (state.next call, ((RtpDepacketizer.machine _).step state.depacketizer call).2)

theorem projects : machine.Projects (RtpDepacketizer.machine _) depacketizer := by
  intro state call
  cases call with
  | parse call => rfl
  | setSyncPoint => rfl

/-- While a frame is awaited, the operations of the packet keep the gate honest. -/
def Keeps (state : AwaitedFrame) : DepacketizerCall → Prop
  | .setSyncPoint => True
  | .parse call => state.awaited = true →
      Script.Guarded (perform call) KeepsAccessPoint
        (NaluOperation.ofPacket call.payload call.marker) (state.depacketizer.beginPacket call)

instance (state : AwaitedFrame) : DecidablePred state.Keeps
  | .setSyncPoint => .isTrue trivial
  | .parse _ => inferInstanceAs (Decidable (_ → _))

/-- What is in the frame is collected while the first frame is awaited; no sentry is set
afterwards. -/
structure Gated (state : AwaitedFrame) : Prop where
  awaits : state.awaited = true → state.depacketizer.HoldsCollected
  opened : state.awaited = false → state.depacketizer.sentries = .clear

variable {state : AwaitedFrame} {call : ParseCall}

theorem awaitsOrHandsOut_answer (gated : state.Gated) (awaited : state.awaited = true)
    (keeps : state.Keeps (.parse call)) :
    AwaitsOrHandsOut [] (answer state.depacketizer call) := by
  by_cases empty : call.payload = []
  · rw [RtpDepacketizerH264.answer_of_empty _ empty]
    exact .inl ⟨nofun, gated.awaits awaited⟩
  · rw [RtpDepacketizerH264.answer_eq _ empty]
    exact RtpDepacketizerH264.awaitsOrHandsOut_execute (.inl ⟨nofun, gated.awaits awaited⟩)
      (keeps awaited)

theorem Gated.next (gated : state.Gated) (input : DepacketizerCall) (keeps : state.Keeps input) :
    (state.next input).Gated := by
  cases input with
  | setSyncPoint => exact ⟨fun _ => ⟨[], rfl, RtpDepacketizerH264.collected_armed []⟩, nofun⟩
  | parse call =>
    -- behind the first frame no sentry is set, and nothing but `set_sync_point` sets one
    cases awaited : state.awaited with
    | false =>
      refine ⟨fun stillAwaited => ?_, fun _ => ?_⟩
      · rw [AwaitedFrame.next, awaited] at stillAwaited
        cases stillAwaited
      · exact RtpDepacketizerH264.sentries_clear_answer (gated.opened awaited) call
    | true =>
      rcases awaitsOrHandsOut_answer gated awaited keeps with
        ⟨silent, collected⟩ | ⟨delivered, -, accessPoint⟩
      · refine ⟨fun _ => collected, fun opened => ?_⟩
        simp [AwaitedFrame.next, awaited, silent] at opened
      · refine ⟨fun stillAwaited => ?_, fun _ => accessPoint.sentries⟩
        simp [AwaitedFrame.next, delivered] at stillAwaited

theorem awaited_of_silent {calls : List DepacketizerCall} (awaited : state.awaited = true)
    (silent : Silent state.depacketizer calls) : (machine.run state calls).awaited = true := by
  induction calls generalizing state with
  | nil => exact awaited
  | cons input calls ih =>
    obtain ⟨first, rest⟩ := silent.cons
    have stillAwaited : (state.next input).awaited = true := by
      cases input with
      | setSyncPoint => rfl
      | parse call =>
        have status : (answer state.depacketizer call).status ≠ .frame := first _ (by simp)
        simp [next, awaited, status]
    rw [← projects] at rest
    exact ih stillAwaited rest

/-- The construction and `set_sync_point` make a first frame awaited. -/
theorem awaited_run {depacketizer : RtpDepacketizerH264} {past since : List DepacketizerCall}
    (synchronises : Synchronises past)
    (silent : Silent ((RtpDepacketizer.machine _).run depacketizer past) since) :
    (machine.run ⟨depacketizer, true⟩ (past ++ since)).awaited = true := by
  -- `past` is empty or ends in `set_sync_point`
  have start : (machine.run ⟨depacketizer, true⟩ past).awaited = true := by
    rcases List.eq_nil_or_concat past with rfl | ⟨before, last, rfl⟩
    · rfl
    · obtain rfl := synchronises last (by simp)
      rw [List.concat_eq_append, Machine.run_append]
      rfl
  rw [Machine.run_append]
  exact awaited_of_silent start (by rw [projects.run]; exact silent)

end AwaitedFrame

namespace RtpDepacketizerH264

/-- After the construction and after every `set_sync_point` the first frame has an SPS, a PPS and
behind them an IDR slice, and whenever a frame is delivered no sentry is set. -/
structure OpensWithAccessPoint (depacketizer : RtpDepacketizerH264)
    (calls : List DepacketizerCall) : Prop where
  first : ∀ past since call after, calls = past ++ (since ++ .parse call :: after) →
    Synchronises past → Silent ((machine _).run depacketizer past) since → ∀ frame bytes,
    delivery (answer ((machine _).run depacketizer (past ++ since)) call) = some (frame, bytes) →
      ∃ nalus : List (List UInt8), bytes = nalus.flatten ∧ HasAccessPoint nalus
  gated : ∀ before call after, calls = before ++ .parse call :: after →
    (answer ((machine _).run depacketizer before) call).status = .frame →
      (answer ((machine _).run depacketizer before) call).depacketizer.sentries = .clear

/-- Where the packets keep the gate honest while a first frame is awaited, that frame has an access
point. -/
theorem opens_with_accessPoint (nalu frame : Memory UInt8) (calls : List DepacketizerCall)
    (keeps : AwaitedFrame.machine.Guarded AwaitedFrame.Keeps ⟨create nalu frame, true⟩ calls) :
    OpensWithAccessPoint (create nalu frame) calls := by
  -- the invariant before each call of the run, and what the run says of the call
  have reached : ∀ before call after, calls = before ++ .parse call :: after →
      (AwaitedFrame.machine.run ⟨create nalu frame, true⟩ before).Gated ∧
        (AwaitedFrame.machine.run ⟨create nalu frame, true⟩ before).Keeps (.parse call) := by
    rintro before call after rfl
    obtain ⟨keepsBefore, keepsCall, -⟩ := (AwaitedFrame.machine.guarded_append ..).mp keeps
    refine ⟨AwaitedFrame.machine.run_invariant_of_guarded
      (fun _ input gated keeps => gated.next input keeps) ?_ keepsBefore, keepsCall⟩
    exact ⟨fun _ => ⟨[], rfl, collected_armed []⟩, nofun⟩
  constructor
  · intro past since call after split synchronises silent out bytes delivered
    have awaited := AwaitedFrame.awaited_run synchronises silent
    rw [← List.append_assoc] at split
    obtain ⟨gated, keepsCall⟩ := reached (past ++ since) call after split
    have handed := AwaitedFrame.awaitsOrHandsOut_answer gated awaited keepsCall
    rw [AwaitedFrame.projects.run] at handed
    obtain ⟨status, filled, rfl⟩ := delivery_eq_some_iff.mp delivered
    rcases handed with ⟨silent, -⟩ | ⟨-, -, accessPoint⟩
    · exact absurd status silent
    · exact accessPoint.frame out filled
  · intro before call after split status
    obtain ⟨gated, keepsCall⟩ := reached before call after split
    have state : (AwaitedFrame.machine.run ⟨create nalu frame, true⟩ before).depacketizer =
        (machine _).run (create nalu frame) before := AwaitedFrame.projects.run _ _
    rw [← state] at status ⊢
    cases awaited : (AwaitedFrame.machine.run ⟨create nalu frame, true⟩ before).awaited with
    | false => exact sentries_clear_answer (gated.opened awaited) call
    | true =>
      rcases AwaitedFrame.awaitsOrHandsOut_answer gated awaited keepsCall with
        ⟨silent, -⟩ | ⟨-, -, accessPoint⟩
      · exact absurd status silent
      · exact accessPoint.sentries

theorem opens_with_accessPoint_sample :
    OpensWithAccessPoint (create (fun _ => 0) fun _ => 0)
      [.parse (.ofPayload [0x41, 9] true 0 96), .setSyncPoint,
        .parse (.ofPayload [0x18, 0, 2, 0x67, 1, 0, 2, 0x68, 2] false 3000 96),
        .parse (.ofPayload [0x65, 3] true 3000 96), .parse (.ofPayload [0x41, 4] true 6000 96)] :=
  opens_with_accessPoint _ _ _ (by decide +kernel)

/-- An SPS with the marker is a frame of its own. -/
theorem opens_with_parameterSet :
    ¬ OpensWithAccessPoint (create (fun _ => 0) fun _ => 0)
      [.parse (.ofPayload [0x67, 1] true 0 96)] := by
  intro opens
  have gated := opens.gated [] (.ofPayload [0x67, 1] true 0 96) [] rfl (by decide +kernel)
  exact absurd gated (by decide +kernel)

end RtpDepacketizerH264

end RtpPlayer
