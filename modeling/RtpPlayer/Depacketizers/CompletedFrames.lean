import RtpPlayer.Depacketizers.NaluSteps

/-! # Completed frames

`decode_nalu` completes a frame when it is told to or when the frame is full.  In a STAP-A packet
the second can happen before the last NALU, and then what follows takes the place of the frame. -/

namespace RtpPlayer

open Foundations
open RtpDepacketizer

namespace RtpDepacketizerH264

open NaluOperation (startcode wholeNalu)

/-! ## Frames that one call completes -/

/-- What a decode that completes a frame returns and leaves. -/
def completed (call : ParseCall) (operation : NaluOperation)
    (result : ParseResult RtpDepacketizerH264) : List (ParseResult RtpDepacketizerH264) :=
  match operation with
  | .decode last =>
    let decoded := result.depacketizer.decNalu last call result.frame
    if decoded.status = .frame then [decoded] else []
  | _ => []

/-- The frames that `decode_nalu` completes in one `parse` call, as they are then. -/
def completions (depacketizer : RtpDepacketizerH264) (call : ParseCall) :
    List (ParseResult RtpDepacketizerH264) :=
  Script.emitted (perform call) (completed call)
    (NaluOperation.ofPacket call.payload call.marker) (depacketizer.beginPacket call)

/-- The end of the call is the only completion, or there is none. -/
structure Surfaces (final : ParseResult RtpDepacketizerH264)
    (completions : List (ParseResult RtpDepacketizerH264)) : Prop where
  returned : ∀ complete ∈ completions, final.status = .frame ∧ final.frame = complete.frame ∧
    ∀ frame ∈ complete.frame, frameBytes final frame = frameBytes complete frame
  once : completions.length ≤ 1

/-! ## The NALUs that end early -/

/-- The NALUs of a STAP-A packet, behind its header, that end before the packet does. -/
def earlyNalus : List UInt8 → List (List UInt8)
  | high :: low :: rest =>
    let length := (ByteOrder.ofBigEndian16 high low).toNat
    if length < rest.length then rest.take length :: earlyNalus (rest.drop length) else []
  | _ => []
termination_by bytes => bytes.length
decreasing_by
  simp only [List.length_drop, List.length_cons]
  omega

/-- One of the NALUs is let through to a frame that has no room for it.  `header` is the byte of
`m_nalu` that tells the type, and `naluLen` bytes of `m_nalu` come before the first NALU. -/
def Overfills (sentries : Sentries) (frameLen naluLen : Nat) (header : UInt8) :
    List (List UInt8) → Prop
  | [] => False
  | nalu :: nalus =>
    let header := if naluLen ≤ startcodeLength then
      (startcode ++ nalu).getD (startcodeLength - naluLen) header else header
    let length := naluLen + (startcode ++ nalu).length
    let (admitted, left) := sentries.gate (packetType header)
    -- a NALU that is too large for `m_nalu` ends the packet
    length ≤ maxEsFrameSize ∧
      (admitted = true ∧ maxEsFrameSize < frameLen + length ∨
        Overfills left (if admitted then frameLen + length else frameLen) 0 header nalus)

/-- A NALU of a STAP-A packet that ends before the packet does overfills the frame. -/
def OverfillsEarly (depacketizer : RtpDepacketizerH264) : List UInt8 → Prop
  | [] => False
  | first :: rest => packetType first = 24 ∧ Overfills depacketizer.sentries depacketizer.frameLen
      depacketizer.naluLen (depacketizer.nalu startcodeLength) (earlyNalus rest)

/-! ## Scripts -/

/-- The script surfaces the frame that it completes. -/
def SurfacesFrom (call : ParseCall) (operations : List NaluOperation)
    (result : ParseResult RtpDepacketizerH264) : Prop :=
  Surfaces (Script.execute (perform call) operations result)
    (Script.emitted (perform call) (completed call) operations result)

variable {call : ParseCall} {result : ParseResult RtpDepacketizerH264}

theorem surfaces_nil (final : ParseResult RtpDepacketizerH264) : Surfaces final [] :=
  ⟨fun _ member => absurd member List.not_mem_nil, Nat.zero_le _⟩

theorem surfacesFrom_singleton (operation : NaluOperation) :
    SurfacesFrom call [operation] result := by
  cases operation with
  | append part bytes =>
    have none : Script.emitted (perform call) (completed call) [.append part bytes] result =
        [] := by
      simp only [Script.emitted, completed]
      split <;> rfl
    rw [SurfacesFrom, none]
    exact surfaces_nil _
  | fail =>
    exact surfaces_nil _
  | decode last =>
    simp only [SurfacesFrom, Script.emitted, Script.execute, perform, completed, List.append_nil]
    split
    next completes =>
      constructor
      case once => exact Nat.le_refl _
      case returned =>
        intro complete member
        rw [List.mem_singleton.mp member]
        exact ⟨completes, rfl, fun _ _ => rfl⟩
    next => exact surfaces_nil _

theorem surfacesFrom_append {part : NaluPart} {bytes : List UInt8}
    {operations : List NaluOperation}
    (rest : ∀ next, SurfacesFrom call operations next) :
    SurfacesFrom call (.append part bytes :: operations) result := by
  cases outcome : perform call (.append part bytes) result with
  | ok next =>
    rw [SurfacesFrom, Script.execute_cons_ok _ outcome, Script.emitted_cons_ok _ outcome]
    exact rest next
  | error final =>
    rw [SurfacesFrom, Script.emitted_cons_error _ outcome]
    exact surfaces_nil _

theorem surfacesFrom_wholeNalu (nalu : List UInt8) (last : Bool) :
    SurfacesFrom call (wholeNalu nalu last) result :=
  surfacesFrom_append fun _ => surfacesFrom_append fun _ => surfacesFrom_singleton _

theorem surfacesFrom_ofFuA (marker : Bool) (indicator : UInt8) (bytes : List UInt8) :
    SurfacesFrom call (NaluOperation.ofFuA marker indicator bytes) result := by
  have fragment (finish : Prop) [Decidable finish] (bytes : List UInt8)
      (next : ParseResult RtpDepacketizerH264) : SurfacesFrom call
        (.append .payload bytes :: if finish then [.decode marker] else []) next := by
    split
    next => exact surfacesFrom_append fun _ => surfacesFrom_singleton _
    next => exact surfacesFrom_singleton _
  cases bytes with
  | nil => exact surfacesFrom_singleton _
  | cons header bytes =>
    rw [NaluOperation.ofFuA]
    split
    next => exact surfacesFrom_singleton _
    next =>
      split
      next => exact surfacesFrom_append fun _ => surfacesFrom_append fun _ => fragment ..
      next => exact fragment ..

/-- A frame that a script returns is one that it has completed. -/
theorem emitted_of_frame {operations : List NaluOperation} (ends : EndsNalu operations)
    (returns : (Script.execute (perform call) operations result).status = .frame) :
    Script.emitted (perform call) (completed call) operations result ≠ [] := by
  obtain ⟨earlier, last, rfl, notAppend⟩ := ends
  induction earlier generalizing result with
  | nil =>
    rw [List.nil_append] at returns ⊢
    cases last with
    | append part bytes => exact absurd rfl (notAppend part bytes)
    | fail => cases returns
    | decode last =>
      simp only [Script.execute, perform] at returns
      simp [Script.emitted, completed, returns]
  | cons operation earlier ih =>
    rw [List.cons_append] at returns ⊢
    cases outcome : perform call operation result with
    | ok next =>
      rw [Script.execute_cons_ok _ outcome] at returns
      rw [Script.emitted_cons_ok _ outcome]
      exact List.append_ne_nil_of_right_ne_nil _ (ih returns)
    | error final =>
      rw [Script.execute_cons_error _ outcome] at returns
      have step := naluStep_perform call operation result
      rw [outcome] at step
      cases step <;> cases returns

/-- A frame that is completed before the end of a script is swallowed. -/
theorem not_surfaces_cons {complete : ParseResult RtpDepacketizerH264}
    {operations : List NaluOperation} (ends : EndsNalu operations) :
    ¬ Surfaces (Script.execute (perform call) operations result)
      (complete :: Script.emitted (perform call) (completed call) operations result) := by
  intro surfaces
  have returns := (surfaces.returned complete List.mem_cons_self).1
  have once := surfaces.once
  have more := List.length_pos_of_ne_nil (emitted_of_frame ends returns)
  rw [List.length_cons] at once
  omega

/-! ## One NALU of a STAP-A packet -/

/-- The NALU is in `m_nalu`, behind what was there. -/
def load (depacketizer : RtpDepacketizerH264) (nalu : List UInt8) : RtpDepacketizerH264 :=
  depacketizer.pushNalu (startcode ++ nalu)

theorem load_naluLen (depacketizer : RtpDepacketizerH264) (nalu : List UInt8) :
    (load depacketizer nalu).naluLen = depacketizer.naluLen + (startcode ++ nalu).length := rfl

theorem emitted_wholeNalu_of_room {nalu : List UInt8} (last : Bool)
    (operations : List NaluOperation)
    (fits : (load result.depacketizer nalu).naluLen ≤ maxEsFrameSize) :
    let decoded := (load result.depacketizer nalu).decNalu last call result.frame
    Script.emitted (perform call) (completed call) (wholeNalu nalu last ++ operations) result =
      (if decoded.status = .frame then [decoded] else []) ++
        Script.emitted (perform call) (completed call) operations decoded := by
  obtain ⟨start, body⟩ := @perform_wholeNalu_of_room call result nalu fits
  rw [wholeNalu, List.cons_append, List.cons_append, List.cons_append, List.nil_append,
    Script.emitted_cons_ok _ start, Script.emitted_cons_ok _ body]
  rfl

theorem emitted_wholeNalu_of_full {nalu : List UInt8} (last : Bool)
    (operations : List NaluOperation)
    (full : maxEsFrameSize < (load result.depacketizer nalu).naluLen) :
    Script.emitted (perform call) (completed call) (wholeNalu nalu last ++ operations) result =
      [] := by
  rw [load_naluLen, List.length_append] at full
  rw [wholeNalu, List.cons_append, List.cons_append]
  by_cases room : result.depacketizer.naluLen + startcode.length ≤ maxEsFrameSize
  · rw [Script.emitted_cons_ok _ (perform_append_of_room room)]
    obtain ⟨final, ended⟩ : ∃ final, perform call (.append .payload nalu)
        { result with depacketizer := result.depacketizer.pushNalu startcode } = .error final :=
      perform_append_of_full (by rw [pushNalu]; dsimp only; omega)
    rw [Script.emitted_cons_error _ ended]
    rfl
  · obtain ⟨final, ended⟩ :
        ∃ final, perform call (.append .startcode startcode) result = .error final :=
      perform_append_of_full (Nat.lt_of_not_le room)
    rw [Script.emitted_cons_error _ ended]
    rfl

/-- The NALUs overfill the frame of the depacketizer. -/
def OverfilledBy (depacketizer : RtpDepacketizerH264) (nalus : List (List UInt8)) : Prop :=
  Overfills depacketizer.sentries depacketizer.frameLen depacketizer.naluLen
    (depacketizer.nalu startcodeLength) nalus

/-- The NALU in `m_nalu` overfills the frame, or one of those after it does. -/
def OverfilledFrom (loaded : RtpDepacketizerH264) (nalus : List (List UInt8)) : Prop :=
  loaded.Admits ∧ maxEsFrameSize < loaded.frameLen + loaded.naluLen ∨
    Overfills (loaded.sentries.gate loaded.naluType).2
      (if loaded.Admits then loaded.frameLen + loaded.naluLen else loaded.frameLen) 0
      (loaded.nalu startcodeLength) nalus

theorem overfilledBy_cons (depacketizer : RtpDepacketizerH264) (nalu : List UInt8)
    (nalus : List (List UInt8)) :
    depacketizer.OverfilledBy (nalu :: nalus) ↔
      (load depacketizer nalu).naluLen ≤ maxEsFrameSize ∧
        (load depacketizer nalu).OverfilledFrom nalus := Iff.rfl

/-- A decode that is not the last completes no frame, or the frame is swallowed. -/
theorem surfaces_decoded {operations : List NaluOperation} {nalus : List (List UInt8)}
    (ends : EndsNalu operations)
    (later : ∀ next, SurfacesFrom call operations next ↔ ¬ next.depacketizer.OverfilledBy nalus)
    {loaded : RtpDepacketizerH264} (occupied : loaded.naluLen ≠ 0) (frame : Option MediaFrame) :
    let decoded := loaded.decNalu false call frame
    Surfaces (Script.execute (perform call) operations decoded)
        ((if decoded.status = .frame then [decoded] else []) ++
          Script.emitted (perform call) (completed call) operations decoded) ↔
      ¬ loaded.OverfilledFrom nalus := by
  have waiting : DepacketizerStatus.needMore ≠ .frame := by decide
  rw [OverfilledFrom]
  have step := naluStep_perform call (.decode false) ⟨.needMore, loaded, frame⟩
  rw [perform] at step
  dsimp only at step ⊢
  generalize loaded.decNalu false call frame = decoded at step ⊢
  cases step with
  | nothing last empty => exact absurd empty occupied
  | rejected last occupied rejected =>
    -- the sentries and the frame stay as they are for the NALUs that follow
    have kept := Sentries.gate_rejected (Bool.eq_false_iff.mpr rejected)
    rw [if_neg waiting, List.nil_append, kept, if_neg rejected]
    refine (later _).trans (not_congr ?_)
    exact (or_iff_right fun early => rejected early.1).symm
  | stored last occupied admits remains =>
    have room : loaded.frameLen + loaded.naluLen ≤ maxEsFrameSize := by
      simpa [closes] using remains
    have moved : loaded.store.OverfilledBy nalus ↔
        Overfills (loaded.sentries.gate loaded.naluType).2 (loaded.frameLen + loaded.naluLen) 0
          (loaded.nalu startcodeLength) nalus := by
      rw [store_eq, storedLen_of_remains remains]
      exact Iff.rfl
    rw [if_neg waiting, List.nil_append, if_pos admits, ← moved]
    refine (later _).trans (not_congr ?_)
    exact (or_iff_right fun early => by omega).symm
  | closed last occupied admits closing =>
    have tooLarge : maxEsFrameSize < loaded.frameLen + loaded.naluLen := by
      simpa [closes] using closing
    rw [if_pos rfl, List.singleton_append]
    exact iff_of_false (not_surfaces_cons ends) fun kept => kept (.inl ⟨admits, tooLarge⟩)

theorem surfacesFrom_early {operations : List NaluOperation} {nalus : List (List UInt8)}
    (ends : EndsNalu operations)
    (later : ∀ next, SurfacesFrom call operations next ↔ ¬ next.depacketizer.OverfilledBy nalus)
    (nalu : List UInt8) :
    SurfacesFrom call (wholeNalu nalu false ++ operations) result ↔
      ¬ result.depacketizer.OverfilledBy (nalu :: nalus) := by
  rw [overfilledBy_cons]
  by_cases fits : (load result.depacketizer nalu).naluLen ≤ maxEsFrameSize
  · have executed : Script.execute (perform call) (wholeNalu nalu false ++ operations) result =
        Script.execute (perform call) operations
          ((load result.depacketizer nalu).decNalu false call result.frame) :=
      execute_wholeNalu_of_room fits false operations
    have occupied : (load result.depacketizer nalu).naluLen ≠ 0 := by
      rw [load_naluLen]
      simp [startcode]
    rw [SurfacesFrom, executed, emitted_wholeNalu_of_room false operations fits,
      and_iff_right fits]
    exact surfaces_decoded ends later occupied result.frame
  · -- the packet ends here
    rw [SurfacesFrom, emitted_wholeNalu_of_full false operations (Nat.lt_of_not_le fits)]
    exact iff_of_true (surfaces_nil _) fun overfilled => fits overfilled.1

theorem surfacesFrom_ofStapA (call : ParseCall) (marker : Bool) (bytes : List UInt8) :
    ∀ result, SurfacesFrom call (NaluOperation.ofStapA marker bytes) result ↔
      ¬ result.depacketizer.OverfilledBy (earlyNalus bytes) := by
  -- on the NALUs; the frame is lost where one of them completes it and another comes after it
  induction bytes using NaluOperation.ofStapA.induct with
  | case1 high low rest length tooLong =>
    intro result
    have none : earlyNalus (high :: low :: rest) = [] := by
      rw [earlyNalus, if_neg (by omega)]
    rw [NaluOperation.ofStapA, if_pos tooLong, none]
    exact iff_of_true (surfacesFrom_singleton _) id
  | case2 high low rest length fits ih =>
    intro result
    rw [NaluOperation.ofStapA, if_neg fits, earlyNalus]
    change _ ↔ ¬ result.depacketizer.OverfilledBy
      (if length < rest.length then _ else [])
    by_cases more : length < rest.length
    · rw [if_pos more, if_pos more, if_neg (by omega : ¬ rest.length = length)]
      exact surfacesFrom_early (endsNalu_ofStapA ..) (ih more) _
    · rw [if_neg more, if_neg more, List.append_nil]
      exact iff_of_true (surfacesFrom_wholeNalu ..) id
  | case3 bytes short =>
    intro result
    rw [NaluOperation.ofStapA.eq_2 _ _ short, earlyNalus.eq_2 _ short]
    exact iff_of_true (surfacesFrom_singleton _) id

/-! ## Packets -/

theorem surfaces_stapA (depacketizer : RtpDepacketizerH264) {call : ParseCall} {first : UInt8}
    {rest : List UInt8} (carries : call.payload = first :: rest)
    (stapA : packetType first = 24) :
    Surfaces (answer depacketizer call) (completions depacketizer call) ↔
      ¬ depacketizer.OverfilledBy (earlyNalus rest) := by
  have nonempty : call.payload ≠ [] := by simp [carries]
  have notSingle : ¬ (1 ≤ packetType first ∧ packetType first ≤ 12) := by
    rw [stapA]
    decide
  rw [answer_eq depacketizer nonempty, completions, carries, NaluOperation.ofPacket,
    if_neg notSingle, if_pos stapA]
  exact surfacesFrom_ofStapA call call.marker rest _

theorem completedFrame_surfaces_iff (depacketizer : RtpDepacketizerH264) (call : ParseCall) :
    Surfaces (answer depacketizer call) (completions depacketizer call) ↔
      ¬ depacketizer.OverfillsEarly call.payload := by
  cases carries : call.payload with
  | nil =>
    rw [completions, carries]
    exact iff_of_true (surfaces_nil _) id
  | cons first rest =>
    by_cases stapA : packetType first = 24
    · refine (surfaces_stapA depacketizer carries stapA).trans (not_congr ?_)
      exact (and_iff_right stapA).symm
    · have nonempty : call.payload ≠ [] := by simp [carries]
      refine iff_of_true ?_ fun early => stapA early.1
      rw [answer_eq depacketizer nonempty, completions, carries, NaluOperation.ofPacket]
      by_cases single : 1 ≤ packetType first ∧ packetType first ≤ 12
      · rw [if_pos single]
        exact surfacesFrom_wholeNalu ..
      · rw [if_neg single, if_neg stapA]
        split
        next => exact surfacesFrom_ofFuA ..
        next => exact surfacesFrom_singleton _

/-- The frame has room for one more byte, and the gate is open. -/
def almostFull : RtpDepacketizerH264 :=
  { create (fun _ => 0) (fun _ => 0) with
    spsSentry := false
    ppsSentry := false
    idrSentry := false
    frameLen := maxEsFrameSize - 1 }

/-- A STAP-A packet of two slices. -/
def twoSlices : ParseCall := .ofPayload [24, 0, 2, 65, 1, 0, 2, 65, 2] false 0 96

theorem completedFrame_swallowed :
    ¬ ∀ (depacketizer : RtpDepacketizerH264) (call : ParseCall),
      Surfaces (answer depacketizer call) (completions depacketizer call) := by
  intro surfaces
  have carries : twoSlices.payload = [24, 0, 2, 65, 1, 0, 2, 65, 2] :=
    ParseCall.payload_ofPayload ..
  have kept := (surfaces_stapA almostFull carries (by decide)).mp (surfaces almostFull twoSlices)
  have early : earlyNalus [0, 2, 65, 1, 0, 2, 65, 2] = [[65, 1]] := by
    simp [earlyNalus, ByteOrder.ofBigEndian16]
  rw [early] at kept
  -- the first slice completes the frame, and the second one asks for more
  exact kept ⟨by decide, .inl (by decide)⟩

end RtpDepacketizerH264

end RtpPlayer
