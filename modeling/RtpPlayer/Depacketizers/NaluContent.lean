import RtpPlayer.Depacketizers.OrphanFragments
import RtpPlayer.Depacketizers.RandomAccessGate

/-! # The byte a NALU is classified by

`DEC_NALU` takes the type of a NALU from a fixed place in `m_nalu`.  A depacketizer run beside an
account of what has been put there: the byte is the header of the NALU where a start code came
first, then bytes of the NALU, and no second start code.  The account never influences the
depacketizer. -/

namespace RtpPlayer

open Foundations
open Foundations.ByteOrder
open RtpDepacketizer
open RtpDepacketizerH264 (naluStep_perform packetType perform startcodeLength)

/-- What has been put in `m_nalu` since it was emptied. -/
inductive NaluContent where
  | nothing
  | startcode
  /-- A start code and behind it bytes of one NALU. -/
  | nalu
  /-- Anything else: bytes without a start code before them, or two start codes. -/
  | mixed
  deriving DecidableEq

namespace NaluContent

def append : NaluContent → NaluPart → NaluContent
  | nothing, .startcode => startcode
  | startcode, .header => nalu
  | startcode, .payload => nalu
  | nalu, .header => nalu
  | nalu, .payload => nalu
  | _, _ => mixed

/-- The content after an operation. -/
def after (operation : NaluOperation) (result : ParseResult RtpDepacketizerH264)
    (content : NaluContent) : NaluContent :=
  match operation with
  | .append part bytes =>
    if result.depacketizer.naluLen + bytes.length ≤ maxEsFrameSize then
      if bytes = [] then content else content.append part
    else nothing
  | .decode _ => nothing
  | .fail => nothing

/-- The NALU in `m_nalu` begins with a start code, and the byte it is classified by is its own. -/
structure HasHeader (depacketizer : RtpDepacketizerH264) : Prop where
  begins : depacketizer.nalu.slice 0 startcodeLength = NaluOperation.startcode
  header : startcodeLength < depacketizer.naluLen

/-- The account agrees with `m_nalu`. -/
def Describes (depacketizer : RtpDepacketizerH264) : NaluContent → Prop
  | nothing => depacketizer.naluLen = 0
  | startcode => depacketizer.naluLen = startcodeLength ∧
      depacketizer.nalu.slice 0 startcodeLength = NaluOperation.startcode
  | nalu => HasHeader depacketizer
  | mixed => depacketizer.naluLen ≠ 0

variable {depacketizer : RtpDepacketizerH264} {content : NaluContent}

theorem Describes.naluLen_eq_zero_iff (describes : content.Describes depacketizer) :
    depacketizer.naluLen = 0 ↔ content = nothing := by
  cases content with
  | nothing => exact iff_of_true describes rfl
  | startcode =>
    refine iff_of_false ?_ nofun
    rw [describes.1]
    decide
  | nalu => exact iff_of_false (Nat.ne_of_gt (Nat.zero_lt_of_lt describes.header)) nofun
  | mixed => exact iff_of_false describes nofun

theorem Describes.pushNalu (describes : content.Describes depacketizer) {part : NaluPart}
    {bytes : List UInt8} (occupied : bytes ≠ [])
    (startcode : part = .startcode → bytes = NaluOperation.startcode) :
    (content.append part).Describes (depacketizer.pushNalu bytes) := by
  have grown : 0 < bytes.length := List.length_pos_iff.mpr occupied
  -- behind a start code there is room for a header
  have headed : startcodeLength ≤ depacketizer.naluLen →
      depacketizer.nalu.slice 0 startcodeLength = NaluOperation.startcode →
        HasHeader (depacketizer.pushNalu bytes) := by
    intro long begins
    refine ⟨?_, Nat.lt_of_le_of_lt long (Nat.lt_add_of_pos_right grown)⟩
    rw [RtpDepacketizerH264.pushNalu, Memory.slice_write_before bytes (by omega), begins]
  have spoiled : mixed.Describes (depacketizer.pushNalu bytes) :=
    Nat.ne_of_gt (Nat.lt_add_left _ grown)
  cases content with
  | nothing =>
    cases part with
    | startcode =>
      obtain rfl := startcode rfl
      have empty : depacketizer.naluLen = 0 := describes
      rw [append, Describes, RtpDepacketizerH264.pushNalu, empty]
      exact ⟨rfl, Memory.slice_write_self _ 0 NaluOperation.startcode⟩
    | header | payload => exact spoiled
  | startcode =>
    cases part with
    | startcode => exact spoiled
    | header | payload => exact headed (Nat.le_of_eq describes.1.symm) describes.2
  | nalu =>
    cases part with
    | startcode => exact spoiled
    | header | payload => exact headed (Nat.le_of_lt describes.header) describes.begins
  | mixed =>
    cases part with
    | startcode | header | payload => exact spoiled

theorem Describes.after {result : ParseResult RtpDepacketizerH264}
    (describes : content.Describes result.depacketizer) (call : ParseCall)
    {operation : NaluOperation}
    (startcode : ∀ bytes, operation = .append .startcode bytes →
      bytes = NaluOperation.startcode) :
    (content.after operation result).Describes
      (Script.after (perform call operation result)).depacketizer := by
  have step := naluStep_perform call operation result
  generalize perform call operation result = outcome at step ⊢
  cases step with
  | appended part bytes fits =>
    rw [NaluContent.after, if_pos fits]
    by_cases none : bytes = []
    · rw [if_pos none, none, Script.after_ok, RtpDepacketizerH264.pushNalu, Memory.write_nil]
      exact describes
    · rw [if_neg none]
      exact describes.pushNalu none fun same => startcode bytes (by rw [same])
  | overflowed part bytes tooLarge =>
    rw [NaluContent.after, if_neg (Nat.not_le.mpr tooLarge)]
    rfl
  | nothing last empty => exact empty
  | rejected | stored | closed | failed => rfl

end NaluContent

/-! ## Start codes in scripts -/

namespace NaluOperation

/-- What is appended as a start code is one. -/
def Coded (operation : NaluOperation) : Prop :=
  ∀ bytes, operation = append .startcode bytes → bytes = startcode

theorem coded_wholeNalu (nalu : List UInt8) (last : Bool) :
    ∀ operation ∈ wholeNalu nalu last, operation.Coded := by
  intro operation member bytes same
  simp only [wholeNalu, List.mem_cons, List.not_mem_nil, or_false] at member
  rcases member with rfl | rfl | rfl <;> cases same
  rfl

theorem ofStapA_of_le (marker : Bool) {high low : UInt8} {rest : List UInt8}
    (fits : (ofBigEndian16 high low).toNat ≤ rest.length) :
    ofStapA marker (high :: low :: rest) =
      wholeNalu (rest.take (ofBigEndian16 high low).toNat)
          (if rest.length = (ofBigEndian16 high low).toNat then marker else false) ++
        if (ofBigEndian16 high low).toNat < rest.length then
          ofStapA marker (rest.drop (ofBigEndian16 high low).toNat) else [] := by
  rw [ofStapA, if_neg (Nat.not_lt.mpr fits)]

theorem coded_fail : fail.Coded := by
  intro started same
  cases same

theorem coded_ofStapA (marker : Bool) (bytes : List UInt8) :
    ∀ operation ∈ ofStapA marker bytes, operation.Coded := by
  induction bytes using ofStapA.induct with
  | case1 high low rest length tooLong =>
    rw [ofStapA, if_pos tooLong, List.forall_mem_singleton]
    exact coded_fail
  | case2 high low rest length fits ih =>
    rw [ofStapA, if_neg fits]
    intro operation member
    rcases List.mem_append.mp member with entry | later
    · exact coded_wholeNalu _ _ operation entry
    · split at later
      next more => exact ih more operation later
      next => cases later
  | case3 bytes short =>
    rw [ofStapA.eq_2 _ _ short, List.forall_mem_singleton]
    exact coded_fail

theorem coded_ofFuA (marker : Bool) (indicator : UInt8) (bytes : List UInt8) :
    ∀ operation ∈ ofFuA marker indicator bytes, operation.Coded := by
  intro operation member started same
  cases bytes with
  | nil =>
    rw [ofFuA, List.mem_singleton] at member
    cases member.symm.trans same
  | cons header fragment =>
    simp only [ofFuA] at member
    split at member
    next =>
      cases (List.mem_singleton.mp member).symm.trans same
    next =>
      rw [same, List.mem_append, List.mem_cons] at member
      rcases member with start | body | ending
      · split at start
        next =>
          simp only [List.mem_cons, List.not_mem_nil, or_false] at start
          rcases start with code | header
          · exact (NaluOperation.append.inj code).2
          · cases header
        next => cases start
      · cases body
      · split at ending
        next => cases List.mem_singleton.mp ending
        next => cases ending

theorem coded_ofPacket (payload : List UInt8) (marker : Bool) :
    ∀ operation ∈ ofPacket payload marker, operation.Coded := by
  cases payload with
  | nil => exact fun _ member => absurd member List.not_mem_nil
  | cons first rest =>
    rw [ofPacket]
    split_ifs
    · exact coded_wholeNalu _ _
    · exact coded_ofStapA _ _
    · exact coded_ofFuA _ _ _
    · rw [List.forall_mem_singleton]
      exact coded_fail

end NaluOperation

namespace RtpDepacketizerH264

open NaluContent (HasHeader)
open NaluOperation (wholeNalu)

/-! ## The decodes of a packet -/

/-- The state of a packet's script beside the account of `m_nalu`. -/
abbrev Accounted := ParseResult RtpDepacketizerH264 × NaluContent

def Accounted.Described (state : Accounted) : Prop := state.2.Describes state.1.depacketizer

/-- The NALU that is decoded is alone in `m_nalu`, with its header, and it clears the sentries of
its own type only. -/
structure ByOwnHeader (call : ParseCall) (last : Bool) (state : Accounted) : Prop where
  alone : state.2 = .nalu
  header : HasHeader state.1.depacketizer
  typed : IsNalu state.1.depacketizer.naluType
    (state.1.depacketizer.nalu.slice 0 state.1.depacketizer.naluLen)
  sps : state.1.depacketizer.spsSentry = true →
    (state.1.depacketizer.decNalu last call state.1.frame).depacketizer.spsSentry = false →
      state.1.depacketizer.naluType = spsType
  pps : state.1.depacketizer.ppsSentry = true →
    (state.1.depacketizer.decNalu last call state.1.frame).depacketizer.ppsSentry = false →
      state.1.depacketizer.naluType = ppsType
  idr : state.1.depacketizer.idrSentry = true →
    (state.1.depacketizer.decNalu last call state.1.frame).depacketizer.idrSentry = false →
      state.1.depacketizer.naluType = idrType

/-- The type a sentry is cleared by is that of the sentry. -/
theorem Sentries.gate_clears (sentries : Sentries) (naluType : UInt8) :
    (sentries.sps = true → (sentries.gate naluType).2.sps = false → naluType = spsType) ∧
      (sentries.pps = true → (sentries.gate naluType).2.pps = false → naluType = ppsType) ∧
      (sentries.idr = true → (sentries.gate naluType).2.idr = false → naluType = idrType) := by
  have kept {flag : Bool} {goal : Prop} (up : flag = true) (down : flag = false) : goal :=
    (Bool.false_ne_true (down.symm.trans up)).elim
  by_cases unchanged : (sentries.gate naluType).2 = sentries
  · rw [unchanged]
    exact ⟨kept, kept, kept⟩
  rcases gate_changed unchanged with ⟨typed, cleared⟩ | ⟨typed, cleared⟩ | ⟨typed, -, -, cleared⟩
  · rw [cleared]
    exact ⟨fun _ _ => typed, kept, kept⟩
  · rw [cleared]
    exact ⟨kept, fun _ _ => typed, kept⟩
  · rw [cleared]
    exact ⟨kept, kept, fun _ _ => typed⟩

theorem byOwnHeader_iff {state : Accounted} (describes : state.2.Describes state.1.depacketizer)
    (call : ParseCall) (last : Bool) : ByOwnHeader call last state ↔ state.2 = .nalu := by
  refine ⟨ByOwnHeader.alone, fun alone => ?_⟩
  rw [alone] at describes
  have header : HasHeader state.1.depacketizer := describes
  have after := decNalu_sentries last call state.1.frame
    (Nat.ne_of_gt (Nat.zero_lt_of_lt header.header))
  have clears := state.1.depacketizer.sentries.gate_clears state.1.depacketizer.naluType
  rw [← after] at clears
  exact {
    alone := alone
    header := header
    typed := isNalu_slice header.header header.begins
    sps := clears.1
    pps := clears.2.1
    idr := clears.2.2 }

def performAccounted (call : ParseCall) : NaluOperation → Accounted → Except Accounted Accounted :=
  Script.observed (perform call) NaluContent.after

/-- A NALU that the operation decodes is classified by its own header. -/
def DecodesByOwnHeader (call : ParseCall) (operation : NaluOperation) (_ : List NaluOperation)
    (state : Accounted) : Prop :=
  ∀ last, operation = .decode last → state.1.depacketizer.naluLen ≠ 0 → ByOwnHeader call last state

/-- Every NALU that is decoded for the packet is classified by its own header. -/
def Classifies (call : ParseCall) (operations : List NaluOperation) (state : Accounted) : Prop :=
  Script.Guarded (performAccounted call) (DecodesByOwnHeader call) operations state

/-- Bytes are put at the end of `m_nalu`, and the account knows. -/
def Accounted.push (state : Accounted) (part : NaluPart) (bytes : List UInt8) : Accounted :=
  ({ state.1 with depacketizer := state.1.depacketizer.pushNalu bytes },
    if bytes = [] then state.2 else state.2.append part)

variable {call : ParseCall} {state : Accounted}

theorem classifies_append (part : NaluPart) (bytes : List UInt8)
    (operations : List NaluOperation) :
    Classifies call (.append part bytes :: operations) state ↔
      (state.1.depacketizer.naluLen + bytes.length ≤ maxEsFrameSize →
        Classifies call operations (state.push part bytes)) := by
  have noDecode : DecodesByOwnHeader call (.append part bytes) operations state := nofun
  by_cases fits : state.1.depacketizer.naluLen + bytes.length ≤ maxEsFrameSize
  · have continues : performAccounted call (.append part bytes) state =
        .ok (state.push part bytes) := by
      have appended : perform call (.append part bytes) state.1 =
          .ok { state.1 with depacketizer := state.1.depacketizer.pushNalu bytes } := by
        rw [perform, append_of_le fits]
      rw [performAccounted, Script.observed_of_ok appended, NaluContent.after, if_pos fits]
      rfl
    rw [Classifies, Script.guarded_cons_ok _ continues, and_iff_right noDecode,
      forall_prop_of_true fits]
    rfl
  · have appended : perform call (.append part bytes) state.1 =
        .error (fail { state.1.depacketizer with naluLen := 0, frameLen := 0, packets := 0 }
          state.1.frame) := by
      rw [perform, append_of_lt (Nat.lt_of_not_le fits)]
    rw [Classifies, performAccounted,
      Script.guarded_cons_error _ (Script.observed_of_error appended)]
    exact iff_of_true noDecode fun room => absurd room fits

theorem classifies_fail (operations : List NaluOperation) :
    Classifies call (.fail :: operations) state := by
  rw [Classifies, performAccounted, Script.guarded_cons_error _ (Script.observed_of_error rfl)]
  nofun

theorem classifies_nil : Classifies call [] state := trivial

/-- The current NALU has been decoded. -/
def Accounted.decode (state : Accounted) (call : ParseCall) (last : Bool) : Accounted :=
  (state.1.depacketizer.decNalu last call state.1.frame, .nothing)

theorem classifies_decode (describes : state.2.Describes state.1.depacketizer) (last : Bool)
    (operations : List NaluOperation) :
    Classifies call (.decode last :: operations) state ↔
      (state.1.depacketizer.naluLen ≠ 0 → state.2 = .nalu) ∧
        Classifies call operations (state.decode call last) := by
  rw [Classifies, performAccounted, Script.guarded_cons_ok _ (Script.observed_of_ok rfl)]
  refine and_congr ⟨fun decodes occupied => ?_, ?_⟩ Iff.rfl
  · exact (byOwnHeader_iff describes call last).mp (decodes last rfl occupied)
  · rintro alone last' same occupied
    obtain rfl := NaluOperation.decode.inj same
    exact (byOwnHeader_iff describes call last).mpr (alone occupied)

/-! ## Which packets decode what they should -/

/-- No entry of a STAP-A payload that is reached is empty. -/
def NoEmptyEntry : List UInt8 → Prop
  | high :: low :: rest =>
    let length := (ofBigEndian16 high low).toNat
    length ≤ rest.length → length ≠ 0 ∧ NoEmptyEntry (rest.drop length)
  | _ => True
termination_by bytes => bytes.length
decreasing_by
  simp only [List.length_drop, List.length_cons]
  omega

theorem noEmptyEntry_cons (high low : UInt8) (rest : List UInt8) :
    NoEmptyEntry (high :: low :: rest) ↔ ((ofBigEndian16 high low).toNat ≤ rest.length →
      (ofBigEndian16 high low).toNat ≠ 0 ∧
        NoEmptyEntry (rest.drop (ofBigEndian16 high low).toNat)) := by
  rw [NoEmptyEntry]

theorem noEmptyEntry_nil : NoEmptyEntry [] := by
  rw [NoEmptyEntry]
  · trivial
  · nofun

theorem Accounted.push_describes (describes : state.2.Describes state.1.depacketizer)
    {part : NaluPart} {bytes : List UInt8}
    (startcode : part = .startcode → bytes = NaluOperation.startcode) :
    (state.push part bytes).2.Describes (state.push part bytes).1.depacketizer := by
  rw [push]
  by_cases none : bytes = []
  · rw [if_pos none, none, pushNalu, Memory.write_nil]
    exact describes
  · rw [if_neg none]
    exact describes.pushNalu none startcode

/-- A whole NALU is classified by its header where it comes to an empty `m_nalu` and has one. -/
theorem classifies_wholeNalu (describes : state.2.Describes state.1.depacketizer)
    (nalu : List UInt8) (last : Bool) (operations : List NaluOperation) :
    ∃ next : Accounted, next.2 = .nothing ∧ next.1.depacketizer.naluLen = 0 ∧
      (Classifies call (wholeNalu nalu last ++ operations) state ↔
        (state.1.depacketizer.naluLen + startcodeLength + nalu.length ≤ maxEsFrameSize →
          (state.2 = .nothing ∧ nalu ≠ []) ∧ Classifies call operations next)) := by
  let started := state.push .startcode NaluOperation.startcode
  let filled := started.push .payload nalu
  have describesStart : started.2.Describes started.1.depacketizer :=
    state.push_describes describes fun _ => rfl
  have describesFilled : filled.2.Describes filled.1.depacketizer :=
    started.push_describes describesStart nofun
  have occupied : filled.1.depacketizer.naluLen ≠ 0 := by
    refine Nat.ne_of_gt ?_
    exact Nat.lt_add_right _ (Nat.lt_add_left _ (by decide))
  -- the account is right in the end only if it began with nothing
  have alone : filled.2 = .nalu ↔ state.2 = .nothing ∧ nalu ≠ [] := by
    change (if nalu = [] then state.2.append .startcode
      else (state.2.append .startcode).append .payload) = .nalu ↔ _
    cases state.2 <;> split <;> simp_all [NaluContent.append]
  refine ⟨filled.decode call last, rfl, rfl, ?_⟩
  rw [wholeNalu, List.cons_append, List.cons_append, List.cons_append, List.nil_append,
    classifies_append, classifies_append, classifies_decode describesFilled,
    forall_prop_of_true occupied, alone]
  constructor
  · intro classifies fits
    exact classifies (Nat.le_trans (Nat.le_add_right _ _) fits) fits
  · intro classifies _ fits
    exact classifies fits

theorem take_ne_nil_iff {bytes : List UInt8} {length : Nat} (fits : length ≤ bytes.length) :
    bytes.take length ≠ [] ↔ length ≠ 0 := by
  rw [← List.length_pos_iff, List.length_take_of_le fits, Nat.pos_iff_ne_zero]

theorem classifies_ofStapA (marker : Bool) (bytes : List UInt8) :
    ∀ state : Accounted, state.2 = .nothing → state.1.depacketizer.naluLen = 0 →
      (Classifies call (NaluOperation.ofStapA marker bytes) state ↔ NoEmptyEntry bytes) := by
  -- on the entries; each that is decoded leaves `m_nalu` empty for the next
  induction bytes using NaluOperation.ofStapA.induct with
  | case1 high low rest length tooLong =>
    intro state nothing empty
    rw [NaluOperation.ofStapA, if_pos tooLong, noEmptyEntry_cons]
    exact iff_of_true (classifies_fail _) fun fits => absurd tooLong (Nat.not_lt.mpr fits)
  | case2 high low rest length fits ih =>
    intro state nothing empty
    have fits : length ≤ rest.length := Nat.not_lt.mp fits
    have describes : state.2.Describes state.1.depacketizer := by
      rw [nothing]
      exact empty
    obtain ⟨next, nothingNext, emptyNext, entry⟩ := @classifies_wholeNalu call state describes
      (rest.take length) (if rest.length = length then marker else false)
      (if length < rest.length then NaluOperation.ofStapA marker (rest.drop length) else [])
    have room : state.1.depacketizer.naluLen + startcodeLength + (rest.take length).length ≤
        maxEsFrameSize := by
      have : length < 65536 := UInt16.toNat_lt _
      have : 65536 + startcodeLength ≤ maxEsFrameSize := by decide
      rw [List.length_take_of_le fits]
      omega
    rw [NaluOperation.ofStapA, if_neg (Nat.not_lt.mpr fits), entry, forall_prop_of_true room,
      noEmptyEntry_cons, forall_prop_of_true fits, take_ne_nil_iff fits, and_iff_right nothing]
    refine and_congr_right fun _ => ?_
    by_cases more : length < rest.length
    · rw [if_pos more]
      exact ih more next nothingNext emptyNext
    · rw [if_neg more, List.drop_eq_nil_of_le (Nat.not_lt.mp more)]
      exact iff_of_true trivial noEmptyEntry_nil
  | case3 bytes short =>
    intro state nothing empty
    rw [NaluOperation.ofStapA.eq_2 _ _ short, NoEmptyEntry.eq_2 _ short]
    exact iff_of_true (classifies_fail _) trivial

/-- A packet that decodes a NALU finds `m_nalu` as it should be: empty, where it brings whole NALUs,
and none of these is without a byte; and begun by a start code and a header, where it brings the
last fragment.  Packets that a size check refuses are exempt. -/
structure FindsHeader (depacketizer : RtpDepacketizerH264) (content : NaluContent)
    (payload : List UInt8) : Prop where
  single : ∀ first rest, payload = first :: rest →
    1 ≤ packetType first ∧ packetType first ≤ 12 →
    depacketizer.naluLen + startcodeLength + payload.length ≤ maxEsFrameSize → content = .nothing
  stapA : ∀ first high low rest, payload = first :: high :: low :: rest →
    packetType first = 24 → (ofBigEndian16 high low).toNat ≤ rest.length →
    depacketizer.naluLen + startcodeLength + (ofBigEndian16 high low).toNat ≤ maxEsFrameSize →
      content = .nothing ∧ NoEmptyEntry (high :: low :: rest)
  fuA : ∀ fragment, FuAFragment.ofPayload payload = some fragment → fragment.start = false →
    fragment.finish = true →
    depacketizer.naluLen + fragment.bytes.length ≤ maxEsFrameSize →
      content = .nalu ∨ content = .nothing ∧ fragment.bytes = []

theorem describes_beginPacket {depacketizer : RtpDepacketizerH264} {content : NaluContent}
    (describes : content.Describes depacketizer) (call : ParseCall) :
    content.Describes (depacketizer.beginPacket call).depacketizer := by
  cases content with
  | nothing => exact describes
  | startcode => exact describes
  | nalu => exact ⟨describes.begins, describes.header⟩
  | mixed => exact describes

/-- On a packet with a first byte, which of the three there is to check. -/
theorem findsHeader_cons {depacketizer : RtpDepacketizerH264} {content : NaluContent}
    {first : UInt8} {rest : List UInt8} : depacketizer.FindsHeader content (first :: rest) ↔
      (1 ≤ packetType first ∧ packetType first ≤ 12 →
        depacketizer.naluLen + startcodeLength + (first :: rest).length ≤ maxEsFrameSize →
          content = .nothing) ∧
      (packetType first = 24 → ∀ high low more, rest = high :: low :: more →
        (ofBigEndian16 high low).toNat ≤ more.length →
        depacketizer.naluLen + startcodeLength + (ofBigEndian16 high low).toNat ≤
          maxEsFrameSize → content = .nothing ∧ NoEmptyEntry rest) ∧
      (packetType first = 28 → ∀ fragment, FuAFragment.ofPayload (first :: rest) = some fragment →
        fragment.start = false → fragment.finish = true →
        depacketizer.naluLen + fragment.bytes.length ≤ maxEsFrameSize →
          content = .nalu ∨ content = .nothing ∧ fragment.bytes = []) := by
  constructor
  · intro finds
    refine ⟨finds.single first rest rfl, ?_, fun _ => finds.fuA⟩
    rintro typed high low more rfl
    exact finds.stapA first high low more rfl typed
  · rintro ⟨single, stapA, fuA⟩
    constructor
    · rintro _ _ same
      obtain ⟨rfl, rfl⟩ := List.cons.inj same
      exact single
    · rintro _ high low more same typed
      obtain ⟨rfl, rfl⟩ := List.cons.inj same
      exact stapA typed high low more rfl
    · intro fragment carries
      refine fuA ?_ fragment carries
      cases rest with
      | nil => cases carries
      | cons header bytes =>
        rw [FuAFragment.ofPayload] at carries
        split at carries
        next typed => exact typed
        next => cases carries

theorem classifies_fuA_last (describes : state.2.Describes state.1.depacketizer)
    (between : state.2 ≠ .startcode) (bytes : List UInt8) (marker : Bool) :
    Classifies call [.append .payload bytes, .decode marker] state ↔
      (state.1.depacketizer.naluLen + bytes.length ≤ maxEsFrameSize →
        state.2 = .nalu ∨ state.2 = .nothing ∧ bytes = []) := by
  have describesFilled : (state.push .payload bytes).2.Describes
      (state.push .payload bytes).1.depacketizer := state.push_describes describes nofun
  rw [classifies_append]
  refine imp_congr_right fun _ => ?_
  rw [classifies_decode describesFilled, and_iff_left classifies_nil, ne_eq,
    describesFilled.naluLen_eq_zero_iff]
  have pushed : (state.push .payload bytes).2 =
      if bytes = [] then state.2 else state.2.append .payload := rfl
  rw [pushed]
  cases content : state.2 with
  | nothing => by_cases none : bytes = [] <;> simp [none, NaluContent.append]
  | startcode => exact absurd content between
  | nalu => simp [NaluContent.append]
  | mixed => simp [NaluContent.append]

theorem classifies_fuA_first (header : UInt8) (bytes : List UInt8) :
    Classifies call [.append .startcode NaluOperation.startcode, .append .header [header],
      .append .payload bytes] state := by
  rw [classifies_append, classifies_append, classifies_append]
  exact fun _ _ _ => classifies_nil

/-- The first entry of a STAP-A packet may find something in `m_nalu`; no later one does. -/
theorem classifies_stapA (describes : state.2.Describes state.1.depacketizer) (marker : Bool)
    (bytes : List UInt8) :
    Classifies call (NaluOperation.ofStapA marker bytes) state ↔
      ∀ high low more, bytes = high :: low :: more →
        (ofBigEndian16 high low).toNat ≤ more.length →
        state.1.depacketizer.naluLen + startcodeLength + (ofBigEndian16 high low).toNat ≤
          maxEsFrameSize → state.2 = .nothing ∧ NoEmptyEntry bytes := by
  -- of bytes that are too few for a length nothing is decoded
  have short {bytes : List UInt8}
      (few : ∀ high low more, bytes = high :: low :: more → False) :
      Classifies call (NaluOperation.ofStapA marker bytes) state := by
    rw [NaluOperation.ofStapA.eq_2 _ _ few]
    exact classifies_fail _
  obtain _ | ⟨high, _ | ⟨low, more⟩⟩ := bytes
  · exact iff_of_true (short (by simp)) (by simp)
  · exact iff_of_true (short (by simp)) (by simp)
  by_cases fits : (ofBigEndian16 high low).toNat ≤ more.length
  · obtain ⟨next, -, -, entry⟩ := @classifies_wholeNalu call state describes
      (more.take (ofBigEndian16 high low).toNat)
      (if more.length = (ofBigEndian16 high low).toNat then marker else false)
      (if (ofBigEndian16 high low).toNat < more.length then
        NaluOperation.ofStapA marker (more.drop (ofBigEndian16 high low).toNat) else [])
    rw [← NaluOperation.ofStapA_of_le marker fits, List.length_take_of_le fits] at entry
    constructor
    · intro classifies _ _ _ same _ room
      simp only [List.cons.injEq] at same
      obtain ⟨rfl, rfl, rfl⟩ := same
      have nothing := (entry.mp classifies room).1.1
      exact ⟨nothing, (classifies_ofStapA marker _ state nothing
        (describes.naluLen_eq_zero_iff.mpr nothing)).mp classifies⟩
    · intro first
      refine entry.mpr fun room => ?_
      obtain ⟨nothing, every⟩ := first high low more rfl fits room
      exact entry.mp ((classifies_ofStapA marker _ state nothing
        (describes.naluLen_eq_zero_iff.mpr nothing)).mpr every) room
  · rw [NaluOperation.ofStapA, if_pos (Nat.lt_of_not_le fits)]
    refine iff_of_true (classifies_fail _) fun _ _ _ same fits' => absurd fits' ?_
    simp only [List.cons.injEq] at same
    obtain ⟨rfl, rfl, rfl⟩ := same
    exact fits

theorem classifies_fuA_iff (describes : state.2.Describes state.1.depacketizer)
    (between : state.2 ≠ .startcode) (marker : Bool) {first : UInt8} {rest : List UInt8}
    (fuA : packetType first = 28) :
    Classifies call (NaluOperation.ofPacket (first :: rest) marker) state ↔
      ∀ fragment, FuAFragment.ofPayload (first :: rest) = some fragment →
        fragment.start = false → fragment.finish = true →
        state.1.depacketizer.naluLen + fragment.bytes.length ≤ maxEsFrameSize →
          state.2 = .nalu ∨ state.2 = .nothing ∧ fragment.bytes = [] := by
  cases rest with
  | nil =>
    -- an indicator without a header fails
    have alone : NaluOperation.ofPacket [first] marker = [.fail] := by
      rw [NaluOperation.ofPacket, fuA]
      rfl
    rw [alone]
    exact iff_of_true (classifies_fail _) (by simp [FuAFragment.ofPayload])
  | cons header bytes =>
    have carries : FuAFragment.ofPayload (first :: header :: bytes) =
        some ⟨header &&& 0x80 > 0, header &&& 0x40 > 0, bytes⟩ := if_pos fuA
    generalize FuAFragment.mk (decide (header &&& 0x80 > 0)) (decide (header &&& 0x40 > 0))
      bytes = fragment at carries
    have only {goal : FuAFragment → Prop} : (∀ other, FuAFragment.ofPayload
        (first :: header :: bytes) = some other → goal other) ↔ goal fragment := by
      rw [carries]
      simp
    rw [only]
    cases start : fragment.start with
    -- the first fragment brings the header of its NALU
    | true =>
      obtain ⟨header, script⟩ := FuAFragment.ofPacket_of_started carries start marker
      rw [script]
      refine iff_of_true ?_ (by simp)
      split
      next => exact classifies_fail _
      next => exact classifies_fuA_first _ _
    -- any other goes by what is held, and counts where it ends the NALU
    | false =>
      rw [FuAFragment.ofPacket_of_continued carries start, forall_prop_of_true rfl]
      cases finish : fragment.finish with
      | true =>
        rw [if_pos rfl, forall_prop_of_true rfl]
        exact classifies_fuA_last describes between fragment.bytes marker
      | false =>
        rw [if_neg Bool.false_ne_true, classifies_append]
        exact iff_of_true (fun _ => classifies_nil) (by simp)

/-- A packet's NALUs are classified by their own headers exactly where it finds `m_nalu` so. -/
theorem classifies_ofPacket_iff {depacketizer : RtpDepacketizerH264} {content : NaluContent}
    (describes : content.Describes depacketizer) (between : content ≠ .startcode)
    (call : ParseCall) :
    Classifies call (NaluOperation.ofPacket call.payload call.marker)
        (depacketizer.beginPacket call, content) ↔
      depacketizer.FindsHeader content call.payload := by
  have described := describes_beginPacket describes call
  cases payload : call.payload with
  | nil => exact iff_of_true classifies_nil ⟨nofun, nofun, nofun⟩
  | cons first rest =>
    rw [findsHeader_cons]
    -- each type of packet is under one of the three conditions only
    by_cases single : 1 ≤ packetType first ∧ packetType first ≤ 12
    · have other {type : UInt8} (large : ¬ type ≤ 12) : packetType first ≠ type :=
        fun typed => large (typed ▸ single.2)
      obtain ⟨next, -, -, whole⟩ := @classifies_wholeNalu call
        (depacketizer.beginPacket call, content) described (first :: rest) call.marker []
      rw [List.append_nil, and_iff_left classifies_nil,
        and_iff_left (List.cons_ne_nil first rest)] at whole
      rw [NaluOperation.ofPacket, if_pos single, whole, forall_prop_of_true single]
      exact ⟨fun alone => ⟨alone, fun typed => absurd typed (other (by decide)),
        fun typed => absurd typed (other (by decide))⟩, And.left⟩
    by_cases stapA : packetType first = 24
    · have notFuA : packetType first ≠ 28 := by
        rw [stapA]
        decide
      rw [NaluOperation.ofPacket, if_neg single, if_pos stapA, classifies_stapA described,
        forall_prop_of_true stapA]
      exact ⟨fun finds => ⟨fun typed => absurd typed single, finds,
        fun typed => absurd typed notFuA⟩, fun both => both.2.1⟩
    by_cases fuA : packetType first = 28
    · rw [forall_prop_of_true fuA, @classifies_fuA_iff call
        (depacketizer.beginPacket call, content) described between call.marker first rest fuA]
      exact ⟨fun finds => ⟨fun typed => absurd typed single, fun typed => absurd typed stapA,
        finds⟩, fun both => both.2.2⟩
    · rw [NaluOperation.ofPacket, if_neg single, if_neg stapA, if_neg fuA]
      exact iff_of_true (classifies_fail _) ⟨fun typed => absurd typed single,
        fun typed => absurd typed stapA, fun typed => absurd typed fuA⟩

end RtpDepacketizerH264

/-! ## Runs -/

/-- A depacketizer and the account of its `m_nalu`. -/
structure AccountedNalu where
  depacketizer : RtpDepacketizerH264
  content : NaluContent

namespace AccountedNalu

open RtpDepacketizerH264 (Accounted Classifies EndsNalu performAccounted)

/-- What a `parse` call leaves. -/
def answer (state : AccountedNalu) (call : ParseCall) : Accounted :=
  if call.payload = [] then (⟨.error, state.depacketizer, call.frame⟩, state.content)
  else
    Script.execute (performAccounted call) (NaluOperation.ofPacket call.payload call.marker)
      (state.depacketizer.beginPacket call, state.content)

theorem answer_fst (state : AccountedNalu) (call : ParseCall) :
    (state.answer call).1 = RtpDepacketizer.answer state.depacketizer call := by
  rw [answer]
  split
  next empty => rw [RtpDepacketizerH264.answer_of_empty _ empty]
  next nonempty =>
    rw [performAccounted, Script.execute_observed_fst, RtpDepacketizerH264.answer_eq _ nonempty]

def next (state : AccountedNalu) : DepacketizerCall → AccountedNalu
  | .parse call => ⟨(state.answer call).1.depacketizer, (state.answer call).2⟩
  | .setSyncPoint => ⟨state.depacketizer.setSyncPoint, .nothing⟩

def machine :
    Machine AccountedNalu DepacketizerCall (Option (ParseResult RtpDepacketizerH264)) where
  step state call :=
    (state.next call, ((RtpDepacketizer.machine _).step state.depacketizer call).2)

theorem projects : machine.Projects (RtpDepacketizer.machine _) depacketizer := by
  intro state call
  cases call with
  | parse call => exact congrArg ParseResult.depacketizer (state.answer_fst call)
  | setSyncPoint => rfl

def begin (nalu frame : Memory UInt8) : AccountedNalu := ⟨.create nalu frame, .nothing⟩

/-- The account agrees with `m_nalu`, where no packet leaves a start code alone. -/
structure Right (state : AccountedNalu) : Prop where
  describes : state.content.Describes state.depacketizer
  between : state.content ≠ .startcode

variable {state : AccountedNalu}

theorem described_execute {call : ParseCall} {accounted : Accounted}
    (described : accounted.Described) {operations : List NaluOperation}
    (coded : ∀ operation ∈ operations, operation.Coded) :
    (Script.execute (performAccounted call) operations accounted).Described := by
  have keeps : ∀ operation ∈ operations, ∀ accounted : Accounted, accounted.Described →
      (Script.after (performAccounted call operation accounted)).Described := by
    intro operation member accounted described
    rw [performAccounted, Script.after_observed]
    exact described.after call (coded operation member)
  exact Script.execute_invariant keeps described

/-- Without a start code appended there is none alone. -/
def Between (accounted : Accounted) : Prop := accounted.2 ≠ .startcode

theorem between_after {call : ParseCall} {operation : NaluOperation} {accounted : Accounted}
    (noStartcode : ∀ bytes, operation ≠ .append .startcode bytes)
    (between : (∃ part bytes, operation = .append part bytes ∧ bytes ≠ []) ∨ Between accounted) :
    Between (Script.after (performAccounted call operation accounted)) := by
  rw [performAccounted, Script.after_observed, Between]
  cases operation with
  | append part bytes =>
    dsimp only [NaluContent.after]
    split_ifs with fits none
    · refine between.resolve_left ?_
      rintro ⟨part', bytes', same, occupied⟩
      exact occupied ((NaluOperation.append.inj same).2 ▸ none)
    · intro alone
      cases part with
      | startcode => exact noStartcode bytes rfl
      | header | payload =>
        cases content : accounted.2 <;> rw [content] at alone <;> cases alone
    · nofun
  | decode last => nofun
  | fail => nofun

theorem between_execute {call : ParseCall} {accounted : Accounted} (between : Between accounted)
    {operations : List NaluOperation}
    (noStartcode : ∀ operation ∈ operations, ∀ bytes, operation ≠ .append .startcode bytes) :
    Between (Script.execute (performAccounted call) operations accounted) := by
  have keeps : ∀ operation ∈ operations, ∀ accounted : Accounted, Between accounted →
      Between (Script.after (performAccounted call operation accounted)) :=
    fun operation member _ between => between_after (noStartcode operation member) (.inr between)
  exact Script.execute_invariant keeps between

theorem execute_performAccounted_fst (call : ParseCall) (operations : List NaluOperation)
    (accounted : Accounted) :
    (Script.execute (performAccounted call) operations accounted).1 =
      Script.execute (RtpDepacketizerH264.perform call) operations accounted.1 :=
  Script.execute_observed_fst operations accounted

/-- A packet that is given up leaves nothing. -/
theorem between_of_error {call : ParseCall} {operation : NaluOperation}
    {accounted final : Accounted}
    (ended : performAccounted call operation accounted = .error final) : Between final := by
  obtain ⟨ended, same⟩ := Script.of_observed_error ended
  have step := naluStep_perform call operation accounted.1
  rw [ended] at step
  rw [Between, same]
  generalize final.1 = left at step
  cases step with
  | overflowed part bytes tooLarge =>
    rw [NaluContent.after, if_neg (Nat.not_le.mpr tooLarge)]
    nofun
  | failed => nofun

theorem Right.answer (right : state.Right) (call : ParseCall) :
    (state.answer call).Described ∧ Between (state.answer call) := by
  rw [AccountedNalu.answer]
  split
  next empty => exact ⟨right.describes, right.between⟩
  next nonempty =>
    have begun : Accounted.Described (state.depacketizer.beginPacket call, state.content) :=
      RtpDepacketizerH264.describes_beginPacket right.describes call
    have described : (Script.execute (performAccounted call) _ _).Described :=
      described_execute begun (NaluOperation.coded_ofPacket call.payload call.marker)
    have between : Between (state.depacketizer.beginPacket call, state.content) := right.between
    refine ⟨described, ?_⟩
    cases carries : FuAFragment.ofPayload call.payload with
    | none =>
      -- the last NALU is decoded or abandoned
      have ends := FuAFragment.endsNalu_of_none nonempty carries call.marker
      have emptied := ends.execute call (state.depacketizer.beginPacket call)
      rw [← execute_performAccounted_fst call _
        (state.depacketizer.beginPacket call, state.content)] at emptied
      rw [Between, described.naluLen_eq_zero_iff.mp emptied]
      nofun
    | some fragment =>
      cases start : fragment.start with
      | true =>
        obtain ⟨header, script⟩ := FuAFragment.ofPacket_of_started carries start call.marker
        rw [script]
        split
        next => exact between_execute between (by simp)
        next =>
          -- the header comes right behind the start code
          cases outcome : performAccounted call
              (.append .startcode NaluOperation.startcode)
              (state.depacketizer.beginPacket call, state.content) with
          | error final =>
            rw [Script.execute_cons_error _ outcome]
            exact between_of_error outcome
          | ok next =>
            rw [Script.execute_cons_ok _ outcome]
            refine Script.execute_cons_invariant ?_ fun _ kept => between_execute kept (by simp)
            exact between_after (by simp) (.inl ⟨.header, [header], rfl, List.cons_ne_nil _ _⟩)
      | false =>
        rw [FuAFragment.ofPacket_of_continued carries start]
        refine between_execute between fun operation member bytes same => ?_
        rw [same] at member
        rcases List.mem_cons.mp member with first | ending
        · cases first
        · split at ending
          next => cases List.mem_singleton.mp ending
          next => cases ending

theorem Right.next (right : state.Right) (input : DepacketizerCall) : (state.next input).Right := by
  cases input with
  | parse call => exact ⟨(right.answer call).1, (right.answer call).2⟩
  | setSyncPoint => exact ⟨rfl, nofun⟩

theorem right_run (nalu frame : Memory UInt8) (calls : List DepacketizerCall) :
    (machine.run (begin nalu frame) calls).Right :=
  machine.run_invariant (fun _ input right => right.next input) ⟨rfl, nofun⟩ calls

/-- The packet finds `m_nalu` as it should be. -/
def Finds (state : AccountedNalu) : DepacketizerCall → Prop
  | .setSyncPoint => True
  | .parse call => state.depacketizer.FindsHeader state.content call.payload

end AccountedNalu

namespace RtpDepacketizerH264

/-- In the run every NALU that is decoded is classified by its own header. -/
def ClassifiedByOwnHeader (nalu frame : Memory UInt8) (calls : List DepacketizerCall) : Prop :=
  ∀ past call after, calls = past ++ .parse call :: after →
    let reached := AccountedNalu.machine.run (.begin nalu frame) past
    Classifies call (NaluOperation.ofPacket call.payload call.marker)
      (reached.depacketizer.beginPacket call, reached.content)

/-- That is so exactly of the runs whose packets find `m_nalu` as it should be.  The account does not
get in the way of the depacketizer. -/
theorem classifiedByOwnHeader_iff (nalu frame : Memory UInt8) (calls : List DepacketizerCall) :
    (ClassifiedByOwnHeader nalu frame calls ↔
      AccountedNalu.machine.Guarded AccountedNalu.Finds (.begin nalu frame) calls) ∧
    (AccountedNalu.machine.run (.begin nalu frame) calls).depacketizer =
      (machine _).run (create nalu frame) calls := by
  refine ⟨?_, AccountedNalu.projects.run _ calls⟩
  rw [Machine.guarded_iff]
  constructor
  · intro classified past input after split
    have right := AccountedNalu.right_run nalu frame past
    cases input with
    | setSyncPoint => trivial
    | parse call =>
      exact (classifies_ofPacket_iff right.describes right.between call).mp
        (classified past call after split)
  · intro finds past call after split
    have right := AccountedNalu.right_run nalu frame past
    exact (classifies_ofPacket_iff right.describes right.between call).mpr
      (finds past (.parse call) after split)

/-- An empty STAP-A entry is classified by a byte that was never written, and clears the sentry of
the SPS. -/
theorem emptyEntry_clearsSentry :
    ¬ ClassifiedByOwnHeader (fun _ => 0x67) (fun _ => 0)
      [.parse (.ofPayload [0x18, 0, 0] false 0 96)] ∧
    (create (fun _ => 0x67) fun _ => 0).spsSentry = true ∧
    ((machine _).run (create (fun _ => 0x67) fun _ => 0)
      [.parse (.ofPayload [0x18, 0, 0] false 0 96)]).spsSentry = false := by
  refine ⟨fun classified => ?_, by decide +kernel, by decide +kernel⟩
  have described : NaluContent.nothing.Describes (create (fun _ => 0x67) fun _ => 0) := rfl
  have finds := (classifies_ofPacket_iff described nofun _).mp (classified [] _ [] rfl)
  rw [ParseCall.payload_ofPayload] at finds
  have every := (finds.stapA 0x18 0 0 [] rfl (by decide) (by decide) (by decide)).2
  exact ((noEmptyEntry_cons ..).mp every (by decide)).1 (by decide)

end RtpDepacketizerH264

end RtpPlayer
