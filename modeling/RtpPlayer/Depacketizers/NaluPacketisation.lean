import RtpPlayer.Foundations.Octets
import RtpPlayer.Depacketizers.NaluOperations

/-! # H.264 packetisation

The packets a sender makes of an access unit, as RFC 3984 describes them, and what the depacketizer
makes of these packets. -/

namespace RtpPlayer

open Foundations
open Foundations.ByteOrder
open RtpDepacketizer
open RtpDepacketizerH264 (packetType)

structure NalUnit where
  header : UInt8
  body : List UInt8

namespace NalUnit

def bytes (nalu : NalUnit) : List UInt8 := nalu.header :: nalu.body

/-- The byte stream of some NAL units: each behind its start code. -/
def byteStream (nalus : List NalUnit) : List UInt8 :=
  nalus.flatMap fun nalu => NaluOperation.startcode ++ nalu.bytes

theorem byteStream_append (first second : List NalUnit) :
    byteStream (first ++ second) = byteStream first ++ byteStream second :=
  List.flatMap_append

theorem length_byteStream_append (first second : List NalUnit) :
    (byteStream (first ++ second)).length =
      (byteStream first).length + (byteStream second).length := by
  rw [byteStream_append, List.length_append]

end NalUnit

/-- The packets made of one or more consecutive NAL units. -/
inductive NaluPacketisation where
  /-- A single NAL unit packet. -/
  | single (nalu : NalUnit) (typed : 1 ≤ packetType nalu.header ∧ packetType nalu.header ≤ 12)
  /-- A STAP-A packet; `indicator` is its own header. -/
  | stapA (indicator : UInt8) (typed : packetType indicator = 24) (nalus : List NalUnit)
      (nonempty : nalus ≠ []) (short : ∀ nalu ∈ nalus, nalu.bytes.length ≤ 65535)
  /-- At least two FU-A packets; the fragments make up the body of the NAL unit. -/
  | fuA (nalu : NalUnit) (first : List UInt8) (middle : List (List UInt8)) (last : List UInt8)
      (cut : first ++ middle.flatten ++ last = nalu.body)

namespace NaluPacketisation

def nalus : NaluPacketisation → List NalUnit
  | single nalu _ => [nalu]
  | stapA _ _ nalus _ _ => nalus
  | fuA nalu _ _ _ _ => [nalu]

/-- An entry of a STAP-A packet: the size and the NAL unit. -/
def stapAEntry (nalu : NalUnit) : List UInt8 :=
  bigEndian16 (UInt16.ofNat nalu.bytes.length) ++ nalu.bytes

/-- An FU-A packet: the FU indicator, the FU header and the fragment. -/
def fuAPacket (header flags : UInt8) (fragment : List UInt8) : List UInt8 :=
  ((header &&& 0xe0) ||| 28) :: (flags ||| (header &&& 0x1f)) :: fragment

def packets : NaluPacketisation → List (List UInt8)
  | single nalu _ => [nalu.bytes]
  | stapA indicator _ nalus _ _ => [indicator :: nalus.flatMap stapAEntry]
  | fuA nalu first middle last _ =>
    fuAPacket nalu.header 0x80 first ::
      (middle.map (fuAPacket nalu.header 0) ++ [fuAPacket nalu.header 0x40 last])

end NaluPacketisation

namespace RtpDepacketizerH264

/-! ## The gate before some NAL units -/

namespace Sentries

variable (sentries : Sentries)

def admits (nalu : NalUnit) : Bool := (sentries.gate (packetType nalu.header)).1

def next (nalu : NalUnit) : Sentries := (sentries.gate (packetType nalu.header)).2

/-- The sentries behind the NAL units. -/
def after (nalus : List NalUnit) : Sentries := nalus.foldl next sentries

/-- The NAL units that the gate lets through. -/
def kept : Sentries → List NalUnit → List NalUnit
  | _, [] => []
  | sentries, nalu :: nalus =>
    (if sentries.admits nalu then [nalu] else []) ++ (sentries.next nalu).kept nalus

def admitsLast (nalus : List NalUnit) : Bool :=
  nalus.getLast?.elim false (sentries.after nalus.dropLast).admits

@[simp] theorem after_nil : sentries.after [] = sentries := rfl

@[simp] theorem after_cons (nalu : NalUnit) (nalus : List NalUnit) :
    sentries.after (nalu :: nalus) = (sentries.next nalu).after nalus := rfl

theorem after_append (first second : List NalUnit) :
    sentries.after (first ++ second) = (sentries.after first).after second :=
  List.foldl_append ..

theorem kept_singleton (nalu : NalUnit) :
    sentries.kept [nalu] = if sentries.admits nalu then [nalu] else [] :=
  List.append_nil _

@[simp] theorem admitsLast_singleton (nalu : NalUnit) :
    sentries.admitsLast [nalu] = sentries.admits nalu := rfl

theorem kept_append (first second : List NalUnit) :
    sentries.kept (first ++ second) =
      sentries.kept first ++ (sentries.after first).kept second := by
  induction first generalizing sentries with
  | nil => rfl
  | cons nalu first ih =>
    rw [List.cons_append, kept, ih, kept, after_cons, List.append_assoc]

theorem admitsLast_concat (nalus : List NalUnit) (nalu : NalUnit) :
    sentries.admitsLast (nalus ++ [nalu]) = (sentries.after nalus).admits nalu := by
  rw [admitsLast, List.getLast?_concat, List.dropLast_concat]
  rfl

theorem admitsLast_append (first : List NalUnit) {second : List NalUnit} (nonempty : second ≠ []) :
    sentries.admitsLast (first ++ second) = (sentries.after first).admitsLast second := by
  obtain ⟨second, last, rfl⟩ := (List.eq_nil_or_concat' second).resolve_left nonempty
  rw [← List.append_assoc, admitsLast_concat, admitsLast_concat, after_append]

theorem byteStream_kept_le (nalus : List NalUnit) :
    (NalUnit.byteStream (sentries.kept nalus)).length ≤ (NalUnit.byteStream nalus).length := by
  induction nalus generalizing sentries with
  | nil => rfl
  | cons nalu nalus ih =>
    have rest := ih (sentries.next nalu)
    have total := NalUnit.length_byteStream_append [nalu] nalus
    rw [List.singleton_append] at total
    rw [kept, NalUnit.length_byteStream_append]
    split
    next admitted => omega
    next rejected =>
      rw [NalUnit.byteStream, List.flatMap_nil, List.length_nil]
      omega

/-! ### Sentries that are down -/

theorem after_clear (nalus : List NalUnit) : clear.after nalus = clear := by
  induction nalus with
  | nil => rfl
  | cons nalu nalus ih => rw [after_cons, next, gate_clear, ih]

theorem kept_clear (nalus : List NalUnit) : clear.kept nalus = nalus := by
  induction nalus with
  | nil => rfl
  | cons nalu nalus ih => rw [kept, admits, next, gate_clear, ih, if_pos rfl, List.singleton_append]

theorem admitsLast_clear {nalus : List NalUnit} (nonempty : nalus ≠ []) :
    clear.admitsLast nalus = true := by
  obtain ⟨nalus, last, rfl⟩ := (List.eq_nil_or_concat' nalus).resolve_left nonempty
  rw [admitsLast_concat, after_clear, admits, gate_clear]

end Sentries

/-! ## What a depacketizer holds -/

/-- These sentries are up, `partialNalu` is in `m_nalu`, `frameBytes` are in `m_frame` and `packets`
have been counted. -/
structure Gated (depacketizer : RtpDepacketizerH264) (sentries : Sentries)
    (partialNalu frameBytes : List UInt8) (packets : Nat) : Prop where
  sentries : depacketizer.sentries = sentries
  naluLen : depacketizer.naluLen = partialNalu.length
  nalu : depacketizer.nalu.slice 0 partialNalu.length = partialNalu
  frameLen : depacketizer.frameLen = frameBytes.length
  frame : depacketizer.frame.slice 0 frameBytes.length = frameBytes
  packets : depacketizer.packets = packets

/-- How a packet that ends a NALU leaves the frame: delivered where the NALU is the last. -/
def EndsGated (last : Bool) (call : ParseCall) (sentries : Sentries) (frameBytes : List UInt8)
    (packets : Nat) (result : ParseResult RtpDepacketizerH264) : Prop :=
  if last then
    result.status = .frame ∧ result.depacketizer.Gated sentries [] [] 0 ∧
      result.depacketizer.frame.slice 0 frameBytes.length = frameBytes ∧
      ∃ flags, result.frame = call.frame.map fun _ =>
        ⟨frameBytes.length, call.pts.toNat, flags, call.payloadType, packets⟩
  else
    result.status = .needMore ∧ result.depacketizer.Gated sentries [] frameBytes packets ∧
      result.frame = call.frame

variable {depacketizer : RtpDepacketizerH264} {sentries : Sentries}
  {partialNalu frameBytes : List UInt8} {packets : Nat}

theorem Gated.append (gated : depacketizer.Gated sentries partialNalu frameBytes packets)
    (bytes : List UInt8) (fits : partialNalu.length + bytes.length ≤ maxEsFrameSize) :
    ∃ appended, depacketizer.append bytes = .ok appended ∧
      appended.Gated sentries (partialNalu ++ bytes) frameBytes packets := by
  refine ⟨depacketizer.pushNalu bytes, append_of_le (by rw [gated.naluLen]; exact fits), ?_⟩
  have nalu : (depacketizer.pushNalu bytes).nalu.slice 0 (partialNalu ++ bytes).length =
      partialNalu ++ bytes := by
    rw [pushNalu, List.length_append, gated.naluLen, Memory.slice_write_append, gated.nalu]
  exact {
    sentries := gated.sentries
    naluLen := by rw [pushNalu, List.length_append, gated.naluLen]
    nalu := nalu
    frameLen := gated.frameLen
    frame := gated.frame
    packets := gated.packets }

/-- The type of a NAL unit behind its start code is that of its header. -/
theorem Gated.naluType {nalu : NalUnit}
    (gated : depacketizer.Gated sentries (NaluOperation.startcode ++ nalu.bytes) frameBytes
      packets) : depacketizer.naluType = packetType nalu.header :=
  congrArg packetType (Memory.apply_of_getElem? gated.nalu rfl)

theorem Gated.decNalu {nalu : NalUnit}
    (gated : depacketizer.Gated sentries (NaluOperation.startcode ++ nalu.bytes) frameBytes
      packets)
    (fits : frameBytes.length + (NalUnit.byteStream [nalu]).length ≤ maxEsFrameSize) (last : Bool)
    (call : ParseCall) :
    EndsGated (last && sentries.admitsLast [nalu]) call (sentries.after [nalu])
      (frameBytes ++ NalUnit.byteStream (sentries.kept [nalu])) packets
      (depacketizer.decNalu last call call.frame) := by
  have occupied : depacketizer.naluLen ≠ 0 := by
    rw [gated.naluLen]
    simp [NaluOperation.startcode]
  have stream : NalUnit.byteStream [nalu] = NaluOperation.startcode ++ nalu.bytes :=
    List.flatMap_singleton ..
  rw [stream] at fits
  have gate : (depacketizer.checkSentries depacketizer.naluType).1 = sentries.admits nalu := by
    rw [checkSentries_fst, gated.sentries, gated.naluType, Sentries.admits]
  rw [Sentries.admitsLast_singleton, Sentries.kept_singleton, Sentries.after_cons,
    Sentries.after_nil]
  cases admitted : sentries.admits nalu with
  | false =>
    rw [decNalu_of_rejected last call call.frame occupied (gate.trans admitted), Bool.and_false,
      if_neg Bool.false_ne_true, NalUnit.byteStream, List.flatMap_nil, List.append_nil,
      Sentries.next, Sentries.gate_rejected admitted]
    exact ⟨rfl, { gated with naluLen := rfl, nalu := rfl }, rfl⟩
  | true =>
    rw [if_pos rfl, stream, Bool.and_true]
    -- the size limit does not cut the NALU off
    have whole : depacketizer.storedLen = (NaluOperation.startcode ++ nalu.bytes).length := by
      rw [storedLen, gated.naluLen, gated.frameLen]
      omega
    have grown : (frameBytes ++ (NaluOperation.startcode ++ nalu.bytes)).length =
        frameBytes.length + (NaluOperation.startcode ++ nalu.bytes).length := List.length_append
    have stored : depacketizer.store.Gated (sentries.next nalu) []
        (frameBytes ++ (NaluOperation.startcode ++ nalu.bytes)) packets := by
      rw [store_eq, gated.naluType, gated.sentries, whole, gated.nalu]
      exact {
        sentries := rfl
        naluLen := rfl
        nalu := rfl
        frameLen := by rw [grown, gated.frameLen]
        frame := by rw [grown, gated.frameLen, Memory.slice_write_append, gated.frame]
        packets := gated.packets }
    -- nothing but the marker closes the frame, since the NALU fits
    have closing : depacketizer.closes last = last := by
      rw [closes, gated.frameLen, gated.naluLen, decide_eq_false (Nat.not_lt.mpr fits),
        Bool.or_false]
    cases last with
    | false =>
      rw [decNalu_of_stored false call call.frame occupied (gate.trans admitted) closing]
      exact ⟨rfl, stored, rfl⟩
    | true =>
      rw [decNalu_of_closing true call call.frame occupied (gate.trans admitted) closing]
      refine ⟨rfl, ?_, stored.frame, depacketizer.closingFlags, ?_⟩
      · exact {
          sentries := stored.sentries
          naluLen := rfl
          nalu := rfl
          frameLen := rfl
          frame := rfl
          packets := rfl }
      · rw [stored.frameLen, gated.packets]

theorem Gated.wholeNalu {result : ParseResult RtpDepacketizerH264}
    (gated : result.depacketizer.Gated sentries [] frameBytes packets)
    (call : ParseCall) (untouched : result.frame = call.frame) (nalu : NalUnit)
    (fits : frameBytes.length + (NalUnit.byteStream [nalu]).length ≤ maxEsFrameSize)
    (last : Bool) (operations : List NaluOperation) :
    ∃ next, EndsGated (last && sentries.admitsLast [nalu]) call (sentries.after [nalu])
        (frameBytes ++ NalUnit.byteStream (sentries.kept [nalu])) packets next ∧
      Script.execute (perform call) (NaluOperation.wholeNalu nalu.bytes last ++ operations) result =
        Script.execute (perform call) operations next := by
  have length : (NalUnit.byteStream [nalu]).length =
      NaluOperation.startcode.length + nalu.bytes.length := by
    simp [NalUnit.byteStream]
  obtain ⟨started, startcode, gatedStart⟩ :=
    gated.append NaluOperation.startcode (by simp only [List.length_nil]; omega)
  obtain ⟨whole, body, gatedWhole⟩ := gatedStart.append nalu.bytes (by simpa using by omega)
  refine ⟨_, gatedWhole.decNalu fits last call, ?_⟩
  simp only [NaluOperation.wholeNalu, List.cons_append, List.nil_append, execute_append, startcode,
    body, execute_decode, untouched]

theorem Gated.beginPacket (gated : depacketizer.Gated sentries partialNalu frameBytes packets)
    (call : ParseCall) :
    (depacketizer.beginPacket call).depacketizer.Gated sentries partialNalu frameBytes
      (packets + 1) :=
  { gated with packets := congrArg (· + 1) gated.packets }

/-! ## Single NAL unit and STAP-A packets -/

theorem Gated.answer_single (gated : depacketizer.Gated sentries [] frameBytes packets)
    {nalu : NalUnit} (typed : 1 ≤ packetType nalu.header ∧ packetType nalu.header ≤ 12)
    (fits : frameBytes.length + (NalUnit.byteStream [nalu]).length ≤ maxEsFrameSize)
    {call : ParseCall} (carries : call.payload = nalu.bytes) :
    EndsGated (call.marker && sentries.admitsLast [nalu]) call (sentries.after [nalu])
      (frameBytes ++ NalUnit.byteStream (sentries.kept [nalu])) (packets + 1)
      (answer depacketizer call) := by
  have script : NaluOperation.ofPacket call.payload call.marker =
      NaluOperation.wholeNalu nalu.bytes call.marker ++ [] := by
    rw [carries, List.append_nil]
    exact if_pos typed
  obtain ⟨result, ends, executed⟩ :=
    (gated.beginPacket call).wholeNalu call rfl nalu fits call.marker []
  rw [answer_eq depacketizer (by simp [carries, NalUnit.bytes]), script, executed]
  exact ends

theorem ofStapA_entry (marker : Bool) (nalu : NalUnit) (short : nalu.bytes.length ≤ 65535)
    (rest : List UInt8) :
    NaluOperation.ofStapA marker (NaluPacketisation.stapAEntry nalu ++ rest) =
      NaluOperation.wholeNalu nalu.bytes (if rest = [] then marker else false) ++
        if rest = [] then [] else NaluOperation.ofStapA marker rest := by
  -- the size field of the entry survives the 16 bits it is sent in
  have length : (ofBigEndian16 (UInt8.ofNat ((UInt16.ofNat nalu.bytes.length).toNat / 256))
      (UInt8.ofNat (UInt16.ofNat nalu.bytes.length).toNat)).toNat = nalu.bytes.length := by
    rw [ofBigEndian16_bigEndian16, UInt16.toNat_ofNat']
    omega
  simp only [NaluPacketisation.stapAEntry, bigEndian16, List.cons_append, List.nil_append]
  rw [NaluOperation.ofStapA]
  simp only [length, List.length_append, List.take_left, List.drop_left,
    if_neg (show ¬ nalu.bytes.length + rest.length < nalu.bytes.length by omega)]
  cases rest with
  | nil => simp
  | cons next rest => simp

theorem Gated.execute_stapA {nalus : List NalUnit} (nonempty : nalus ≠ [])
    (short : ∀ nalu ∈ nalus, nalu.bytes.length ≤ 65535)
    {result : ParseResult RtpDepacketizerH264}
    (gated : result.depacketizer.Gated sentries [] frameBytes packets)
    (call : ParseCall) (untouched : result.frame = call.frame)
    (fits : frameBytes.length + (NalUnit.byteStream nalus).length ≤ maxEsFrameSize) :
    EndsGated (call.marker && sentries.admitsLast nalus) call (sentries.after nalus)
      (frameBytes ++ NalUnit.byteStream (sentries.kept nalus)) packets
      (Script.execute (perform call)
        (NaluOperation.ofStapA call.marker (nalus.flatMap NaluPacketisation.stapAEntry))
        result) := by
  -- on the entries: `Gated` carries what the frame has by then, only the last sees the marker
  induction nalus generalizing sentries frameBytes result with
  | nil => exact absurd rfl nonempty
  | cons nalu nalus ih =>
    have shortHead := short nalu List.mem_cons_self
    have total := NalUnit.length_byteStream_append [nalu] nalus
    rw [List.singleton_append] at total
    rw [List.flatMap_cons, ofStapA_entry _ _ shortHead]
    obtain ⟨next, ends, executed⟩ := gated.wholeNalu call untouched nalu (by omega)
      (if nalus.flatMap NaluPacketisation.stapAEntry = [] then call.marker else false)
      (if nalus.flatMap NaluPacketisation.stapAEntry = [] then []
        else NaluOperation.ofStapA call.marker (nalus.flatMap NaluPacketisation.stapAEntry))
    rw [executed]
    cases nalus with
    | nil => exact ends
    | cons second nalus =>
      have more : (second :: nalus).flatMap NaluPacketisation.stapAEntry ≠ [] := by
        simp [NaluPacketisation.stapAEntry, bigEndian16]
      rw [if_neg more, Bool.false_and] at ends
      rw [if_neg more]
      obtain ⟨needMore, gatedNext, untouchedNext⟩ := ends
      have room := sentries.byteStream_kept_le [nalu]
      have rest := ih (List.cons_ne_nil second nalus)
        (fun nalu member => short nalu (List.mem_cons_of_mem _ member))
        gatedNext untouchedNext (by rw [List.length_append]; omega)
      rwa [List.append_assoc, ← NalUnit.byteStream_append, ← Sentries.kept_append,
        ← Sentries.admitsLast_append _ _ (List.cons_ne_nil second nalus), ← Sentries.after_append,
        List.singleton_append] at rest

theorem Gated.answer_stapA (gated : depacketizer.Gated sentries [] frameBytes packets)
    {indicator : UInt8} (typed : packetType indicator = 24) {nalus : List NalUnit}
    (nonempty : nalus ≠ []) (short : ∀ nalu ∈ nalus, nalu.bytes.length ≤ 65535)
    (fits : frameBytes.length + (NalUnit.byteStream nalus).length ≤ maxEsFrameSize)
    {call : ParseCall}
    (carries : call.payload = indicator :: nalus.flatMap NaluPacketisation.stapAEntry) :
    EndsGated (call.marker && sentries.admitsLast nalus) call (sentries.after nalus)
      (frameBytes ++ NalUnit.byteStream (sentries.kept nalus)) (packets + 1)
      (answer depacketizer call) := by
  have script : NaluOperation.ofPacket call.payload call.marker =
      NaluOperation.ofStapA call.marker (nalus.flatMap NaluPacketisation.stapAEntry) := by
    rw [carries, NaluOperation.ofPacket, typed]
    rfl
  rw [answer_eq depacketizer (by simp [carries]), script]
  exact Gated.execute_stapA nonempty short (gated.beginPacket call) call rfl fits

/-! ## FU-A packets -/

theorem fuIndicator_type (header : UInt8) : packetType ((header &&& 0xe0) ||| 28) = 28 := by
  revert header
  exact forall_octet (by decide +kernel)

theorem fuHeader_restores (header flags : UInt8) (known : flags = 0 ∨ flags = 0x80 ∨ flags = 0x40) :
    (((header &&& 0xe0) ||| 28) &&& 0xe0) ||| ((flags ||| (header &&& 0x1f)) &&& 0x1f) =
      header := by
  revert header
  obtain rfl | rfl | rfl := known <;> exact forall_octet (by decide +kernel)

theorem fuHeader_start (header flags : UInt8) (known : flags = 0 ∨ flags = 0x80 ∨ flags = 0x40) :
    (flags ||| (header &&& 0x1f)) &&& 0x80 > 0 ↔ flags = 0x80 := by
  revert header
  obtain rfl | rfl | rfl := known <;> exact forall_octet (by decide +kernel)

theorem fuHeader_finish (header flags : UInt8) (known : flags = 0 ∨ flags = 0x80 ∨ flags = 0x40) :
    (flags ||| (header &&& 0x1f)) &&& 0x40 > 0 ↔ flags = 0x40 := by
  revert header
  obtain rfl | rfl | rfl := known <;> exact forall_octet (by decide +kernel)

theorem ofPacket_fuA (marker : Bool) (header flags : UInt8) (fragment : List UInt8)
    (known : flags = 0 ∨ flags = 0x80 ∨ flags = 0x40) :
    NaluOperation.ofPacket (NaluPacketisation.fuAPacket header flags fragment) marker =
      (if flags = 0x80 then
        [.append .startcode NaluOperation.startcode, .append .header [header]] else []) ++
      .append .payload fragment :: (if flags = 0x40 then [.decode marker] else []) := by
  have proper : ¬ ((flags ||| (header &&& 0x1f)) &&& 0x80 > 0 ∧
      (flags ||| (header &&& 0x1f)) &&& 0x40 > 0) := by
    rw [fuHeader_start header flags known, fuHeader_finish header flags known]
    rintro ⟨rfl, both⟩
    cases both
  rw [NaluPacketisation.fuAPacket, NaluOperation.ofPacket, fuIndicator_type, if_neg (by decide),
    if_neg (by decide), if_pos rfl, NaluOperation.ofFuA, if_neg proper,
    fuHeader_restores header flags known]
  simp only [fuHeader_start header flags known, fuHeader_finish header flags known]

theorem Gated.answer_fuA_first (gated : depacketizer.Gated sentries [] frameBytes packets)
    {header : UInt8} {fragment : List UInt8} (fits : fragment.length + 5 ≤ maxEsFrameSize)
    {call : ParseCall} (carries : call.payload = NaluPacketisation.fuAPacket header 0x80 fragment) :
    (answer depacketizer call).status = .needMore ∧
      (answer depacketizer call).depacketizer.Gated sentries
        (NaluOperation.startcode ++ [header] ++ fragment) frameBytes (packets + 1) := by
  have length : NaluOperation.startcode.length = 4 := rfl
  obtain ⟨started, startcode, gatedStart⟩ :=
    (gated.beginPacket call).append NaluOperation.startcode (by simp [length]; omega)
  obtain ⟨headed, head, gatedHead⟩ := gatedStart.append [header] (by simp [length]; omega)
  obtain ⟨filled, fill, gatedFilled⟩ := gatedHead.append fragment (by simp [length]; omega)
  have answered : answer depacketizer call = ⟨.needMore, filled, call.frame⟩ := by
    rw [answer_eq depacketizer (by simp [carries, NaluPacketisation.fuAPacket]), carries,
      ofPacket_fuA _ _ _ _ (by decide), if_pos rfl, if_neg (by decide)]
    simp only [List.cons_append, List.nil_append, execute_append, startcode, head, fill]
    rfl
  rw [answered]
  exact ⟨rfl, gatedFilled⟩

theorem Gated.answer_fuA_middle
    (gated : depacketizer.Gated sentries partialNalu frameBytes packets)
    {header : UInt8} {fragment : List UInt8}
    (fits : partialNalu.length + fragment.length ≤ maxEsFrameSize)
    {call : ParseCall} (carries : call.payload = NaluPacketisation.fuAPacket header 0 fragment) :
    (answer depacketizer call).status = .needMore ∧
      (answer depacketizer call).depacketizer.Gated sentries (partialNalu ++ fragment) frameBytes
        (packets + 1) := by
  obtain ⟨filled, fill, gatedFilled⟩ := (gated.beginPacket call).append fragment fits
  have answered : answer depacketizer call = ⟨.needMore, filled, call.frame⟩ := by
    rw [answer_eq depacketizer (by simp [carries, NaluPacketisation.fuAPacket]), carries,
      ofPacket_fuA _ _ _ _ (by decide), if_neg (by decide), if_neg (by decide)]
    simp only [List.nil_append, execute_append, fill]
    rfl
  rw [answered]
  exact ⟨rfl, gatedFilled⟩

/-- The fragment with E set brings the end of the NAL unit. -/
theorem Gated.answer_fuA_last {nalu : NalUnit} {fragment : List UInt8}
    (gated : depacketizer.Gated sentries partialNalu frameBytes packets)
    (whole : partialNalu ++ fragment = NaluOperation.startcode ++ nalu.bytes)
    (fits : frameBytes.length + (NalUnit.byteStream [nalu]).length ≤ maxEsFrameSize)
    {header : UInt8} {call : ParseCall}
    (carries : call.payload = NaluPacketisation.fuAPacket header 0x40 fragment) :
    EndsGated (call.marker && sentries.admitsLast [nalu]) call (sentries.after [nalu])
      (frameBytes ++ NalUnit.byteStream (sentries.kept [nalu])) (packets + 1)
      (answer depacketizer call) := by
  have length : (NalUnit.byteStream [nalu]).length = partialNalu.length + fragment.length := by
    rw [← List.length_append, whole, NalUnit.byteStream, List.flatMap_singleton]
  obtain ⟨filled, fill, gatedFilled⟩ :=
    (gated.beginPacket call).append fragment (by omega)
  have answered : answer depacketizer call =
      filled.decNalu call.marker call call.frame := by
    rw [answer_eq depacketizer (by simp [carries, NaluPacketisation.fuAPacket]), carries,
      ofPacket_fuA _ _ _ _ (by decide), if_neg (by decide), if_pos rfl]
    simp only [List.nil_append, execute_append, fill]
    rfl
  rw [whole] at gatedFilled
  rw [answered]
  exact gatedFilled.decNalu fits call.marker call

end RtpDepacketizerH264

end RtpPlayer
