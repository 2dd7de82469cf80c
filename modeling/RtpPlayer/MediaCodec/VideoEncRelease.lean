import RtpPlayer.MediaCodec.AvcLoop
import RtpPlayer.MediaCodec.VideoEncLifetime

/-! # What the video encoders free

`vp8_enc_destroy` never destroys the codec of libvpx, so of VP8 only the runs are clean in which the
codec is not opened; `avc_enc_destroy` closes an encoder of x264 that was not opened. -/

namespace RtpPlayer

open Foundations HeapProgram

namespace VideoEncLifetime

open VideoEnc (Config Surface)

open Cell (asContext asVp8Context asVpxEncoder asVpxImage asAvcContext asX264Encoder)

variable {grants : Nat → Bool} {library : Library} {config : Config} {calls : List EncodeCall}
  {codec : VideoCodecType}

/-! ## Creating -/

/-- A context and that of its codec, which `init` has not filled; after them what `init` left. -/
def unopened (privCtx : Cell) (grants : Nat → Bool) (requests : Nat) (rest : List (Option Cell))
    (freed : List Nat) : Heap Cell where
  cells := some (.context { zeroContext with privCtx := some 1 }) :: some privCtx :: rest
  freed := freed
  grants := grants
  requests := requests

/-- After `create_video_encoder`. -/
abbrev created (privCtx : Cell) (grants : Nat → Bool) : Heap Cell :=
  unopened privCtx grants 2 [] []

theorem createContext_faults {privCtx : Cell} (outer : grants 0 = false) :
    (createContext (malloc privCtx)).run (Heap.empty grants) = .error .nullPointer := by
  simp [createContext, Heap.empty, outer]

/-- The context is freed where that of the codec cannot be allocated. -/
theorem createContext_none {privCtx : Cell} (outer : grants 0) (inner : grants 1 = false) :
    ∃ after, (createContext (malloc privCtx)).Runs (Heap.empty grants) none after ∧
      after.AllFreed := by
  have freed : [0].Perm (List.range 1) := by decide
  refine ⟨{ cells := [none], freed := [0], grants := grants, requests := 2 }, ?_,
    Heap.allFreed_of_perm freed⟩
  simp [Runs, createContext, Heap.empty, outer, inner, Heap.alloc, Heap.refuse, Heap.cell,
    Heap.write, Heap.release]

theorem createContext_created {privCtx : Cell} (outer : grants 0) (inner : grants 1) :
    (createContext (malloc privCtx)).Runs (Heap.empty grants) (some 0)
      (created privCtx grants) := by
  simp [Runs, createContext, Heap.empty, outer, inner, Heap.alloc, Heap.cell, Heap.write, unopened]

/-! ## VP8 -/

/-- The surface is not what the encoder was initialised for. -/
def EncodeCall.Rejected (call : EncodeCall) (config : Config) : Prop :=
  ∃ surface ∈ call.surface, ¬ surface.Accepted config

theorem vp8EncEncode_rejects {heap : Heap Cell} {privCtx : Option Nat} {call : EncodeCall}
    (context : heap.cell 0 = some (.context ⟨privCtx, config⟩)) (rejected : call.Rejected config) :
    (videoEncEncode .vp8 call (some 0)).Runs heap (-1) heap := by
  obtain ⟨surface, given, unaccepted⟩ := rejected
  simp [Runs, videoEncEncode, efEncode, vp8EncEncode, context, Option.mem_def.mp given, unaccepted,
    videoEncLog]

/-- There is no context of the codec, or it has no image. -/
def Imageless (heap : Heap Cell) : Prop :=
  heap.cell 1 = none ∨ ∃ encoder, heap.cell 1 = some (.vp8Context ⟨encoder, none⟩)

theorem vp8EncEncode_faults {heap : Heap Cell} {call : EncodeCall}
    (context : heap.cell 0 = some (.context ⟨some 1, config⟩)) (imageless : Imageless heap)
    (unrejected : ¬ call.Rejected config) :
    ∃ reason, (videoEncEncode .vp8 call (some 0)).run heap = .error reason := by
  cases given : call.surface with
  | none =>
    refine ⟨.nullPointer, ?_⟩
    simp [videoEncEncode, efEncode, vp8EncEncode, context, given]
  | some surface =>
    have accepted : surface.Accepted config := by
      by_contra unaccepted
      exact unrejected ⟨surface, given, unaccepted⟩
    rcases imageless with dead | ⟨encoder, live⟩
    · refine ⟨.deadCell, ?_⟩
      simp [videoEncEncode, efEncode, vp8EncEncode, context, given, accepted, dead]
    · refine ⟨.nullPointer, ?_⟩
      simp [videoEncEncode, efEncode, vp8EncEncode, context, given, accepted, live]

theorem vp8_encode_iff {heap after : Heap Cell}
    (context : heap.cell 0 = some (.context ⟨some 1, config⟩)) (imageless : Imageless heap)
    (calls : List EncodeCall) :
    (forEach (videoEncEncode .vp8 · (some 0)) calls).Runs heap () after ↔
      after = heap ∧ ∀ call ∈ calls, call.Rejected config :=
  forEach_runs_iff (fun _ rejected => ⟨-1, vp8EncEncode_rejects context rejected⟩)
    (fun _ unrejected => vp8EncEncode_faults context imageless unrejected) calls

/-- The heap after a `vp8_enc_init` that opens no codec. -/
abbrev vp8Unopened (grants : Nat → Bool) : Nat → List (Option Cell) → List Nat → Heap Cell :=
  unopened (.vp8Context ⟨none, none⟩) grants

theorem vp8_unopened_clean_iff {requests : Nat} {rest : List (Option Cell)} {freed : List Nat}
    (owned : (freed ++ [1, 0]).Perm (List.range (rest.length + 2))) :
    (encodeAndDestroy .vp8 calls (some 0)).Clean (vp8Unopened grants requests rest freed) ↔
      ∀ call ∈ calls, call.Rejected zeroContext.config := by
  have context : (vp8Unopened grants requests rest freed).cell 0 =
      some (.context ⟨some 1, zeroContext.config⟩) := rfl
  have imageless : Imageless (vp8Unopened grants requests rest freed) := .inr ⟨none, rfl⟩
  constructor
  case mp =>
    rintro ⟨after, runs, -⟩
    obtain ⟨_, middle, encoded, -⟩ := runs_bind_iff.mp runs
    exact ((vp8_encode_iff context imageless calls).mp encoded).2
  case mpr =>
    intro rejected
    have encoded := (vp8_encode_iff context imageless calls).mpr ⟨rfl, rejected⟩
    refine encoded.clean_iff.mpr ⟨{
      cells := none :: none :: rest
      freed := freed ++ [1, 0]
      grants := grants
      requests := requests }, ?_, Heap.allFreed_of_perm owned⟩
    simp [Runs, videoEncDestroy, efDestroy, vp8EncDestroy, unopened, Heap.cell, Heap.release,
      Heap.write]

/-- `vp8_enc_init` opens the codec. -/
def Vp8Opens (grants : Nat → Bool) (library : Library) : Prop :=
  library.configDefault ∧ library.encoderOpens ∧ grants 2

theorem vp8EncInit_unopened {config : Option Config}
    (fails : ¬ (config ≠ none ∧ Vp8Opens grants library)) : ∃ requests rest freed,
    (videoEncInit .vp8 library config (some 0)).Runs (vp8Unopened grants 2 [] []) (-1)
      (vp8Unopened grants requests rest freed) ∧
      (freed ++ [1, 0]).Perm (List.range (rest.length + 2)) := by
  have two : ([] ++ [1, 0]).Perm (List.range 2) := by decide
  have three : ([2] ++ [1, 0]).Perm (List.range 3) := by decide
  cases config with
  | none => exact ⟨2, [], [], rfl, two⟩
  | some config =>
    cases defaults : library.configDefault with
    | false =>
      refine ⟨2, [], [], ?_, two⟩
      simp [Runs, videoEncInit, efInit, vp8EncInit, unopened, Heap.cell, defaults, videoEncLog]
    | true =>
      cases granted : grants 2 with
      | false =>
        refine ⟨3, [], [], ?_, two⟩
        simp [Runs, videoEncInit, efInit, vp8EncInit, unopened, Heap.cell, defaults, construct,
          granted, Heap.refuse, Heap.write, videoEncLog]
      | true =>
        cases opens : library.encoderOpens with
        | true =>
          exact absurd ⟨Option.some_ne_none config, defaults, opens, granted⟩ fails
        | false =>
          refine ⟨3, [none], [2], ?_, three⟩
          simp [Runs, videoEncInit, efInit, vp8EncInit, unopened, Heap.cell, defaults, construct,
            granted, opens, Heap.alloc, Heap.release, Heap.write, videoEncLog]

/-- `vp8_enc_init` destroyed the context of the codec. -/
structure Dangling (heap : Heap Cell) : Prop where
  context : heap.cell 0 = some (.context { zeroContext with privCtx := some 1 })
  destroyed : heap.cell 1 = none

theorem Dangling.not_clean {heap : Heap Cell} (dangling : Dangling heap) :
    ¬ (encodeAndDestroy .vp8 calls (some 0)).Clean heap := by
  rintro ⟨after, runs, -⟩
  obtain ⟨_, middle, encoded, destroyed⟩ := runs_bind_iff.mp runs
  obtain ⟨rfl, -⟩ := (vp8_encode_iff dangling.context (.inl dangling.destroyed) calls).mp encoded
  simp [Runs, videoEncDestroy, efDestroy, vp8EncDestroy, dangling.context,
    dangling.destroyed] at destroyed

/-- The image cannot be allocated. -/
theorem vp8EncInit_dangling (opens : Vp8Opens grants library)
    (fails : ¬ (library.imageAllocates ∧ grants 3)) : ∃ after,
    (videoEncInit .vp8 library (some config) (some 0)).Runs (vp8Unopened grants 2 [] []) (-1)
      after ∧ Dangling after := by
  obtain ⟨defaults, opened, granted⟩ := opens
  cases image : grants 3 with
  | false =>
    refine ⟨{
      cells := [some (.context { zeroContext with privCtx := some 1 }), none, some .vpxEncoder]
      freed := [1]
      grants := grants
      requests := 4 }, ?_, rfl, rfl⟩
    simp [Runs, videoEncInit, efInit, vp8EncInit, unopened, Heap.cell, defaults, construct, granted,
      opened, Heap.alloc, Heap.write, image, Heap.refuse, vp8EncDestroy, Heap.release]
  | true =>
    cases allocates : library.imageAllocates with
    | true => exact absurd ⟨allocates, image⟩ fails
    | false =>
      refine ⟨{
        cells := [some (.context { zeroContext with privCtx := some 1 }), none, some .vpxEncoder,
          none]
        freed := [3, 1]
        grants := grants
        requests := 4 }, ?_, rfl, rfl⟩
      simp [Runs, videoEncInit, efInit, vp8EncInit, unopened, Heap.cell, defaults, construct,
        granted, opened, Heap.alloc, Heap.write, image, allocates, vp8EncDestroy, Heap.release]

/-- An initialised VP8 encoder. -/
def vp8Opened (config : Config) (grants : Nat → Bool) : Heap Cell where
  cells := [some (.context ⟨some 1, config⟩), some (.vp8Context ⟨some 2, some 3⟩),
    some .vpxEncoder, some .vpxImage]
  freed := []
  grants := grants
  requests := 4

theorem vp8EncInit_opened (opens : Vp8Opens grants library)
    (image : library.imageAllocates ∧ grants 3) :
    (videoEncInit .vp8 library (some config) (some 0)).Runs (vp8Unopened grants 2 [] []) 0
      (vp8Opened config grants) := by
  obtain ⟨defaults, opened, granted⟩ := opens
  obtain ⟨allocates, image⟩ := image
  simp [Runs, videoEncInit, efInit, vp8EncInit, unopened, Heap.cell, defaults, construct, granted,
    opened, Heap.alloc, Heap.write, image, allocates, vp8Opened]

theorem videoEncLog_ensures {pre : Heap Cell → Prop} {ctx : Option Nat} :
    Ensures pre (videoEncLog ctx) fun _ => pre :=
  Ensures.bind Ensures.read fun _ => Ensures.pure fun _ met => met

theorem vpxCodecEncode_ensures {pre : Heap Cell → Prop} {encoder : Option Nat} :
    Ensures pre (vpxCodecEncode encoder) fun _ => pre := by
  cases encoder with
  | none => exact Ensures.pure fun _ met => met
  | some encoder =>
    rw [vpxCodecEncode]
    exact Ensures.read

theorem vp8_encode_ensures (heap : Heap Cell) (calls : List EncodeCall) :
    Ensures (· = heap) (forEach (videoEncEncode .vp8 · (some 0)) calls) fun _ => (· = heap) := by
  refine Ensures.forEach (fun call => ?_) calls
  refine Ensures.bind Ensures.read fun context => ?_
  cases call.surface with
  | none => exact Ensures.fault
  | some surface =>
    refine Ensures.ite (fun _ => ?_) fun _ => ?_
    · refine Ensures.bind Ensures.read fun vp8Ctx => ?_
      refine Ensures.through (fun _ => (· = heap)) ?_ fun _ => ?_
      · refine Ensures.store fun same address old seen is_heap pointer live viewed => ?_
        cases old <;> cases viewed
        exact (Heap.write_self live).trans is_heap
      · refine Ensures.ite (fun _ => Ensures.fault) fun _ => ?_
        exact Ensures.bind vpxCodecEncode_ensures fun _ => Ensures.pure fun _ same => same
    · exact Ensures.bind videoEncLog_ensures fun _ => Ensures.pure fun _ same => same

/-- What `video_enc_destroy` leaves of it. -/
def vp8Leaked (grants : Nat → Bool) : Heap Cell where
  cells := [none, none, some .vpxEncoder, none]
  freed := [3, 1, 0]
  grants := grants
  requests := 4

theorem vp8_opened_not_clean :
    ¬ (encodeAndDestroy .vp8 calls (some 0)).Clean (vp8Opened config grants) := by
  rintro ⟨after, runs, all⟩
  obtain ⟨_, middle, encoded, destroyed⟩ := runs_bind_iff.mp runs
  obtain rfl := vp8_encode_ensures _ calls _ rfl _ _ encoded
  have leaks : (videoEncDestroy .vp8 (some 0)).Runs (vp8Opened config grants) ()
      (vp8Leaked grants) := by
    simp [Runs, videoEncDestroy, efDestroy, vp8EncDestroy, vp8Opened, Heap.cell, Heap.release,
      Heap.write, vp8Leaked]
  cases leaks.symm.trans destroyed
  have below : 2 < 4 := by decide
  have kept : 2 ∉ [3, 1, 0] := by decide
  exact @Heap.not_allFreed _ (vp8Leaked grants) 2 below kept all

/-- `vp8_enc_init` opens no codec, and no surface is encoded that fits the zeros of the
configuration. -/
def Vp8AfterCreate (grants : Nat → Bool) (library : Library) (config : Option Config)
    (calls : List EncodeCall) : Prop :=
  ¬ (config ≠ none ∧ Vp8Opens grants library) ∧ ∀ call ∈ calls, call.Rejected zeroContext.config

theorem vp8_init_clean_iff {config : Option Config} :
    (do
      let _ ← videoEncInit .vp8 library config (some 0)
      encodeAndDestroy .vp8 calls (some 0)).Clean (vp8Unopened grants 2 [] []) ↔
      Vp8AfterCreate grants library config calls := by
  rw [Vp8AfterCreate]
  by_cases fails : ¬ (config ≠ none ∧ Vp8Opens grants library)
  case pos =>
    obtain ⟨requests, rest, freed, failed, owned⟩ := vp8EncInit_unopened fails
    rw [failed.clean_iff, vp8_unopened_clean_iff owned, and_iff_right fails]
  case neg =>
    obtain ⟨given, opens⟩ := not_not.mp fails
    obtain ⟨config, rfl⟩ := Option.ne_none_iff_exists'.mp given
    refine iff_of_false ?_ fun condition => fails condition.1
    by_cases image : library.imageAllocates ∧ grants 3
    case pos =>
      rw [(vp8EncInit_opened opens image).clean_iff]
      exact vp8_opened_not_clean
    case neg =>
      obtain ⟨after, failed, dangling⟩ := @vp8EncInit_dangling grants library config opens image
      rw [failed.clean_iff]
      exact dangling.not_clean

/-! ## AVC -/

/-- A surface that the encoder rejects, or of which every `nal_ref_idc` that is read for its frame
can be read where the block of the frame has it. -/
def EncodeCall.Readable (call : EncodeCall) (config : Config) : Prop :=
  ∃ surface ∈ call.surface, surface.Accepted config →
    ∀ encoded ∈ call.encoded, ∀ block ∈ call.bitstream,
      block.Readable (EncoderFrames.packedUnits 0 encoded.2)

/-- The call as `EncoderFrames` has it. -/
def EncodeCall.outcome (call : EncodeCall) (config : Config) (surface : Surface) :
    EncoderFrames.Outcome :=
  EncoderFrames.avcEncEncode config true (fun _ => call.bitstream)
    ⟨surface, call.prop, call.opaqueData, call.encoded⟩

theorem EncodeCall.readable_iff {call : EncodeCall} {surface : Surface}
    (given : call.surface = some surface) :
    call.Readable config ↔ (call.outcome config surface).result ≠ none := by
  rw [outcome, EncoderFrames.avcEncEncode_returns_iff, Readable]
  simp [given]

/-- The heap after an `avc_enc_init` that opens no encoder. -/
abbrev avcUnopened (grants : Nat → Bool) : Nat → List (Option Cell) → List Nat → Heap Cell :=
  unopened (.avcContext ⟨none⟩) grants

/-- An initialised AVC encoder. -/
def avcOpened (config : Config) (grants : Nat → Bool) : Heap Cell where
  cells := [some (.context ⟨some 1, config⟩), some (.avcContext ⟨some 2⟩), some .x264Encoder]
  freed := []
  grants := grants
  requests := 3

theorem avcEncEncode_rejects {heap : Heap Cell} {privCtx : Option Nat} {call : EncodeCall}
    (context : heap.cell 0 = some (.context ⟨privCtx, config⟩)) (rejected : call.Rejected config) :
    (videoEncEncode .avc call (some 0)).Runs heap (-1) heap := by
  obtain ⟨surface, given, unaccepted⟩ := rejected
  simp [Runs, videoEncEncode, efEncode, avcEncEncode, context, Option.mem_def.mp given, unaccepted,
    videoEncLog]

/-- An initialised encoder is left as it is, and returns what `EncoderFrames` has it return. -/
theorem avcEncEncode_run {call : EncodeCall} {surface : Surface}
    (given : call.surface = some surface) :
    (videoEncEncode .avc call (some 0)).run (avcOpened config grants) =
      (call.outcome config surface).result.elim (.error .unsetPointer) fun result =>
        .ok (result, avcOpened config grants) := by
  have context : (avcOpened config grants).cell 0 = some (.context ⟨some 1, config⟩) := rfl
  have codec : (avcOpened config grants).cell 1 = some (.avcContext ⟨some 2⟩) := rfl
  have encoder : (avcOpened config grants).cell 2 = some .x264Encoder := rfl
  by_cases accepted : surface.Accepted config
  case neg =>
    rw [avcEncEncode_rejects context ⟨surface, given, accepted⟩]
    simp [EncodeCall.outcome, EncoderFrames.avcEncEncode, accepted]
  case pos =>
    have packs : (videoEncEncode .avc call (some 0)).run (avcOpened config grants) =
        (packFrame call (some 0)).run (avcOpened config grants) := by
      simp [videoEncEncode, efEncode, avcEncEncode, context, given, accepted, codec, encoder]
    have logged : (videoEncLog (some 0)).Runs (avcOpened config grants) ()
        (avcOpened config grants) := by
      simp [Runs, videoEncLog, context]
    rw [packs, packFrame, EncodeCall.outcome, EncoderFrames.avcEncEncode, if_pos accepted]
    cases call.encoded with
    | none => exact logged.run_bind
    | some frame =>
      obtain ⟨picture, nalus⟩ := frame
      cases nalus with
      | nil => exact logged.run_bind
      | cons nalu nalus =>
        cases call.bitstream with
        | none => exact logged.run_bind
        | some block =>
          dsimp only
          split
          case isTrue crashed => simp [EncoderFrames.finishFrame, crashed]
          case isFalse running =>
            simp only [EncoderFrames.finishFrame, if_neg running, if_pos, Option.elim_some]
            exact logged.run_bind

theorem avcEncEncode_returns {call : EncodeCall} (readable : call.Readable config) :
    ∃ result, (videoEncEncode .avc call (some 0)).Runs (avcOpened config grants) result
      (avcOpened config grants) := by
  obtain ⟨surface, given, -⟩ := id readable
  obtain ⟨result, returned⟩ :=
    Option.ne_none_iff_exists'.mp ((EncodeCall.readable_iff given).mp readable)
  refine ⟨result, ?_⟩
  rw [Runs, avcEncEncode_run given, returned, Option.elim_some]

theorem avcEncEncode_faults {call : EncodeCall} (unreadable : ¬ call.Readable config) :
    ∃ reason, (videoEncEncode .avc call (some 0)).run (avcOpened config grants) =
      .error reason := by
  have context : (avcOpened config grants).cell 0 = some (.context ⟨some 1, config⟩) := rfl
  cases given : call.surface with
  | none =>
    refine ⟨.nullPointer, ?_⟩
    simp [videoEncEncode, efEncode, avcEncEncode, context, given]
  | some surface =>
    rw [EncodeCall.readable_iff given, not_not] at unreadable
    refine ⟨.unsetPointer, ?_⟩
    rw [avcEncEncode_run given, unreadable, Option.elim_none]

theorem avc_opened_clean_iff :
    (encodeAndDestroy .avc calls (some 0)).Clean (avcOpened config grants) ↔
      ∀ call ∈ calls, call.Readable config := by
  have encode_iff : ∀ after,
      (forEach (videoEncEncode .avc · (some 0)) calls).Runs (avcOpened config grants) () after ↔
        after = avcOpened config grants ∧ ∀ call ∈ calls, call.Readable config := fun after =>
    forEach_runs_iff (fun _ readable => avcEncEncode_returns readable)
      (fun _ unreadable => avcEncEncode_faults unreadable) calls
  constructor
  case mp =>
    rintro ⟨after, runs, -⟩
    obtain ⟨_, middle, encoded, -⟩ := runs_bind_iff.mp runs
    exact ((encode_iff middle).mp encoded).2
  case mpr =>
    intro readable
    have freed : [2, 1, 0].Perm (List.range 3) := by decide
    refine ((encode_iff _).mpr ⟨rfl, readable⟩).clean_iff.mpr ⟨{
      cells := [none, none, none]
      freed := [2, 1, 0]
      grants := grants
      requests := 3 }, ?_, Heap.allFreed_of_perm freed⟩
    simp [Runs, videoEncDestroy, efDestroy, avcEncDestroy, avcOpened, Heap.cell, x264EncoderClose,
      Heap.release, Heap.write]

theorem avcEncEncode_unopened {heap : Heap Cell} {call : EncodeCall}
    (context : heap.cell 0 = some (.context ⟨some 1, config⟩))
    (codec : heap.cell 1 = some (.avcContext ⟨none⟩)) (unrejected : ¬ call.Rejected config) :
    ∃ reason, (videoEncEncode .avc call (some 0)).run heap = .error reason := by
  refine ⟨.nullPointer, ?_⟩
  cases given : call.surface with
  | none => simp [videoEncEncode, efEncode, avcEncEncode, context, given]
  | some surface =>
    have accepted : surface.Accepted config := by
      by_contra unaccepted
      exact unrejected ⟨surface, given, unaccepted⟩
    simp [videoEncEncode, efEncode, avcEncEncode, context, given, accepted, codec]

/-- There is no encoder for `x264_encoder_close`. -/
theorem avc_unopened_not_clean {requests : Nat} {rest : List (Option Cell)} {freed : List Nat} :
    ¬ (encodeAndDestroy .avc calls (some 0)).Clean (avcUnopened grants requests rest freed) := by
  rintro ⟨after, runs, -⟩
  obtain ⟨_, middle, encoded, destroyed⟩ := runs_bind_iff.mp runs
  have context : (avcUnopened grants requests rest freed).cell 0 =
      some (.context ⟨some 1, zeroContext.config⟩) := rfl
  have codec : (avcUnopened grants requests rest freed).cell 1 = some (.avcContext ⟨none⟩) := rfl
  obtain ⟨rfl, -⟩ := (forEach_runs_iff
    (fun _ rejected => ⟨-1, avcEncEncode_rejects context rejected⟩)
    (fun _ unrejected => avcEncEncode_unopened context codec unrejected) calls).mp encoded
  simp [Runs, videoEncDestroy, efDestroy, avcEncDestroy, context, codec,
    x264EncoderClose] at destroyed

/-- `avc_enc_init` divides by no zero and opens the encoder. -/
def AvcOpens (grants : Nat → Bool) (library : Library) (config : Config) : Prop :=
  (config.maxThreads ≠ 0 ∨ config.framerateDen ≠ 0) ∧ library.encoderOpens ∧ grants 2

theorem avcEncInit_opened (opens : AvcOpens grants library config) :
    (videoEncInit .avc library (some config) (some 0)).Runs (avcUnopened grants 2 [] []) 0
      (avcOpened config grants) := by
  obtain ⟨divides, opened, granted⟩ := opens
  have no_fault : ¬ (config.maxThreads = 0 ∧ config.framerateDen = 0) := by
    rintro ⟨threads, rate⟩
    exact divides.elim (· threads) (· rate)
  simp [Runs, videoEncInit, efInit, avcEncInit, unopened, Heap.cell, no_fault, construct, granted,
    opened, Heap.alloc, Heap.write, avcOpened]

theorem avcEncInit_unopened (fails : ¬ AvcOpens grants library config) :
    Ensures (· = avcUnopened grants 2 [] [])
      (videoEncInit .avc library (some config) (some 0))
      fun _ after => ∃ requests rest freed, after = avcUnopened grants requests rest freed := by
  rintro _ rfl result after runs
  by_cases divides : config.maxThreads = 0 ∧ config.framerateDen = 0
  case pos =>
    simp [Runs, videoEncInit, efInit, avcEncInit, unopened, Heap.cell, divides] at runs
  case neg =>
    cases granted : grants 2 with
    | false =>
      simp [Runs, videoEncInit, efInit, avcEncInit, unopened, Heap.cell, divides, construct,
        granted, Heap.refuse, Heap.write, videoEncLog] at runs
      exact ⟨3, [], [], runs.2.symm⟩
    | true =>
      cases opens : library.encoderOpens with
      | false =>
        simp [Runs, videoEncInit, efInit, avcEncInit, unopened, Heap.cell, divides, construct,
          granted, opens, Heap.alloc, Heap.release, Heap.write, videoEncLog] at runs
        exact ⟨3, [none], [2], runs.2.symm⟩
      | true => exact absurd ⟨not_and_or.mp divides, opens, granted⟩ fails

/-- `avc_enc_init` succeeds, and what is read of the blocks of the frames can be read. -/
def AvcAfterCreate (grants : Nat → Bool) (library : Library) (config : Option Config)
    (calls : List EncodeCall) : Prop :=
  ∃ given ∈ config, AvcOpens grants library given ∧ ∀ call ∈ calls, call.Readable given

theorem avc_init_clean_iff {config : Option Config} :
    (do
      let _ ← videoEncInit .avc library config (some 0)
      encodeAndDestroy .avc calls (some 0)).Clean (avcUnopened grants 2 [] []) ↔
      AvcAfterCreate grants library config calls := by
  cases config with
  | none =>
    have faults : (videoEncInit .avc library none (some 0)).run (avcUnopened grants 2 [] []) =
        .error .nullPointer := rfl
    refine iff_of_false (not_clean_of_fault faults) ?_
    rintro ⟨given, absent, -⟩
    cases absent
  | some config =>
    by_cases opens : AvcOpens grants library config
    case pos =>
      rw [(avcEncInit_opened opens).clean_iff, avc_opened_clean_iff]
      simp [AvcAfterCreate, opens]
    case neg =>
      refine iff_of_false ?_ ?_
      · rintro ⟨after, runs, all⟩
        obtain ⟨result, middle, initialised, runs⟩ := runs_bind_iff.mp runs
        obtain ⟨requests, rest, freed, rfl⟩ := avcEncInit_unopened opens _ rfl _ _ initialised
        exact avc_unopened_not_clean ⟨after, runs, all⟩
      · rintro ⟨given, same, opened, -⟩
        cases same
        exact opens opened

/-! ## Lifetimes -/

/-- The runs of which nothing is leaked, and nothing is used after it is freed. -/
def Uneventful (codec : VideoCodecType) (grants : Nat → Bool) (library : Library)
    (config : Option Config) (calls : List EncodeCall) : Prop :=
  match codec with
  | .nul => True
  | .vp8 => grants 0 ∧ (grants 1 → Vp8AfterCreate grants library config calls)
  | .avc => grants 0 ∧ (grants 1 → AvcAfterCreate grants library config calls)

theorem init_none_clean_iff (config : Option Config) (heap : Heap Cell) :
    (do
      let _ ← videoEncInit codec library config none
      encodeAndDestroy codec calls none).Clean heap ↔ heap.AllFreed := by
  have rejected : (videoEncInit codec library config none).Runs heap (-1) heap := rfl
  have rejects : ∀ call, ∃ result, (videoEncEncode codec call none).Runs heap result heap :=
    fun _ => ⟨-1, rfl⟩
  have encoded : (forEach (videoEncEncode codec · none) calls).Runs heap () heap :=
    forEach_unchanged rejects calls
  have destroyed : (videoEncDestroy codec none).Runs heap () heap := rfl
  rw [rejected.clean_iff, encodeAndDestroy, encoded.clean_iff, destroyed.clean_iff_allFreed]

theorem createContext_clean_iff {privCtx : Cell} {next : Option Nat → Program Unit}
    {condition : Prop} (without : ∀ heap, (next none).Clean heap ↔ heap.AllFreed)
    (granted : (next (some 0)).Clean (created privCtx grants) ↔ condition) :
    (createContext (malloc privCtx) >>= next).Clean (Heap.empty grants) ↔
      grants 0 ∧ (grants 1 → condition) := by
  cases outer : grants 0 with
  | false =>
    refine iff_of_false (not_clean_of_fault (createContext_faults outer)) fun condition => ?_
    cases condition.1
  | true =>
    cases inner : grants 1 with
    | false =>
      obtain ⟨after, runs, all⟩ := @createContext_none _ privCtx outer inner
      rw [runs.clean_iff, without]
      exact iff_of_true all ⟨rfl, fun absurd => by cases absurd⟩
    | true =>
      rw [(createContext_created outer inner).clean_iff, granted]
      exact ⟨fun met => ⟨rfl, fun _ => met⟩, fun met => met.2 rfl⟩

theorem lifetime_clean_iff (codec : VideoCodecType) (grants : Nat → Bool) (library : Library)
    (config : Option Config) (calls : List EncodeCall) :
    (lifetime codec library config calls).Clean (Heap.empty grants) ↔
      Uneventful codec grants library config calls := by
  rw [lifetime]
  cases codec with
  | nul =>
    have absent : (createVideoEncoder .nul).Runs (Heap.empty grants) none (Heap.empty grants) := rfl
    rw [absent.clean_iff, init_none_clean_iff]
    exact iff_of_true (fun address below => absurd below (Nat.not_lt_zero address)) trivial
  | vp8 => exact createContext_clean_iff (init_none_clean_iff config) vp8_init_clean_iff
  | avc => exact createContext_clean_iff (init_none_clean_iff config) avc_init_clean_iff

end VideoEncLifetime

end RtpPlayer
