import Mathlib.Algebra.Ring.Nat
import RtpPlayer.Foundations.Layers
import RtpPlayer.MediaCodec.Vp8Enc

/-! # The temporal layers of the VP8 encoder

The base frames alone update LAST, key frames alone ALTREF, and GOLDEN is no higher than layer 1.
That is all the pattern of eight frames keeps, whatever frames are dropped or made key frames. -/

namespace RtpPlayer

open Foundations

inductive RefBuffer where
  | last
  | golden
  | altref
  deriving DecidableEq

namespace RefBuffer

def noRef : RefBuffer → UInt32
  | last => eflagNoRefLast
  | golden => eflagNoRefGf
  | altref => eflagNoRefArf

def noUpd : RefBuffer → UInt32
  | last => eflagNoUpdLast
  | golden => eflagNoUpdGf
  | altref => eflagNoUpdArf

/-- The highest layer that may be in the buffer. -/
def level : RefBuffer → Nat
  | last => 0
  | golden => 1
  | altref => 0

end RefBuffer

/-- What libvpx makes of the flags: a key frame predicts from nothing and updates every buffer, and
any other predicts from and updates those that the flags do not exclude. -/
def VideoEncFrameBs.prediction (frame : VideoEncFrameBs) : Prediction RefBuffer where
  layer := frame.codecPriv.temporalIdx
  sync := frame.codecPriv.layerSync
  refs buffer := !frame.isKey && frame.encFlag &&& buffer.noRef == 0
  updates buffer := frame.isKey || frame.encFlag &&& buffer.noUpd == 0

/-! ## The pattern -/

/-- The flags at a place of the pattern. -/
def patternFlag (place : Nat) (force : Bool) : UInt32 :=
  if force then threeLayerFlags.getD place 0 ||| eflagForceKf else threeLayerFlags.getD place 0

def patternId (place : Nat) : Nat := threeLayerIds.getD (place % vpxEnc3tlIds) 0

theorem pattern_updates (force : Bool) (buffer : RefBuffer) : ∀ place < vpxEnc3tlPattern,
    patternFlag place force &&& buffer.noUpd = 0 → patternId place ≤ buffer.level := by
  cases force <;> cases buffer <;> decide

theorem pattern_refs (force : Bool) (buffer : RefBuffer) : ∀ place < vpxEnc3tlPattern,
    patternFlag place force &&& buffer.noRef = 0 → buffer.level ≤ patternId place := by
  cases force <;> cases buffer <;> decide

/-- The frames that the pattern calls layer syncs do not refer to GOLDEN. -/
theorem pattern_sync (force : Bool) (buffer : RefBuffer) : ∀ place < vpxEnc3tlPattern,
    place = 1 ∨ place = 2 → patternFlag place force &&& buffer.noRef = 0 → buffer.level = 0 := by
  cases force <;> cases buffer <;> decide

namespace Vp8EncContext

/-! ## One call -/

/-- The tables are those of three layers. -/
structure Layered (ctx : Vp8EncContext) : Prop where
  temporalIds : ctx.temporalIds = threeLayerIds
  encodeFlags : ctx.encodeFlags = threeLayerFlags

/-- How a frame comes out at a place of the pattern. -/
structure Emits (ctx next : Vp8EncContext) (frame : VideoEncFrameBs) (place : Nat) (force : Bool) :
    Prop where
  within : place < vpxEnc3tlPattern
  encFlag : frame.encFlag = patternFlag place force
  temporalIdx : frame.codecPriv.temporalIdx = if frame.isKey then 0 else patternId place
  layerSync : frame.codecPriv.temporalIdx ≠ 0 → frame.codecPriv.layerSync →
    ctx.lastBaseLayerSync ∨ place = 1 ∨ place = 2
  counted : frame.codecPriv.tl0PicIdx =
    ctx.tl0PicIdx + if frame.codecPriv.temporalIdx = 0 then 1 else 0
  tl0PicIdx : next.tl0PicIdx = frame.codecPriv.tl0PicIdx
  lastBaseLayerSync : next.lastBaseLayerSync = frame.isKey

/-- What a call does to the layers. -/
inductive EncodeStep (ctx next : Vp8EncContext) : Option VideoEncFrameBs → Prop where
  | silent : next.tl0PicIdx = ctx.tl0PicIdx → next.lastBaseLayerSync = ctx.lastBaseLayerSync →
      EncodeStep ctx next none
  | emits (frame : VideoEncFrameBs) (place : Nat) (force : Bool) :
      Emits ctx next frame place force → EncodeStep ctx next (some frame)

theorem vp8EncEncode_layered {ctx : Vp8EncContext} (layered : ctx.Layered) (call : EncodeCall) :
    (ctx.vp8EncEncode call).1.Layered := by
  unfold vp8EncEncode
  split
  · exact layered
  split
  · exact layered
  cases call.packet <;> exact ⟨layered.temporalIds, layered.encodeFlags⟩

/-- The three places of `flag_idc` agree: the pattern is two rounds of the layers. -/
theorem temporalId_eq {ctx : Vp8EncContext} (layered : ctx.Layered) :
    ctx.temporalId = patternId ctx.patternIdc := by
  have rounds : ctx.patternIdc % vpxEnc3tlIds = ctx.flagIdc.toNat % vpxEnc3tlIds :=
    Nat.mod_mod_of_dvd _ (by decide)
  rw [temporalId, patternId, rounds, layered.temporalIds]

theorem populateCodecPriv_layerSync {ctx : Vp8EncContext} {pkt : CxFrame}
    (above : (ctx.populateCodecPriv pkt).2.temporalIdx ≠ 0)
    (sync : (ctx.populateCodecPriv pkt).2.layerSync) :
    ctx.lastBaseLayerSync ∨ ctx.patternIdc = 1 ∨ ctx.patternIdc = 2 := by
  cases isKey : pkt.isKey with
  | true => simp [populateCodecPriv, isKey] at above
  | false =>
    cases after : ctx.lastBaseLayerSync with
    | true => exact .inl rfl
    | false =>
      right
      simpa [populateCodecPriv, isKey, after] using sync

theorem populateCodecPriv_tl0PicIdx (ctx : Vp8EncContext) (pkt : CxFrame) :
    (ctx.populateCodecPriv pkt).2.tl0PicIdx =
      ctx.tl0PicIdx + if (ctx.populateCodecPriv pkt).2.temporalIdx = 0 then 1 else 0 := by
  simp only [populateCodecPriv]
  split
  all_goals split <;> simp

theorem getPartitions_emits (ctx : Vp8EncContext) (layered : ctx.Layered) (surface : VideoSurface)
    (force : Bool) (pkt : CxFrame) :
    EncodeStep ctx (ctx.getPartitions surface (patternFlag ctx.patternIdc force) (some pkt)).1
      (ctx.getPartitions surface (patternFlag ctx.patternIdc force) (some pkt)).2 := by
  apply EncodeStep.emits _ ctx.patternIdc force
  constructor
  case within => exact Nat.mod_lt _ (by decide)
  case encFlag => rfl
  case temporalIdx => rw [← temporalId_eq layered]
  case layerSync => exact populateCodecPriv_layerSync
  case counted => exact populateCodecPriv_tl0PicIdx ctx pkt
  case tl0PicIdx => rfl
  case lastBaseLayerSync => rfl

theorem EncodeStep.congr {ctx ctx' next : Vp8EncContext} {frame : Option VideoEncFrameBs}
    (step : EncodeStep ctx next frame) (tl0PicIdx : ctx'.tl0PicIdx = ctx.tl0PicIdx)
    (lastBaseLayerSync : ctx'.lastBaseLayerSync = ctx.lastBaseLayerSync) :
    EncodeStep ctx' next frame := by
  cases step with
  | silent same last =>
    exact .silent (same.trans tl0PicIdx.symm) (last.trans lastBaseLayerSync.symm)
  | emits frame place force emits =>
    apply EncodeStep.emits frame place force
    constructor
    case layerSync =>
      rw [lastBaseLayerSync]
      exact emits.layerSync
    case counted =>
      rw [tl0PicIdx]
      exact emits.counted
    case within => exact emits.within
    case encFlag => exact emits.encFlag
    case temporalIdx => exact emits.temporalIdx
    case tl0PicIdx => exact emits.tl0PicIdx
    case lastBaseLayerSync => exact emits.lastBaseLayerSync

theorem vp8EncEncode_step {ctx : Vp8EncContext} (layered : ctx.Layered) (call : EncodeCall) :
    EncodeStep ctx (ctx.vp8EncEncode call).1 (ctx.vp8EncEncode call).2.2 := by
  unfold vp8EncEncode
  split
  · exact .silent rfl rfl
  split
  · exact .silent rfl rfl
  cases call.packet with
  | none => exact .silent rfl rfl
  | some pkt =>
    have emits : ∀ request force, EncodeStep ctx _ _ := fun request force =>
      (getPartitions_emits { ctx with flagIdc := ctx.flagIdc + 1, keyFrameRequest := request }
        ⟨layered.temporalIds, layered.encodeFlags⟩ call.surface force pkt).congr rfl rfl
    simp only [patternFlag, ← layered.encodeFlags] at emits
    by_cases force : ctx.keyFrameRequest ∨ call.flags &&& vidEncCtrlflagKey ≠ 0
    · simp only [if_pos force]
      exact emits false true
    · simp only [if_neg force]
      exact emits ctx.keyFrameRequest false

/-! ## Every call -/

/-- What holds of the context and the frames that came out so far, and is kept by every call, gives
its property to every frame that comes out. -/
theorem encodeAll_forall (invariant : Vp8EncContext → List VideoEncFrameBs → Prop)
    (property : List VideoEncFrameBs → VideoEncFrameBs → Prop)
    (silent : ∀ ctx next seen, EncodeStep ctx next none → invariant ctx seen →
      invariant next seen)
    (emits : ∀ ctx next seen frame, EncodeStep ctx next (some frame) → invariant ctx seen →
      property seen frame ∧ invariant next (seen ++ [frame]))
    {ctx : Vp8EncContext} {seen : List VideoEncFrameBs} (layered : ctx.Layered)
    (holds : invariant ctx seen) {calls : List EncodeCall} {before after : List VideoEncFrameBs}
    {frame : VideoEncFrameBs} (emitted : ctx.encodeAll calls = before ++ frame :: after) :
    property (seen ++ before) frame := by
  induction calls generalizing ctx seen before with
  | nil => simp [encodeAll] at emitted
  | cons call calls ih =>
    have step := vp8EncEncode_step layered call
    have layered' := vp8EncEncode_layered layered call
    rw [encodeAll] at emitted
    dsimp only at emitted
    cases output : (ctx.vp8EncEncode call).2.2 with
    | none =>
      rw [output] at step emitted
      exact ih layered' (silent _ _ _ step holds) emitted
    | some first =>
      rw [output] at step emitted
      obtain ⟨sound, kept⟩ := emits _ _ _ _ step holds
      rw [Option.toList_some, List.singleton_append] at emitted
      -- the frame asked for is the one that comes out, or a later one
      cases before with
      | nil =>
        obtain ⟨rfl, -⟩ := List.cons.inj emitted
        rw [List.append_nil]
        exact sound
      | cons _ before =>
        obtain ⟨rfl, rest⟩ := List.cons.inj emitted
        rw [List.append_cons]
        exact ih layered' kept rest

/-- The tags of the buffers, in the state the next frame finds them in. -/
structure Tagged (ctx : Vp8EncContext) (tags : Tags RefBuffer) : Prop where
  within : tags.Within RefBuffer.level
  base : ctx.lastBaseLayerSync → tags.Within fun _ => 0

section Emits

variable {ctx next : Vp8EncContext} {frame : VideoEncFrameBs} {place : Nat} {force : Bool}
  {tags : Tags RefBuffer}

theorem Emits.not_key_of_refs {buffer : RefBuffer} (refs : frame.prediction.refs buffer) :
    frame.isKey = false ∧ frame.encFlag &&& buffer.noRef = 0 := by
  simpa [VideoEncFrameBs.prediction] using refs

/-- Key or not, a frame keeps to the levels. -/
theorem Emits.fits (emits : Emits ctx next frame place force) :
    frame.prediction.Fits RefBuffer.level where
  updates buffer updated := by
    show frame.codecPriv.temporalIdx ≤ _
    rw [emits.temporalIdx]
    cases isKey : frame.isKey with
    | true => exact Nat.zero_le _
    | false =>
      simp only [VideoEncFrameBs.prediction, isKey, Bool.false_or, beq_iff_eq,
        emits.encFlag] at updated
      exact pattern_updates force buffer place emits.within updated
  refs buffer refs := by
    obtain ⟨notKey, included⟩ := not_key_of_refs refs
    rw [emits.encFlag] at included
    show _ ≤ frame.codecPriv.temporalIdx
    rw [emits.temporalIdx, notKey]
    exact pattern_refs force buffer place emits.within included

theorem Emits.safe (emits : Emits ctx next frame place force) (tagged : ctx.Tagged tags) :
    frame.prediction.Safe tags := by
  by_cases after : ctx.lastBaseLayerSync
  · exact Prediction.safe_of_base (tagged.base after)
  · apply emits.fits.safe tagged.within
    intro above sync buffer refs
    obtain ⟨-, included⟩ := not_key_of_refs refs
    rw [emits.encFlag] at included
    rcases emits.layerSync above sync with afterKey | early
    · exact absurd afterKey after
    · exact pattern_sync force buffer place emits.within early included

theorem Emits.tagged (emits : Emits ctx next frame place force) (tagged : ctx.Tagged tags) :
    next.Tagged (tags.update frame.prediction) where
  within := emits.fits.update tagged.within
  base key := by
    rw [emits.lastBaseLayerSync] at key
    intro buffer tag tagged
    simp only [Tags.update, VideoEncFrameBs.prediction, key, Bool.true_or, if_true,
      emits.temporalIdx, Option.some.injEq] at tagged
    exact Nat.le_of_eq tagged.symm

end Emits

/-- The tags after these frames. -/
def tagsAfter (frames : List VideoEncFrameBs) : Tags RefBuffer :=
  Tags.updateAll (fun _ => none) (frames.map VideoEncFrameBs.prediction)

theorem tagsAfter_concat (frames : List VideoEncFrameBs) (frame : VideoEncFrameBs) :
    tagsAfter (frames ++ [frame]) = (tagsAfter frames).update frame.prediction := by
  rw [tagsAfter, List.map_append, List.map_singleton, Tags.updateAll_concat]
  rfl

/-- The base frames among these frames. -/
def baseFrames (frames : List VideoEncFrameBs) : Nat :=
  frames.countP fun frame => frame.codecPriv.temporalIdx = 0

/-- Their number, in an `int`. -/
theorem baseFrames_concat (frames : List VideoEncFrameBs) (frame : VideoEncFrameBs) :
    Int32.ofNat (baseFrames (frames ++ [frame])) =
      Int32.ofNat (baseFrames frames) + if frame.codecPriv.temporalIdx = 0 then 1 else 0 := by
  rw [baseFrames, baseFrames, List.countP_append, List.countP_singleton, Int32.ofNat_add]
  by_cases base : frame.codecPriv.temporalIdx = 0 <;> simp [base]

variable {config : VideoEncConfig} {calls : List EncodeCall}
  {before after : List VideoEncFrameBs} {frame : VideoEncFrameBs}

theorem vp8EncInit_layered (enabled : 0 < config.enableTemporalLayers) :
    (vp8EncInit config).Layered := by
  rw [vp8EncInit, if_pos enabled]
  exact ⟨rfl, rfl⟩

theorem vp8EncInit_tl0PicIdx (config : VideoEncConfig) : (vp8EncInit config).tl0PicIdx = 0 := by
  unfold vp8EncInit
  split <;> rfl

theorem encodeAll_safe (enabled : 0 < config.enableTemporalLayers)
    (emitted : (vp8EncInit config).encodeAll calls = before ++ frame :: after) :
    frame.prediction.Safe (tagsAfter before) := by
  have starts : (vp8EncInit config).Tagged (tagsAfter []) := by
    constructor
    case within =>
      intro buffer tag tagged
      cases tagged
    case base =>
      intro _ buffer tag tagged
      cases tagged
  apply encodeAll_forall (fun ctx seen => ctx.Tagged (tagsAfter seen))
    (fun seen frame => frame.prediction.Safe (tagsAfter seen)) ?silent ?emits
    (vp8EncInit_layered enabled) starts emitted
  case silent =>
    intro ctx next seen step tagged
    cases step with
    | silent _ last => exact ⟨tagged.within, fun after => tagged.base (last ▸ after)⟩
  case emits =>
    intro ctx next seen frame step tagged
    cases step with
    | emits _ place force emits =>
      rw [tagsAfter_concat]
      exact ⟨emits.safe tagged, emits.tagged tagged⟩

/-- `tl0_pic_idx` counts the base frames. -/
theorem encodeAll_counted (enabled : 0 < config.enableTemporalLayers)
    (emitted : (vp8EncInit config).encodeAll calls = before ++ frame :: after) :
    frame.codecPriv.tl0PicIdx = Int32.ofNat (baseFrames (before ++ [frame])) := by
  have starts : (vp8EncInit config).tl0PicIdx = Int32.ofNat (baseFrames []) :=
    vp8EncInit_tl0PicIdx config
  apply encodeAll_forall (fun ctx seen => ctx.tl0PicIdx = Int32.ofNat (baseFrames seen))
    (fun seen frame => frame.codecPriv.tl0PicIdx = Int32.ofNat (baseFrames (seen ++ [frame])))
    ?silent ?emits (vp8EncInit_layered enabled) starts emitted
  case silent =>
    intro ctx next seen step counted
    cases step with
    | silent same => exact same.trans counted
  case emits =>
    intro ctx next seen frame step counted
    cases step with
    | emits _ place force emits =>
      have now : frame.codecPriv.tl0PicIdx = Int32.ofNat (baseFrames (seen ++ [frame])) := by
        rw [emits.counted, counted, baseFrames_concat]
      exact ⟨now, emits.tl0PicIdx.trans now⟩

theorem encodeAll_counted_toInt (enabled : 0 < config.enableTemporalLayers)
    (emitted : (vp8EncInit config).encodeAll calls = before ++ frame :: after)
    (few : baseFrames (before ++ [frame]) < 2 ^ 31) :
    frame.codecPriv.tl0PicIdx.toInt = baseFrames (before ++ [frame]) := by
  rw [encodeAll_counted enabled emitted, Int32.toInt_ofNat_of_lt few]

/-- After a key frame every buffer is tagged. -/
theorem tagsAfter_isSome {first : VideoEncFrameBs} (key : first.isKey)
    (frames : List VideoEncFrameBs) (buffer : RefBuffer) :
    (tagsAfter (first :: frames) buffer).isSome := by
  have written : (Tags.update (fun _ => none) first.prediction buffer).isSome := by
    simp [Tags.update, VideoEncFrameBs.prediction, key]
  exact Tags.updateAll_isSome written _

theorem refs_tagged (starts : ∀ first, (before ++ [frame]).head? = some first → first.isKey)
    {buffer : RefBuffer} (refs : frame.prediction.refs buffer) :
    (tagsAfter before buffer).isSome := by
  cases before with
  | nil =>
    have key := starts frame rfl
    have notKey := (Emits.not_key_of_refs refs).1
    rw [key] at notKey
    cases notKey
  | cons first before => exact tagsAfter_isSome (starts first rfl) before buffer

/-- With temporal layers no frame predicts from a higher layer, a layer sync predicts from the base
layer alone, and `tl0_pic_idx` counts the base frames, which is their number as long as an `int`
holds it.  What libvpx has to do with it is that no stream of its own starts without a key frame:
the buffers predicted from have been written then. -/
theorem encodeAll_layers_safe (config : VideoEncConfig) (calls : List EncodeCall)
    (before after : List VideoEncFrameBs) (frame : VideoEncFrameBs)
    (enabled : 0 < config.enableTemporalLayers)
    (emitted : (vp8EncInit config).encodeAll calls = before ++ frame :: after) :
    frame.prediction.Safe (tagsAfter before) ∧
      frame.codecPriv.tl0PicIdx = Int32.ofNat (baseFrames (before ++ [frame])) ∧
      (baseFrames (before ++ [frame]) < 2 ^ 31 →
        frame.codecPriv.tl0PicIdx.toInt = baseFrames (before ++ [frame])) ∧
      ((∀ first, (before ++ [frame]).head? = some first → first.isKey) →
        ∀ buffer, frame.prediction.refs buffer → (tagsAfter before buffer).isSome) :=
  ⟨encodeAll_safe enabled emitted, encodeAll_counted enabled emitted,
    encodeAll_counted_toInt enabled emitted, fun starts _ refs => refs_tagged starts refs⟩

/-- A key frame, a layer sync right after it, a frame that is dropped, and one that refers to all
three buffers. -/
def fourCalls : List EncodeCall :=
  let surface : VideoSurface := {
    color := .i420
    planes := fun _ _ => 0
    width := fun _ => 2
    height := fun _ => 2
    pitch := fun _ => 2
    pts := 0
    opaqueData := 0
  }
  [⟨surface, 0, some ⟨true, false⟩⟩, ⟨surface, 0, some ⟨false, true⟩⟩, ⟨surface, 0, none⟩,
    ⟨surface, 0, some ⟨false, true⟩⟩]

def keyFrame : VideoEncFrameBs :=
  ⟨true, 0, 0, ⟨0, -1, 1, 0, true, false⟩, eflagNoUpdArf ||| eflagNoRefGf ||| eflagForceKf⟩

def syncFrame : VideoEncFrameBs :=
  ⟨false, 0, 0, ⟨1, -1, 1, 2, true, true⟩, threeLayerFlags.getD 1 0⟩

def topFrame : VideoEncFrameBs :=
  ⟨false, 0, 0, ⟨2, -1, 1, 2, false, true⟩, threeLayerFlags.getD 3 0⟩

theorem encodeAll_layers_safe_fourCalls :
    (vp8EncInit ⟨2, 2, 1⟩).encodeAll fourCalls = [keyFrame, syncFrame] ++ [topFrame] ∧
      topFrame.prediction.Safe (tagsAfter [keyFrame, syncFrame]) ∧
      topFrame.codecPriv.tl0PicIdx.toInt = baseFrames [keyFrame, syncFrame, topFrame] := by
  have run : (vp8EncInit ⟨2, 2, 1⟩).encodeAll fourCalls =
      [keyFrame, syncFrame] ++ [topFrame] := by decide +kernel
  obtain ⟨safe, -, counted, -⟩ := encodeAll_layers_safe ⟨2, 2, 1⟩ fourCalls _ [] _ (by decide) run
  exact ⟨run, safe, counted (by decide)⟩

end Vp8EncContext

end RtpPlayer
