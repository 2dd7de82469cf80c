import RtpPlayer.Foundations.Footprint
import RtpPlayer.MediaCodec.OpusLifetime

/-! # The heap of the Opus decoder

`MediaCodec/jni/audiodec.c` and the allocations of `opusdec.c`, in the order in which
`Decoders/AudioDecoder.cc` makes the calls: create and init in `build`, decode, and destroy in
`tear`.  The decoder of the library is one cell. -/

namespace RtpPlayer

open Foundations HeapProgram

namespace OpusDecLifetime

inductive Cell where
  /-- `audio_dec_context` with its `priv_ctx` -/
  | context (privCtx : Option Nat)
  /-- `opus_dec_context` with its `pcm` and its `decoder` -/
  | opusContext (pcm decoder : Option Nat)
  | samples
  | opusDecoder
  deriving DecidableEq

namespace Cell

def asContext : Cell → Option (Option Nat)
  | .context privCtx => some privCtx
  | _ => none

def asOpusContext : Cell → Option (Option Nat × Option Nat)
  | .opusContext pcm decoder => some (pcm, decoder)
  | _ => none

def asSamples : Cell → Option Unit
  | .samples => some ()
  | _ => none

def asOpusDecoder : Cell → Option Unit
  | .opusDecoder => some ()
  | _ => none

end Cell

open Cell (asContext asOpusContext asSamples asOpusDecoder)

abbrev Program := HeapProgram Cell

/-! ## The Opus decoder -/

def opusDecCreate : Program (Option Nat) := malloc (.opusContext none none)

/-- The look at `cb_log`. -/
def audioDecLog (ctx : Option Nat) : Program Unit := do
  let _ ← load asContext ctx
  pure ()

/-- `opens` tells whether `opus_decoder_init` succeeds. -/
def opusDecInit (opens : Bool) (ctx : Option Nat) : Program Int := do
  let privCtx ← load asContext ctx
  let _ ← load asOpusContext privCtx
  let pcm ← malloc .samples
  store asOpusContext (.opusContext pcm none) privCtx
  match pcm with
  | none => do
    audioDecLog ctx
    pure (-1)
  | some pcm => do
    let decoder ← construct .opusDecoder opens
    store asOpusContext (.opusContext (some pcm) decoder) privCtx
    match decoder with
    | none => do
      audioDecLog ctx
      pure (-1)
    | some _ => pure 0

/-- `decodes` tells whether `opus_decode` returns samples: it writes them to `pcm`. -/
def opusDecDecode (decodes : Bool) (ctx : Option Nat) : Program Int := do
  let privCtx ← load asContext ctx
  let (pcm, decoder) ← load asOpusContext privCtx
  load asOpusDecoder decoder
  load asSamples pcm
  if decodes then pure 0
  else do
    audioDecLog ctx
    pure (-1)

/-- The samples are not freed. -/
def opusDecDestroy (ctx : Option Nat) : Program Unit := do
  let privCtx ← load asContext ctx
  let (_, decoder) ← load asOpusContext privCtx
  free decoder
  free privCtx

/-! ## The API -/

def createAudioDecoder : AudioCodecType → Program (Option Nat)
  | .null | .aac => pure none
  | .opus => do
    let ctx ← malloc (.context none)
    -- `memset` is not guarded against a null pointer
    store asContext (.context none) ctx
    match ← opusDecCreate with
    -- the context is not freed here
    | none => pure none
    | some privCtx => do
      store asContext (.context (some privCtx)) ctx
      pure ctx

def audioDecDestroy : Option Nat → Program Unit
  | none => pure ()
  | some ctx => do
    opusDecDestroy (some ctx)
    free (some ctx)

/-- `AudioDecoder::build`, then a call of `decode` for each packet, and `tear`. -/
def lifetime (codec : AudioCodecType) (opens : Bool) (packets : List Bool) : Program Unit := do
  match ← createAudioDecoder codec with
  | none => pure ()
  | some ctx => do
    if (← opusDecInit opens (some ctx)) = 0 then do
      forEach (opusDecDecode · (some ctx)) packets
      audioDecDestroy (some ctx)
    else audioDecDestroy (some ctx)

/-! ## What is left -/

section

variable {heap : Heap Cell} {grants : Nat → Bool} {requests context codec : Nat}
  {pcm decoder : Option Nat} {others : List (Nat × Cell)}

/-- The two contexts, and what the context of the codec owns. -/
abbrev Contexts (heap : Heap Cell) (grants : Nat → Bool) (requests context codec : Nat)
    (pcm decoder : Option Nat) (others : List (Nat × Cell)) : Prop :=
  heap.Footprint grants requests
    ((codec, .opusContext pcm decoder) :: (context, .context (some codec)) :: others)

theorem loads_context (contexts : Contexts heap grants requests context codec pcm decoder others) :
    (load asContext (some context)).Runs heap (some codec) heap :=
  contexts.runs_load (.tail _ (.head _)) rfl

theorem loads_codec (contexts : Contexts heap grants requests context codec pcm decoder others) :
    (load asOpusContext (some codec)).Runs heap (pcm, decoder) heap :=
  contexts.runs_load (.head _) rfl

theorem runs_audioDecLog
    (contexts : Contexts heap grants requests context codec pcm decoder others) :
    (audioDecLog (some context)).Runs heap () heap := by
  rw [audioDecLog, (loads_context contexts).bind_iff]
  rfl

/-- Decoding leaves the heap as it is. -/
theorem runs_opusDecDecode {address samples : Nat}
    (contexts : Contexts heap grants requests context codec (some samples) (some address) others)
    (opened : (address, .opusDecoder) ∈ others) (room : (samples, .samples) ∈ others)
    (decodes : Bool) :
    ∃ result, (opusDecDecode decodes (some context)).Runs heap result heap := by
  have live : (load asOpusDecoder (some address)).Runs heap () heap :=
    contexts.runs_load (.tail _ (.tail _ opened)) rfl
  have written : (load asSamples (some samples)).Runs heap () heap :=
    contexts.runs_load (.tail _ (.tail _ room)) rfl
  cases decodes with
  | true =>
    refine ⟨0, ?_⟩
    rw [opusDecDecode, (loads_context contexts).bind_iff, (loads_codec contexts).bind_iff,
      live.bind_iff, written.bind_iff]
    rfl
  | false =>
    refine ⟨-1, ?_⟩
    rw [opusDecDecode, (loads_context contexts).bind_iff, (loads_codec contexts).bind_iff,
      live.bind_iff, written.bind_iff, if_neg Bool.false_ne_true,
      (runs_audioDecLog contexts).bind_iff]
    rfl

/-- The decoder of the library, where there is one. -/
def opened (decoder : Option Nat) : List (Nat × Cell) :=
  decoder.toList.map fun address => (address, .opusDecoder)

theorem decoder_first (decoder : Option Nat) (first second : Nat × Cell)
    (others : List (Nat × Cell)) :
    (first :: second :: (opened decoder ++ others)).Perm
      (opened decoder ++ (first :: second :: others)) :=
  (List.perm_middle.trans (List.perm_middle.cons first)).symm

/-- Of what the contexts own only the decoder is freed. -/
theorem runs_audioDecDestroy (contexts : Contexts heap grants requests context codec pcm decoder
      (opened decoder ++ others)) :
    ∃ after, (audioDecDestroy (some context)).Runs heap () after ∧
      after.Footprint grants requests others := by
  obtain ⟨first, freesDecoder, contexts'⟩ := contexts.runs_free_option (decoder_first ..)
  obtain ⟨second, freesCodec, outer⟩ := contexts'.runs_free (.refl _)
  obtain ⟨third, freesContext, rest⟩ := outer.runs_free (.refl _)
  refine ⟨third, ?_, rest⟩
  have inner : (opusDecDestroy (some context)).Runs heap () second := by
    rw [opusDecDestroy, (loads_context contexts).bind_iff, (loads_codec contexts).bind_iff,
      freesDecoder.bind_iff]
    exact freesCodec
  rw [audioDecDestroy, inner.bind_iff]
  exact freesContext

/-- The two contexts after `create_audio_decoder`. -/
theorem runs_createAudioDecoder (outer : grants 0 = true) (inner : grants 1 = true) :
    ∃ context codec after,
      (createAudioDecoder .opus).Runs (Heap.empty grants) (some context) after ∧
        Contexts after grants 2 context codec none none [] := by
  obtain ⟨context, first, gets, one⟩ :=
    (Heap.Footprint.empty grants).runs_malloc outer (Cell.context none)
  obtain ⟨second, clears, one⟩ := one.runs_store (.refl _) (rfl : asContext _ = _) (.context none)
  obtain ⟨codec, third, creates, two⟩ := one.runs_malloc inner (.opusContext none none)
  obtain ⟨after, links, two⟩ :=
    two.runs_store (.swap ..) (rfl : asContext _ = _) (.context (some codec))
  refine ⟨context, codec, after, ?_, two.perm (.swap ..)⟩
  rw [createAudioDecoder, gets.bind_iff, clears.bind_iff, opusDecCreate, creates.bind_iff]
  exact links.bind_iff.mpr rfl

/-- The context is lost where that of the codec cannot be allocated. -/
theorem runs_createAudioDecoder_none (outer : grants 0 = true) (inner : grants 1 = false) :
    ∃ after context, (createAudioDecoder .opus).Runs (Heap.empty grants) none after ∧
      after.Footprint grants 2 [(context, Cell.context none)] := by
  obtain ⟨context, first, gets, one⟩ :=
    (Heap.Footprint.empty grants).runs_malloc outer (Cell.context none)
  obtain ⟨second, clears, one⟩ := one.runs_store (.refl _) (rfl : asContext _ = _) (.context none)
  obtain ⟨after, refused, one⟩ := one.runs_malloc_refused inner (.opusContext none none)
  refine ⟨after, context, ?_, one⟩
  rw [createAudioDecoder, gets.bind_iff, clears.bind_iff, opusDecCreate, refused.bind_iff]
  rfl

/-- Without memory for the samples there is nothing to leak. -/
theorem runs_opusDecInit_refused
    (contexts : Contexts heap grants requests context codec none none [])
    (refused : grants requests = false) (opens : Bool) :
    ∃ after, (opusDecInit opens (some context)).Runs heap (-1) after ∧
      Contexts after grants (requests + 1) context codec none none [] := by
  obtain ⟨first, gets, contexts'⟩ := contexts.runs_malloc_refused refused .samples
  obtain ⟨after, stores, contexts'⟩ :=
    contexts'.runs_store (.refl _) (rfl : asOpusContext _ = _) (.opusContext none none)
  refine ⟨after, ?_, contexts'⟩
  rw [opusDecInit, (loads_context contexts).bind_iff, (loads_codec contexts).bind_iff,
    gets.bind_iff, stores.bind_iff, (runs_audioDecLog contexts').bind_iff]
  rfl

/-- With the samples, and with the decoder where it opens. -/
theorem runs_opusDecInit (contexts : Contexts heap grants requests context codec none none [])
    (granted : grants requests = true) (opens : Bool) :
    ∃ samples decoder after result,
      (opusDecInit opens (some context)).Runs heap result after ∧
        (result = 0 → decoder ≠ none) ∧
        Contexts after grants (requests + 2) context codec (some samples) decoder
          (opened decoder ++ [(samples, .samples)]) := by
  obtain ⟨samples, first, gets, two⟩ := contexts.runs_malloc granted .samples
  obtain ⟨second, stores, contexts'⟩ :=
    two.runs_store (.swap ..) (rfl : asOpusContext _ = _) (.opusContext (some samples) none)
  cases works : (grants (requests + 1) && opens) with
  | true =>
    obtain ⟨more, rfl⟩ := Bool.and_eq_true_iff.mp works
    obtain ⟨decoder, third, opensDecoder, three⟩ := contexts'.runs_construct more .opusDecoder
    obtain ⟨after, links, three⟩ := three.runs_store (.swap ..) (rfl : asOpusContext _ = _)
      (.opusContext (some samples) (some decoder))
    refine ⟨samples, some decoder, after, 0, ?_, fun _ => Option.some_ne_none decoder, ?_⟩
    · rw [opusDecInit, (loads_context contexts).bind_iff, (loads_codec contexts).bind_iff,
        gets.bind_iff, stores.bind_iff, opensDecoder.bind_iff]
      exact links.bind_iff.mpr rfl
    · exact three.perm ((@List.perm_middle _ _ [_, _] _).symm.cons _ |>.symm)
  | false =>
    obtain ⟨third, fails, contexts'⟩ := contexts'.runs_construct_fails works .opusDecoder
    obtain ⟨after, links, contexts'⟩ := contexts'.runs_store (.refl _)
      (rfl : asOpusContext _ = _) (.opusContext (some samples) none)
    have contexts' := contexts'.perm (.cons _ (.swap ..))
    refine ⟨samples, none, after, -1, ?_, by decide, contexts'⟩
    rw [opusDecInit, (loads_context contexts).bind_iff, (loads_codec contexts).bind_iff,
      gets.bind_iff, stores.bind_iff, fails.bind_iff, links.bind_iff]
    exact (runs_audioDecLog contexts').bind_iff.mpr rfl

end

/-- What no run of an audio decoder frees; `none` where the run ends with a fault. -/
def leftovers : AudioCodecType → (Nat → Bool) → Option (List Cell)
  | .null, _ | .aac, _ => some []
  | .opus, grants =>
    if !grants 0 then none
    else if !grants 1 then some [.context none]
    else if !grants 2 then some []
    else some [.samples]

/-- Whatever is decoded, and whether the library opens or not: every decoder that gets the memory
for its samples leaks them. -/
theorem lifetime_leaves_leftovers (codec : AudioCodecType) (grants : Nat → Bool) (opens : Bool)
    (packets : List Bool) :
    (lifetime codec opens packets).leaves (Heap.empty grants) = leftovers codec grants := by
  cases codec with
  | null | aac => rfl
  | opus =>
    cases outer : grants 0 with
    | false =>
      have faults : (lifetime .opus opens packets).run (Heap.empty grants) =
          .error .nullPointer := by
        simp [lifetime, createAudioDecoder, Heap.empty, outer]
      rw [leaves_of_fault faults, leftovers, outer]
      rfl
    | true =>
      cases inner : grants 1 with
      | false =>
        obtain ⟨after, context, creates, lost⟩ := runs_createAudioDecoder_none outer inner
        have ends : (pure () : Program Unit).leaves after = some after.live := rfl
        rw [lifetime, creates.leaves_bind, leftovers, outer, inner]
        exact ends.trans (congrArg some lost.live_eq_singleton)
      | true =>
        obtain ⟨context, codec, first, creates, contexts⟩ := runs_createAudioDecoder outer inner
        rw [lifetime, creates.leaves_bind]
        cases granted : grants 2 with
        | false =>
          obtain ⟨second, fails, contexts⟩ := runs_opusDecInit_refused contexts granted opens
          obtain ⟨after, destroys, nothing⟩ := runs_audioDecDestroy contexts
          simp only [fails.leaves_bind]
          rw [if_neg (by decide), destroys.leaves, nothing.live_eq_nil, leftovers, outer, inner,
            granted]
          rfl
        | true =>
          obtain ⟨samples, decoder, second, result, runs, usable, contexts⟩ :=
            runs_opusDecInit contexts granted opens
          obtain ⟨after, destroys, leaked⟩ := runs_audioDecDestroy contexts
          have left : (audioDecDestroy (some context)).leaves second = some [.samples] := by
            rw [destroys.leaves, leaked.live_eq_singleton]
          simp only [runs.leaves_bind]
          rw [leftovers, outer, inner, granted]
          split
          case isTrue ready =>
            obtain ⟨address, rfl⟩ := Option.ne_none_iff_exists'.mp (usable ready)
            have decoded : (forEach (opusDecDecode · (some context)) packets).Runs second ()
                second :=
              forEach_unchanged
                (runs_opusDecDecode contexts (by simp [opened]) (by simp [opened])) packets
            rw [decoded.leaves_bind]
            exact left
          case isFalse => exact left

end OpusDecLifetime

end RtpPlayer
