import RtpPlayer.MediaCodec.VideoDecUse

/-! # What the video decoders free

The AVC decoder frees all that it allocates, whichever images it sends and in whatever order they
are released.  No VP8 decoder is destroyed: its context comes from `vpx_malloc` and goes to `free`.
-/

namespace RtpPlayer

open Foundations HeapProgram

namespace VideoDecLifetime

open Cell (asContext asVp8Context asVpxDecoder asAvcContext asCodecContext asFrame asSurface)

variable {heap : Heap Cell} {grants : Nat → Bool} {requests ctx block : Nat} {privCtx : Pointer}
  {library : Library} {codec : VideoCodecType}

/-! ## Creation -/

/-- Where `create_video_decoder` finds the context of the codec. -/
def codecPointer (library : Library) (codec : VideoCodecType) (block : Nat) : Pointer where
  block := block
  offset :=
    if codec = .vp8 then
      alignAddr (library.place block + addressStorageSize) defaultAlignment - library.place block
    else 0

/-- The context of the codec, cleared by `memset`. -/
def codecCell : VideoCodecType → Cell
  | .vp8 => .vp8Context none
  | .nul | .avc => .avcContext none none

/-- The address is stored before the pointer, which is behind the start of the block. -/
theorem codecPointer_offset_pos : 0 < (codecPointer library .vp8 block).offset := by
  simp only [codecPointer, alignAddr, addressStorageSize, defaultAlignment, if_pos]
  omega

/-- The create function of the codec. -/
def createCodec (library : Library) : VideoCodecType → Program (Option Pointer)
  | .vp8 => vp8DecCreate library
  | .nul | .avc => avcDecCreate

theorem createVideoDecoder_eq (usable : codec ≠ .nul) :
    createVideoDecoder library codec = createContext (createCodec library codec) := by
  cases codec with
  | nul => exact absurd rfl usable
  | vp8 | avc => rfl

theorem createCodec_eq :
    createCodec library codec = (do
      let block ← malloc (codecCell codec)
      pure (block.map (codecPointer library codec))) := by
  cases codec with
  | nul | avc => rfl
  | vp8 =>
    rw [createCodec, vp8DecCreate, vpxMalloc]
    congr 1
    funext block
    cases block with
    | none => rfl
    | some block => rfl

section

variable {others : List (Nat × Cell)}

theorem runs_createCodec (granted : grants requests = true)
    (footprint : heap.Footprint grants requests others) :
    ∃ block after,
      (createCodec library codec).Runs heap (some (codecPointer library codec block)) after ∧
        after.Footprint grants (requests + 1) ((block, codecCell codec) :: others) := by
  obtain ⟨block, after, gets, rest⟩ := footprint.runs_malloc granted (codecCell codec)
  refine ⟨block, after, ?_, rest⟩
  rw [createCodec_eq, gets.bind_iff]
  rfl

theorem runs_createCodec_none (refused : grants requests = false)
    (footprint : heap.Footprint grants requests others) :
    ∃ after, (createCodec library codec).Runs heap none after ∧
      after.Footprint grants (requests + 1) others := by
  obtain ⟨after, gets, rest⟩ := footprint.runs_malloc_refused refused (codecCell codec)
  refine ⟨after, ?_, rest⟩
  rw [createCodec_eq, gets.bind_iff]
  rfl

end

/-- The two contexts after `create_video_decoder`. -/
theorem runs_createVideoDecoder (usable : codec ≠ .nul) (outer : grants 0 = true)
    (inner : grants 1 = true) :
    ∃ ctx block after,
      (createVideoDecoder library codec).Runs (Heap.empty grants) (some ctx) after ∧
        after.Footprint grants 2 [(block, codecCell codec),
          (ctx, .context (some (codecPointer library codec block)))] := by
  obtain ⟨ctx, first, gets, one⟩ :=
    (Heap.Footprint.empty grants).runs_malloc outer (Cell.context none)
  obtain ⟨second, clears, one⟩ := one.runs_store (.refl _) (rfl : asContext _ = _) (.context none)
  obtain ⟨block, third, creates, two⟩ := @runs_createCodec _ _ _ library codec _ inner one
  obtain ⟨after, links, two⟩ := two.runs_store (.swap ..) (rfl : asContext _ = _)
    (.context (some (codecPointer library codec block)))
  refine ⟨ctx, block, after, ?_, two.perm (.swap ..)⟩
  rw [createVideoDecoder_eq usable, createContext, gets.bind_iff, clears.bind_iff,
    creates.bind_iff]
  exact links.bind_iff.mpr rfl

/-- Without memory for the codec the context is freed. -/
theorem runs_createVideoDecoder_none (usable : codec ≠ .nul) (outer : grants 0 = true)
    (inner : grants 1 = false) :
    ∃ after, (createVideoDecoder library codec).Runs (Heap.empty grants) none after ∧
      after.Footprint grants 2 [] := by
  obtain ⟨ctx, first, gets, one⟩ :=
    (Heap.Footprint.empty grants).runs_malloc outer (Cell.context none)
  obtain ⟨second, clears, one⟩ := one.runs_store (.refl _) (rfl : asContext _ = _) (.context none)
  obtain ⟨third, refused, one⟩ := @runs_createCodec_none _ _ _ library codec _ inner one
  obtain ⟨after, frees, nothing⟩ := one.runs_free (.refl _)
  refine ⟨after, ?_, nothing⟩
  rw [createVideoDecoder_eq usable, createContext, gets.bind_iff, clears.bind_iff,
    refused.bind_iff]
  exact frees.bind_iff.mpr rfl

theorem createVideoDecoder_faults (usable : codec ≠ .nul) (outer : grants 0 = false) :
    (createVideoDecoder library codec).run (Heap.empty grants) = .error .nullPointer := by
  obtain ⟨after, refused, -⟩ :=
    (Heap.Footprint.empty grants).runs_malloc_refused outer (Cell.context none)
  rw [createVideoDecoder_eq usable, createContext, refused.run_bind]
  rfl

/-! ## The AVC decoder -/

/-- What `avc_dec_init` allocated before it ended. -/
def avcParts (avcodecCtx avframe : Option Nat) : List (Nat × Cell) :=
  (avcodecCtx.toList.map fun address => (address, .codecContext)) ++
    avframe.toList.map fun address => (address, .frame)

/-- An AVC decoder from create on, with what it has of the library. -/
abbrev AvcContexts (heap : Heap Cell) (grants : Nat → Bool) (requests ctx block : Nat)
    (avcodecCtx avframe : Option Nat) : Prop :=
  heap.Footprint grants requests ((block, .avcContext avcodecCtx avframe) ::
    (ctx, .context (some ⟨block, 0⟩)) :: avcParts avcodecCtx avframe)

section

variable {avcodecCtx avframe : Option Nat}

theorem AvcContexts.loads_context
    (contexts : AvcContexts heap grants requests ctx block avcodecCtx avframe) :
    (load asContext (some ctx)).Runs heap (some ⟨block, 0⟩) heap :=
  contexts.runs_load (.tail _ (.head _)) rfl

theorem AvcContexts.loads_codec
    (contexts : AvcContexts heap grants requests ctx block avcodecCtx avframe) :
    (load asAvcContext (some block)).Runs heap (avcodecCtx, avframe) heap :=
  contexts.runs_load (.head _) rfl

theorem AvcContexts.runs_log
    (contexts : AvcContexts heap grants requests ctx block avcodecCtx avframe) :
    (videoDecLog (some ctx)).Runs heap () heap :=
  runs_videoDecLog contexts (.tail _ (.head _))

/-- Whatever init got is freed. -/
theorem AvcContexts.runs_destroy
    (contexts : AvcContexts heap grants requests ctx block avcodecCtx avframe) :
    ∃ after, (videoDecDestroy .avc (some ctx)).Runs heap () after ∧
      after.Footprint grants requests [] := by
  let inner := (block, Cell.avcContext avcodecCtx avframe)
  let outer := (ctx, Cell.context (some ⟨block, 0⟩))
  have first : (inner :: outer :: avcParts avcodecCtx avframe).Perm
      (avcParts avcodecCtx avframe ++ [inner, outer]) :=
    @List.perm_append_comm _ [inner, outer] _
  rw [avcParts, List.append_assoc] at first
  obtain ⟨closed, freesContext, rest⟩ := contexts.runs_free_option first
  obtain ⟨unframed, freesFrame, rest⟩ := rest.runs_free_option (.refl _)
  obtain ⟨emptied, freesCodec, rest⟩ := rest.runs_free (.refl _)
  obtain ⟨after, freesOuter, rest⟩ := rest.runs_free (.refl _)
  refine ⟨after, ?_, rest⟩
  have destroys : (avcDecDestroy (some ctx)).Runs heap () emptied := by
    rw [avcDecDestroy, contexts.loads_context.bind_iff]
    simp only [contexts.loads_codec.bind_iff, freesContext.bind_iff, freesFrame.bind_iff]
    exact freesCodec
  rw [videoDecDestroy, dfDestroy, destroys.bind_iff]
  exact freesOuter

end

/-- Whether `avc_dec_init` succeeds. -/
def avcOpens (library : Library) (grants : Nat → Bool) : Bool :=
  library.decoderFound && grants 2 && library.opens && grants 3

/-- Both parts, or an error that leaves what there is to destroy. -/
theorem AvcContexts.runs_init (contexts : AvcContexts heap grants 2 ctx block none none) :
    ∃ avcodecCtx avframe requests result after,
      (avcDecInit library (some ctx)).Runs heap result after ∧
        AvcContexts after grants requests ctx block avcodecCtx avframe ∧
        if avcOpens library grants then
          result = 0 ∧ requests = 4 ∧ avcodecCtx.isSome ∧ avframe.isSome
        else result = -1 := by
  cases found : library.decoderFound with
  | false =>
    refine ⟨none, none, 2, -1, heap, ?_, contexts, by simp [avcOpens, found]⟩
    rw [avcDecInit, contexts.loads_context.bind_iff, Option.map_some,
      contexts.loads_codec.bind_iff, found, if_neg Bool.false_ne_true,
      contexts.runs_log.bind_iff]
    rfl
  | true =>
    cases granted : grants 2 with
    | false =>
      obtain ⟨first, refused, contexts'⟩ := contexts.runs_malloc_refused granted .codecContext
      obtain ⟨after, stores, contexts'⟩ := contexts'.runs_store (.refl _)
        (rfl : asAvcContext _ = _) (.avcContext none none)
      have contexts' : AvcContexts after grants 3 ctx block none none := contexts'
      refine ⟨none, none, 3, -1, after, ?_, contexts', by simp [avcOpens, granted]⟩
      rw [avcDecInit, contexts.loads_context.bind_iff, Option.map_some,
        contexts.loads_codec.bind_iff, found, if_pos rfl, refused.bind_iff, stores.bind_iff]
      exact contexts'.runs_log.bind_iff.mpr rfl
    | true =>
      obtain ⟨part, first, gets, contexts'⟩ := contexts.runs_malloc granted .codecContext
      obtain ⟨second, stores, contexts'⟩ := contexts'.runs_store (.swap ..)
        (rfl : asAvcContext _ = _) (.avcContext (some part) none)
      have half : AvcContexts second grants 3 ctx block (some part) none :=
        contexts'.perm (.cons _ (.swap ..))
      cases opens : library.opens with
      | false =>
        refine ⟨some part, none, 3, -1, second, ?_, half, by simp [avcOpens, opens]⟩
        rw [avcDecInit, contexts.loads_context.bind_iff, Option.map_some,
          contexts.loads_codec.bind_iff, found, if_pos rfl, gets.bind_iff, stores.bind_iff, opens]
        exact half.runs_log.bind_iff.mpr rfl
      | true =>
        cases more : grants 3 with
        | false =>
          obtain ⟨third, refused, half'⟩ := half.runs_malloc_refused more .frame
          obtain ⟨after, links, half'⟩ := half'.runs_store (.refl _) (rfl : asAvcContext _ = _)
            (.avcContext (some part) none)
          have half' : AvcContexts after grants 4 ctx block (some part) none := half'
          refine ⟨some part, none, 4, -1, after, ?_, half', by simp [avcOpens, more]⟩
          rw [avcDecInit, contexts.loads_context.bind_iff, Option.map_some,
            contexts.loads_codec.bind_iff, found, if_pos rfl, gets.bind_iff, stores.bind_iff,
            opens]
          exact refused.bind_iff.mpr (links.bind_iff.mpr (half'.runs_log.bind_iff.mpr rfl))
        | true =>
          obtain ⟨frame, third, getsFrame, whole⟩ := half.runs_malloc more .frame
          obtain ⟨after, links, whole⟩ := whole.runs_store (.swap ..) (rfl : asAvcContext _ = _)
            (.avcContext (some part) (some frame))
          have whole : AvcContexts after grants 4 ctx block (some part) (some frame) :=
            whole.perm (@List.perm_append_comm _ [_] [_, _] |>.cons _)
          refine ⟨some part, some frame, 4, 0, after, ?_, whole, ?_⟩
          · rw [avcDecInit, contexts.loads_context.bind_iff, Option.map_some,
              contexts.loads_codec.bind_iff, found, if_pos rfl, gets.bind_iff, stores.bind_iff,
              opens]
            exact getsFrame.bind_iff.mpr (links.bind_iff.mpr rfl)
          · simp [avcOpens, found, granted, opens, more]

/-! ## The VP8 decoder -/

/-- A VP8 decoder from create on, with the decoder of the library where it has one. -/
abbrev Vp8Contexts (heap : Heap Cell) (grants : Nat → Bool) (requests ctx : Nat)
    (privCtx : Pointer) (decoder : Option Nat) : Prop :=
  heap.Footprint grants requests ((privCtx.block, .vp8Context decoder) ::
    (ctx, .context (some privCtx)) :: decoder.toList.map fun address => (address, .vpxDecoder))

section

variable {decoder : Option Nat}

theorem Vp8Contexts.loads_context
    (contexts : Vp8Contexts heap grants requests ctx privCtx decoder) :
    (load asContext (some ctx)).Runs heap (some privCtx) heap :=
  contexts.runs_load (.tail _ (.head _)) rfl

theorem Vp8Contexts.loads_codec
    (contexts : Vp8Contexts heap grants requests ctx privCtx decoder) :
    (load asVp8Context (some privCtx.block)).Runs heap decoder heap :=
  contexts.runs_load (.head _) rfl

theorem Vp8Contexts.runs_init (contexts : Vp8Contexts heap grants requests ctx privCtx none) :
    ∃ decoder result after,
      (vp8DecInit library (some ctx)).Runs heap result after ∧ (result = 0 → decoder ≠ none) ∧
        Vp8Contexts after grants (requests + 1) ctx privCtx decoder := by
  cases works : (grants requests && library.opens) with
  | true =>
    obtain ⟨granted, opens⟩ := Bool.and_eq_true_iff.mp works
    obtain ⟨decoder, first, opensDecoder, contexts'⟩ := contexts.runs_construct granted .vpxDecoder
    obtain ⟨after, stores, contexts'⟩ := contexts'.runs_store (.swap ..)
      (rfl : asVp8Context _ = _) (.vp8Context (some decoder))
    refine ⟨some decoder, 0, after, ?_, fun _ => Option.some_ne_none decoder,
      contexts'.perm (.cons _ (.swap ..))⟩
    rw [vp8DecInit, contexts.loads_context.bind_iff, Option.map_some,
      contexts.loads_codec.bind_iff, opens, opensDecoder.bind_iff]
    exact stores.bind_iff.mpr rfl
  | false =>
    obtain ⟨first, fails, contexts'⟩ := contexts.runs_construct_fails works .vpxDecoder
    obtain ⟨after, stores, contexts'⟩ := contexts'.runs_store (.refl _)
      (rfl : asVp8Context _ = _) (.vp8Context none)
    refine ⟨none, -1, after, ?_, by decide, contexts'⟩
    rw [vp8DecInit, contexts.loads_context.bind_iff, Option.map_some,
      contexts.loads_codec.bind_iff, fails.bind_iff, stores.bind_iff]
    exact (runs_videoDecLog contexts' (.tail _ (.head _))).bind_iff.mpr rfl

/-- Whatever init got, `free` gets a pointer that `malloc` did not return. -/
theorem Vp8Contexts.destroy_faults
    (contexts : Vp8Contexts heap grants requests ctx privCtx decoder)
    (inside : 0 < privCtx.offset) :
    (videoDecDestroy .vp8 (some ctx)).run heap = .error .deadCell := by
  obtain ⟨block, offset⟩ := privCtx
  obtain ⟨less, rfl⟩ : ∃ less, offset = less + 1 := Nat.exists_eq_add_of_le' inside
  have faults (heap : Heap Cell) :
      (freePointer (some ⟨block, less + 1⟩)).run heap = .error .deadCell := rfl
  have inner : (vp8DecDestroy (some ctx)).run heap = .error .deadCell := by
    rw [vp8DecDestroy, contexts.loads_context.run_bind]
    simp only [contexts.loads_codec.run_bind]
    cases decoder with
    | none =>
      have logs := runs_videoDecLog contexts (.tail _ (.head _))
      simp only [logs.run_bind]
      exact faults heap
    | some decoder =>
      obtain ⟨after, frees, -⟩ := contexts.runs_free
        (@List.perm_append_comm _ [_, _] [(decoder, Cell.vpxDecoder)])
      simp only [frees.run_bind]
      exact faults after
  rw [videoDecDestroy, dfDestroy, run_bind, inner]

end

/-! ## Whole lifetimes -/

/-- Whether a decoder frees all that it allocates. -/
def clean (library : Library) (grants : Nat → Bool) (actions : List Action) :
    VideoCodecType → Bool
  | .nul => true
  | .vp8 => grants 0 && !grants 1
  | .avc =>
    grants 0 && (!grants 1 || !avcOpens library grants || surfacesGranted grants 4 actions)

theorem lifetime_vp8_faults (outer : grants 0 = true) (inner : grants 1 = true)
    (actions : List Action) :
    (lifetime .vp8 library actions).leaves (Heap.empty grants) = none := by
  obtain ⟨ctx, block, first, creates, contexts⟩ :=
    @runs_createVideoDecoder _ library .vp8 (by decide) outer inner
  obtain ⟨decoder, result, second, inits, usable, contexts⟩ :=
    @Vp8Contexts.runs_init _ _ _ _ (codecPointer library .vp8 block) library contexts
  rw [lifetime, creates.leaves_bind]
  simp only [dfInit, inits.leaves_bind]
  split
  case isTrue ready =>
    obtain ⟨address, rfl⟩ := Option.ne_none_iff_exists'.mp (usable ready)
    have used : InUse second grants 3 []
      (owned .vp8 ctx (codecPointer library .vp8 block) address 0) := contexts
    cases granted : surfacesGranted grants 3 actions with
    | true =>
      obtain ⟨made, third, runs, contexts⟩ := runs_useImages (by decide) actions granted used
      have faults := Vp8Contexts.destroy_faults contexts codecPointer_offset_pos
      exact runs.leaves_bind.trans (leaves_of_fault faults)
    | false =>
      exact leaves_bind_of_fault (useImages_faults (by decide) actions granted used)
  case isFalse =>
    exact leaves_of_fault (contexts.destroy_faults codecPointer_offset_pos)

theorem lifetime_avc (outer : grants 0 = true) (inner : grants 1 = true) (actions : List Action) :
    (lifetime .avc library actions).leaves (Heap.empty grants) =
      if avcOpens library grants && !surfacesGranted grants 4 actions then none else some [] := by
  obtain ⟨ctx, block, first, creates, contexts⟩ :=
    @runs_createVideoDecoder _ library .avc (by decide) outer inner
  obtain ⟨avcodecCtx, avframe, made, result, second, inits, contexts, ends⟩ :=
    @AvcContexts.runs_init _ _ _ block library contexts
  rw [lifetime, creates.leaves_bind]
  simp only [dfInit, inits.leaves_bind]
  cases opens : avcOpens library grants with
  | false =>
    obtain rfl : result = -1 := by simpa [opens] using ends
    obtain ⟨after, destroys, nothing⟩ := contexts.runs_destroy
    rw [if_neg (by decide), destroys.leaves, nothing.live_eq_nil]
    rfl
  | true =>
    rw [opens, if_pos rfl] at ends
    obtain ⟨rfl, rfl, opened, framed⟩ := ends
    obtain ⟨part, rfl⟩ := Option.isSome_iff_exists.mp opened
    obtain ⟨frame, rfl⟩ := Option.isSome_iff_exists.mp framed
    have used : InUse second grants 4 [] (owned .avc ctx ⟨block, 0⟩ part frame) := contexts
    rw [if_pos rfl]
    cases granted : surfacesGranted grants 4 actions with
    | true =>
      obtain ⟨made, third, runs, contexts⟩ := runs_useImages (by decide) actions granted used
      obtain ⟨after, destroys, nothing⟩ := AvcContexts.runs_destroy contexts
      refine runs.leaves_bind.trans ?_
      rw [destroys.leaves, nothing.live_eq_nil]
      rfl
    | false =>
      exact leaves_bind_of_fault (useImages_faults (by decide) actions granted used)

/-- Whatever is decoded, and in whatever order the images are released: an AVC decoder frees all
that it allocated, or writes through a surface that it did not get; a VP8 decoder ends with a
fault. -/
theorem lifetime_frees_or_faults (codec : VideoCodecType) (library : Library) (grants : Nat → Bool)
    (actions : List Action) :
    (lifetime codec library actions).leaves (Heap.empty grants) =
      if clean library grants actions codec then some [] else none := by
  by_cases usable : codec = .nul
  case pos =>
    obtain rfl := usable
    rfl
  case neg =>
    cases outer : grants 0 with
    | false =>
      rw [lifetime, leaves_bind_of_fault (createVideoDecoder_faults usable outer)]
      cases codec with
      | nul => exact absurd rfl usable
      | vp8 | avc => simp [clean, outer]
    | true =>
      cases inner : grants 1 with
      | false =>
        obtain ⟨after, creates, nothing⟩ :=
          @runs_createVideoDecoder_none _ library codec usable outer inner
        have ends : (pure () : Program Unit).leaves after = some after.live := rfl
        rw [lifetime, creates.leaves_bind]
        refine (ends.trans (congrArg some nothing.live_eq_nil)).trans ?_
        cases codec with
        | nul => exact absurd rfl usable
        | vp8 | avc => simp [clean, outer, inner]
      | true =>
        cases codec with
        | nul => exact absurd rfl usable
        | vp8 => simp [lifetime_vp8_faults outer inner, clean, inner]
        | avc =>
          rw [lifetime_avc outer inner, clean, outer, inner]
          cases avcOpens library grants <;> cases surfacesGranted grants 4 actions <;> rfl

end VideoDecLifetime

end RtpPlayer
