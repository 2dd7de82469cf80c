import RtpPlayer.MediaCodec.VideoDecImages

/-! # A video decoder in use

Between init and destroy the heap holds what the decoder owns and the images that are out.  Whatever
the order of decoding and releasing, the images are gone at the end, unless a surface gets no
memory. -/

namespace RtpPlayer

open Foundations HeapProgram

namespace VideoDecLifetime

open Cell (asContext asVp8Context asVpxDecoder asAvcContext asCodecContext asFrame asSurface)

/-- What a decoder that is initialised owns. -/
def owned (codec : VideoCodecType) (ctx : Nat) (privCtx : Pointer) (first second : Nat) :
    List (Nat × Cell) :=
  match codec with
  | .nul => []
  | .vp8 => [(privCtx.block, .vp8Context (some first)), (ctx, .context (some privCtx)),
      (first, .vpxDecoder)]
  | .avc => [(privCtx.block, .avcContext (some first) (some second)),
      (ctx, .context (some privCtx)), (first, .codecContext), (second, .frame)]

variable {heap : Heap Cell} {grants : Nat → Bool} {requests ctx first second : Nat}
  {privCtx : Pointer} {codec : VideoCodecType} {others : List (Nat × Cell)}

/-- The codecs have nothing to do with the heap but to send the image. -/
theorem run_dfDecode (usable : codec ≠ .nul)
    (footprint : heap.Footprint grants requests (others ++ owned codec ctx privCtx first second))
    (image : Bool) :
    (dfDecode codec image (some ctx)).run heap =
      (if image then videoDecSendImage (some ctx) else pure none).run heap := by
  cases codec with
  | nul => exact absurd rfl usable
  | vp8 =>
    have outer : (load asContext (some ctx)).Runs heap (some privCtx) heap :=
      footprint.runs_load (List.mem_append_right _ (.tail _ (.head _))) rfl
    have inner : (load asVp8Context (some privCtx.block)).Runs heap (some first) heap :=
      footprint.runs_load (List.mem_append_right _ (.head _)) rfl
    have live : (load asVpxDecoder (some first)).Runs heap () heap :=
      footprint.runs_load (List.mem_append_right _ (.tail _ (.tail _ (.head _)))) rfl
    rw [dfDecode, vp8DecDecode, outer.run_bind, Option.map_some, inner.run_bind, live.run_bind]
  | avc =>
    have outer : (load asContext (some ctx)).Runs heap (some privCtx) heap :=
      footprint.runs_load (List.mem_append_right _ (.tail _ (.head _))) rfl
    have inner : (load asAvcContext (some privCtx.block)).Runs heap (some first, some second)
        heap :=
      footprint.runs_load (List.mem_append_right _ (.head _)) rfl
    have context : (load asCodecContext (some first)).Runs heap () heap :=
      footprint.runs_load (List.mem_append_right _ (.tail _ (.tail _ (.head _)))) rfl
    have frame : (load asFrame (some second)).Runs heap () heap :=
      footprint.runs_load (List.mem_append_right _ (.tail _ (.tail _ (.tail _ (.head _))))) rfl
    rw [dfDecode, avcDecDecode, outer.run_bind, Option.map_some, inner.run_bind]
    simp only [context.run_bind, frame.run_bind]

theorem context_mem_owned (usable : codec ≠ .nul) :
    (ctx, Cell.context (some privCtx)) ∈ owned codec ctx privCtx first second := by
  cases codec with
  | nul => exact absurd rfl usable
  | vp8 | avc => simp [owned]

/-- The images that are out, and what the decoder owns. -/
abbrev InUse (heap : Heap Cell) (grants : Nat → Bool) (requests : Nat) (images : List Image)
    (held : List (Nat × Cell)) : Prop :=
  heap.Footprint grants requests (images.flatMap Image.cells ++ held)

section

variable {images : List Image} {held : List (Nat × Cell)}

theorem runs_videoDecReleaseImage (context : (ctx, Cell.context (some privCtx)) ∈ held)
    {image : Image} (used : InUse heap grants requests (image :: images) held) :
    ∃ after, (videoDecReleaseImage (some ctx) image.1).Runs heap () after ∧
      InUse after grants requests images held := by
  have loads : (load asContext (some ctx)).Runs heap (some privCtx) heap :=
    used.runs_load (List.mem_append_right _ context) rfl
  rw [InUse, List.flatMap_cons, List.append_assoc] at used
  obtain ⟨after, frees, rest⟩ := runs_videoDecFreeImage used
  refine ⟨after, ?_, rest⟩
  rw [videoDecReleaseImage, loads.bind_iff]
  exact frees

/-- The images that are left are released in their order. -/
theorem runs_releaseAll (context : (ctx, Cell.context (some privCtx)) ∈ held)
    (used : InUse heap grants requests images held) :
    ∃ after, (forEach (videoDecReleaseImage (some ctx)) (images.map Prod.fst)).Runs heap () after ∧
      after.Footprint grants requests held := by
  induction images generalizing heap with
  | nil => exact ⟨heap, rfl, used⟩
  | cons image images ih =>
    obtain ⟨between, releases, used⟩ := runs_videoDecReleaseImage context used
    obtain ⟨after, runs, rest⟩ := ih used
    refine ⟨after, ?_, rest⟩
    rw [List.map_cons, forEach, releases.bind_iff]
    exact runs

/-- An image that is out comes first. -/
theorem InUse.pick (used : InUse heap grants requests images held) {index : Nat} {image : Image}
    (found : images[index]? = some image) :
    InUse heap grants requests (image :: images.eraseIdx index) held := by
  obtain ⟨below, rfl⟩ := List.getElem?_eq_some_iff.mp found
  have order := (List.getElem_cons_eraseIdx_perm below).symm
  exact used.perm ((order.flatMap_right Image.cells).append_right held)

end

/-- With a surface, the image that is sent, if any, is the last of those that are out. -/
theorem runs_dfDecode (usable : codec ≠ .nul) (surface : grants requests = true)
    {images : List Image}
    (used : InUse heap grants requests images (owned codec ctx privCtx first second)) :
    ∃ (sent : Option Image) (after : Heap Cell),
      (dfDecode codec true (some ctx)).Runs heap (sent.map Prod.fst) after ∧
        InUse after grants (requests + imageRequests grants requests) (images ++ sent.toList)
          (owned codec ctx privCtx first second) := by
  have context := @context_mem_owned ctx first second privCtx codec usable
  obtain ⟨sent, after, sends, footprint⟩ :=
    runs_videoDecSendImage surface (List.mem_append_right _ context) used
  refine ⟨sent, after, (run_dfDecode usable used true).trans sends, footprint.perm ?_⟩
  rw [List.flatMap_append, ← List.append_assoc]
  exact List.perm_append_comm.append_right _

theorem map_fst_append_sent (images : List Image) (sent : Option Image) :
    images.map Prod.fst ++ (sent.map Prod.fst).toList = (images ++ sent.toList).map Prod.fst := by
  cases sent with
  | none => simp
  | some image => simp

/-- Whether every image gets a surface: the requests for memory as the decoder makes them. -/
def surfacesGranted (grants : Nat → Bool) : Nat → List Action → Bool
  | _, [] => true
  | request, .decode true :: actions =>
    grants request && surfacesGranted grants (request + imageRequests grants request) actions
  | request, .decode false :: actions => surfacesGranted grants request actions
  | request, .release _ :: actions => surfacesGranted grants request actions

/-- With the surfaces, all images are gone at the end. -/
theorem runs_useImages (usable : codec ≠ .nul) {images : List Image} (actions : List Action)
    (granted : surfacesGranted grants requests actions = true)
    (used : InUse heap grants requests images (owned codec ctx privCtx first second)) :
    ∃ made after,
      (useImages codec (some ctx) actions (images.map Prod.fst)).Runs heap () after ∧
        after.Footprint grants made (owned codec ctx privCtx first second) := by
  have context := @context_mem_owned ctx first second privCtx codec usable
  -- on the actions: each one takes the images that are out to others, and keeps what is owned
  induction actions generalizing heap requests images with
  | nil =>
    obtain ⟨after, runs, rest⟩ := runs_releaseAll context used
    exact ⟨requests, after, runs, rest⟩
  | cons action actions ih =>
    cases action with
    | decode image =>
      cases image with
      | false =>
        obtain ⟨made, after, runs, rest⟩ := ih granted used
        refine ⟨made, after, ?_, rest⟩
        have nothing : (dfDecode codec false (some ctx)).Runs heap none heap :=
          run_dfDecode usable used false
        rw [useImages, nothing.bind_iff, Option.toList_none, List.append_nil]
        exact runs
      | true =>
        obtain ⟨surface, granted⟩ := Bool.and_eq_true_iff.mp granted
        obtain ⟨sent, between, sends, used⟩ := runs_dfDecode usable surface used
        obtain ⟨made, after, runs, rest⟩ := ih granted used
        refine ⟨made, after, ?_, rest⟩
        rw [useImages, sends.bind_iff, map_fst_append_sent]
        exact runs
    | release index =>
      rw [useImages, List.getElem?_map]
      cases found : images[index]? with
      | none =>
        obtain ⟨made, after, runs, rest⟩ := ih granted used
        exact ⟨made, after, runs, rest⟩
      | some image =>
        obtain ⟨between, releases, used⟩ := runs_videoDecReleaseImage context (used.pick found)
        obtain ⟨made, after, runs, rest⟩ := ih granted used
        refine ⟨made, after, ?_, rest⟩
        rw [← List.eraseIdx_map] at runs
        exact releases.bind_iff.mpr runs

/-- Without a surface the decoder writes through a null pointer. -/
theorem useImages_faults (usable : codec ≠ .nul) {images : List Image} (actions : List Action)
    (refused : surfacesGranted grants requests actions = false)
    (used : InUse heap grants requests images (owned codec ctx privCtx first second)) :
    (useImages codec (some ctx) actions (images.map Prod.fst)).run heap = .error .nullPointer := by
  induction actions generalizing heap requests images with
  | nil => cases refused
  | cons action actions ih =>
    cases action with
    | decode image =>
      cases image with
      | false =>
        have nothing : (dfDecode codec false (some ctx)).Runs heap none heap :=
          run_dfDecode usable used false
        rw [useImages, nothing.run_bind, Option.toList_none, List.append_nil]
        exact ih refused used
      | true =>
        cases surface : grants requests with
        | false =>
          have faults : (dfDecode codec true (some ctx)).run heap = .error .nullPointer :=
            (run_dfDecode usable used true).trans (videoDecSendImage_faults surface used)
          rw [useImages, run_bind, faults]
        | true =>
          rw [surfacesGranted, surface, Bool.true_and] at refused
          obtain ⟨sent, between, sends, used⟩ := runs_dfDecode usable surface used
          rw [useImages, sends.run_bind, map_fst_append_sent]
          exact ih refused used
    | release index =>
      rw [useImages, List.getElem?_map]
      cases found : images[index]? with
      | none => exact ih refused used
      | some image =>
        have context := @context_mem_owned ctx first second privCtx codec usable
        obtain ⟨between, releases, used⟩ := runs_videoDecReleaseImage context (used.pick found)
        have faults := ih refused used
        rw [← List.eraseIdx_map] at faults
        exact releases.run_bind.trans faults

end VideoDecLifetime

end RtpPlayer
