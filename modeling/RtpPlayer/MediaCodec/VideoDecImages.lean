import RtpPlayer.MediaCodec.VideoDecLifetime

/-! # The images of the video decoders

An image that a decoder sends owns its surface and its three planes, and is freed with them; where a
plane gets no memory nothing of the image is left. -/

namespace RtpPlayer

open Foundations HeapProgram

namespace VideoDecLifetime

open Cell (asContext asVp8Context asVpxDecoder asAvcContext asCodecContext asFrame asSurface)

variable {heap : Heap Cell} {grants : Nat → Bool} {requests ctx : Nat} {privCtx : Option Pointer}
  {others : List (Nat × Cell)}

/-! ## Images -/

/-- The blocks of the planes. -/
def blocks (planes : Plane → Option Nat) : List (Nat × Cell) :=
  [Plane.y, .u, .v].flatMap fun plane => (planes plane).toList.map fun block => (block, .plane)

/-- A surface and its planes. -/
abbrev Image := Nat × (Plane → Option Nat)

def Image.cells (image : Image) : List (Nat × Cell) :=
  (image.1, .surface image.2) :: blocks image.2

theorem blocks_update {planes : Plane → Option Nat} {plane : Plane} (unset : planes plane = none)
    (block : Nat) :
    (blocks (Function.update planes plane (some block))).Perm
      ((block, .plane) :: blocks planes) := by
  cases plane with
  | y | u => simp [blocks, Function.update, unset]
  | v =>
    simp only [blocks, Function.update, unset, List.flatMap_cons, List.flatMap_nil]
    simp [← List.append_assoc]

/-- The requests for the planes, up to the first that is refused. -/
def planeRequests (grants : Nat → Bool) : Nat → List Plane → Nat
  | _, [] => 0
  | request, _ :: rest =>
    if grants request then planeRequests grants (request + 1) rest + 1 else 1

theorem runs_videoDecLog (footprint : heap.Footprint grants requests others)
    (context : (ctx, .context privCtx) ∈ others) : (videoDecLog (some ctx)).Runs heap () heap := by
  have loads : (load asContext (some ctx)).Runs heap privCtx heap :=
    footprint.runs_load context rfl
  rw [videoDecLog, loads.bind_iff]
  rfl

theorem runs_videoDecFreeImage {image : Image}
    (footprint : heap.Footprint grants requests (image.cells ++ others)) :
    ∃ after, (videoDecFreeImage (some image.1)).Runs heap () after ∧
      after.Footprint grants requests others := by
  obtain ⟨surface, planes⟩ := image
  have loads : (load asSurface (some surface)).Runs heap planes heap :=
    footprint.runs_load (.head _) rfl
  -- the blocks of the planes come before the surface, in their order
  have order : (Image.cells (surface, planes) ++ others).Perm
      (blocks planes ++ (surface, .surface planes) :: others) := List.perm_middle.symm
  have split := footprint.perm order
  simp only [blocks, List.flatMap_cons, List.flatMap_nil, List.append_nil,
    List.append_assoc] at split
  obtain ⟨first, freesY, split⟩ := split.runs_free_option (.refl _)
  obtain ⟨second, freesU, split⟩ := split.runs_free_option (.refl _)
  obtain ⟨third, freesV, split⟩ := split.runs_free_option (.refl _)
  obtain ⟨after, freesSurface, rest⟩ := split.runs_free (.refl _)
  refine ⟨after, ?_, rest⟩
  rw [videoDecFreeImage, loads.bind_iff, freesY.bind_iff, freesU.bind_iff, freesV.bind_iff]
  exact freesSurface

/-- All planes get a block, or the image is freed again. -/
theorem runs_allocatePlanes {surface : Nat} {planes : Plane → Option Nat} (remaining : List Plane)
    (distinct : remaining.Nodup) (unset : ∀ plane ∈ remaining, planes plane = none)
    (context : (ctx, .context privCtx) ∈ others)
    (footprint : heap.Footprint grants requests (Image.cells (surface, planes) ++ others)) :
    ∃ all filled after, (allocatePlanes (some ctx) (some surface) remaining).Runs heap all after ∧
      after.Footprint grants (requests + planeRequests grants requests remaining)
        ((if all then Image.cells (surface, filled) else []) ++ others) := by
  -- on the planes: each that gets its block leaves one plane less unset
  induction remaining generalizing heap planes requests with
  | nil => exact ⟨true, planes, heap, rfl, footprint⟩
  | cons plane remaining ih =>
    obtain ⟨notAgain, distinct⟩ := List.nodup_cons.mp distinct
    cases granted : grants requests with
    | true =>
      obtain ⟨block, first, gets, footprint⟩ := footprint.runs_malloc granted .plane
      have loads : (load asSurface (some surface)).Runs first planes first :=
        footprint.runs_load (.tail _ (.head _)) rfl
      obtain ⟨second, stores, footprint⟩ := footprint.runs_store (.swap ..)
        (rfl : asSurface _ = _) (.surface (Function.update planes plane (some block)))
      have updated := blocks_update (unset plane List.mem_cons_self) block
      have next := footprint.perm ((updated.symm.append_right others).cons
        (surface, Cell.surface (Function.update planes plane (some block))))
      have unsetRest : ∀ other ∈ remaining,
          Function.update planes plane (some block) other = none := by
        intro other member
        have different : other ≠ plane := fun same => notAgain (same ▸ member)
        rw [Function.update_of_ne different]
        exact unset other (.tail _ member)
      obtain ⟨all, filled, after, runs, rest⟩ := ih distinct unsetRest next
      refine ⟨all, filled, after, ?_, ?_⟩
      · rw [allocatePlanes, gets.bind_iff, loads.bind_iff, stores.bind_iff]
        exact runs
      · rw [planeRequests, if_pos granted]
        simpa [Nat.add_assoc, Nat.add_comm, Nat.add_left_comm] using rest
    | false =>
      obtain ⟨first, gets, footprint⟩ := footprint.runs_malloc_refused granted .plane
      have loads : (load asSurface (some surface)).Runs first planes first :=
        footprint.runs_load (.head _) rfl
      have same : Function.update planes plane none = planes := by
        rw [← unset plane List.mem_cons_self, Function.update_eq_self]
      obtain ⟨second, stores, footprint⟩ := footprint.runs_store (.refl _)
        (rfl : asSurface _ = _) (.surface (Function.update planes plane none))
      rw [same] at footprint stores
      have logs := runs_videoDecLog footprint (.tail _ (List.mem_append_right _ context))
      obtain ⟨after, frees, rest⟩ := @runs_videoDecFreeImage _ _ _ _ (surface, planes) footprint
      refine ⟨false, planes, after, ?_, ?_⟩
      · rw [allocatePlanes, gets.bind_iff, loads.bind_iff, same, stores.bind_iff]
        exact logs.bind_iff.mpr (frees.bind_iff.mpr rfl)
      · rw [planeRequests, granted, if_neg Bool.false_ne_true, if_neg Bool.false_ne_true]
        exact rest

/-- The requests of an image behind that for its surface. -/
abbrev imageRequests (grants : Nat → Bool) (request : Nat) : Nat :=
  1 + planeRequests grants (request + 1) [.y, .u, .v]

theorem runs_videoDecSendImage (granted : grants requests = true)
    (context : (ctx, .context privCtx) ∈ others)
    (footprint : heap.Footprint grants requests others) :
    ∃ (image : Option Image) (after : Heap Cell),
      (videoDecSendImage (some ctx)).Runs heap (image.map Prod.fst) after ∧
        after.Footprint grants (requests + imageRequests grants requests)
          (image.toList.flatMap Image.cells ++ others) := by
  obtain ⟨surface, first, gets, footprint⟩ :=
    footprint.runs_malloc granted (.surface fun _ => none)
  obtain ⟨second, clears, footprint⟩ := footprint.runs_store (.refl _)
    (rfl : asSurface _ = _) (.surface fun _ => none)
  obtain ⟨all, filled, after, allocates, footprint⟩ :=
    runs_allocatePlanes [.y, .u, .v] (by decide) (fun _ _ => rfl) context
      (by simpa [Image.cells, blocks] using footprint)
  rw [Nat.add_assoc] at footprint
  cases all with
  | true =>
    refine ⟨some (surface, filled), after, ?_, by simpa using footprint⟩
    rw [videoDecSendImage, gets.bind_iff, clears.bind_iff, allocates.bind_iff]
    rfl
  | false =>
    refine ⟨none, after, ?_, by simpa using footprint⟩
    rw [videoDecSendImage, gets.bind_iff, clears.bind_iff, allocates.bind_iff]
    rfl

theorem videoDecSendImage_faults (refused : grants requests = false)
    (footprint : heap.Footprint grants requests others) :
    (videoDecSendImage (some ctx)).run heap = .error .nullPointer := by
  obtain ⟨after, gets, -⟩ := footprint.runs_malloc_refused refused (.surface fun _ => none)
  rw [videoDecSendImage, gets.run_bind]
  rfl

end VideoDecLifetime

end RtpPlayer
