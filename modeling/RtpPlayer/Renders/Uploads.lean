import RtpPlayer.Foundations.Pipelines
import RtpPlayer.Renders.PlaneLayout

/-! # Uploads

The surfaces that reach OpenGL over a run of the renderer, and the context that they find there.
The renderer does not forget the size of the last image when it fails to start for another one. -/

namespace RtpPlayer

open Foundations

/-- What a call of `on_frame` hands to OpenGL, and the sizes that the textures have. -/
structure Upload where
  context : Option (Plane → Nat × Nat)
  textures : Plane → GLTexture

/-- The upload is the surface, and the textures were made for its size. -/
structure Upload.Shows (upload : Upload) (surface : VideoSurface) : Prop where
  textures : upload.textures = surface.frame.textures
  context : upload.context = some (initTextures surface.frame.getWidth surface.frame.getHeight)

namespace VideoOut

/-- The renderer over the surfaces that it is given, with what is uploaded. -/
def uploading : Machine VideoOut (VideoSurface × Bool) (List Upload) where
  step out input :=
    let (next, uploaded) := out.onFrame input.1.frame input.2
    (next,
      (uploaded.map fun textures => { context := next.allocated, textures := textures }).toList)

end VideoOut

/-- The check of `on_decoded_image`. -/
def VideoSurface.isValid (surface : VideoSurface) : Bool :=
  ¬ (surface.frame.getWidth ≤ 0 ∨ surface.frame.getHeight ≤ 0)

namespace VideoOut

/-- The size that the renderer goes by. -/
def size (out : VideoOut) : Nat × Nat := (out.imageWidth, out.imageHeight)

end VideoOut

/-- The size of a surface to the renderer. -/
def VideoSurface.size (surface : VideoSurface) : Nat × Nat :=
  (surface.frame.getWidth, surface.frame.getHeight)

namespace VideoOut

/-- Everything that a call of `on_frame` can do. -/
inductive UploadStep (out : VideoOut) : VideoSurface × Bool → VideoOut × List Upload → Prop where
  | shown {surface starts} (same : surface.size = out.size) :
      UploadStep out (surface, starts) (out, [⟨out.allocated, surface.frame.textures⟩])
  | started {surface} (other : surface.size ≠ out.size) :
      UploadStep out (surface, true)
        ({ imageWidth := surface.size.1, imageHeight := surface.size.2
           allocated := some (initTextures surface.size.1 surface.size.2) },
          [⟨some (initTextures surface.size.1 surface.size.2), surface.frame.textures⟩])
  | failed {surface} (other : surface.size ≠ out.size) :
      UploadStep out (surface, false) (out.clear, [])

theorem uploading_step (out : VideoOut) (call : VideoSurface × Bool) :
    UploadStep out call (uploading.step out call) := by
  obtain ⟨surface, starts⟩ := call
  by_cases same : surface.size = out.size
  · have kept : ¬ (surface.frame.getWidth ≠ out.imageWidth ∨
        surface.frame.getHeight ≠ out.imageHeight) := by
      simpa [VideoSurface.size, size, not_or] using same
    have step : uploading.step out (surface, starts) =
        (out, [⟨out.allocated, surface.frame.textures⟩]) := by
      simp only [uploading, onFrame, if_neg kept]
      rfl
    exact step ▸ .shown same
  · have resized : surface.frame.getWidth ≠ out.imageWidth ∨
        surface.frame.getHeight ≠ out.imageHeight := by
      by_contra kept
      exact same (by simpa [VideoSurface.size, size, not_or] using kept)
    cases starts with
    | true =>
      have step : uploading.step out (surface, true) =
          ({ imageWidth := surface.size.1, imageHeight := surface.size.2
             allocated := some (initTextures surface.size.1 surface.size.2) },
            [⟨some (initTextures surface.size.1 surface.size.2), surface.frame.textures⟩]) := by
        simp only [uploading, onFrame, if_pos resized, init, clear, if_true]
        rfl
      exact step ▸ .started same
    | false =>
      have step : uploading.step out (surface, false) = (out.clear, []) := by
        simp only [uploading, onFrame, if_pos resized, init, clear, Bool.false_eq_true, if_false]
        rfl
      exact step ▸ .failed same

/-- What is uploaded are surfaces that were given, in their order. -/
theorem uploads_surfaces (out : VideoOut) (calls : List (VideoSurface × Bool)) :
    List.SublistForall₂ (fun upload surface => upload.textures = surface.frame.textures)
      (uploading.emissions out calls) (calls.map Prod.fst) := by
  induction calls generalizing out with
  | nil => exact .nil
  | cons call calls ih =>
    have stepped := uploading_step out call
    rw [Machine.emissions_cons, List.map_cons]
    generalize uploading.step out call = result at stepped ⊢
    cases stepped with
    | shown same => exact .cons rfl (ih _)
    | started other => exact .cons rfl (ih _)
    | failed other => exact .cons_right (ih _)

/-! ## While OpenGL starts -/

/-- The textures are made for an image, or for none yet. -/
def Ready (out : VideoOut) : Prop :=
  out = create ∨ out.allocated = some (initTextures out.imageWidth out.imageHeight)

theorem size_ne_create {surface : VideoSurface} (valid : surface.isValid = true) :
    surface.size ≠ create.size := by
  intro same
  simp only [VideoSurface.isValid, decide_eq_true_eq, not_or] at valid
  exact valid.1 (Nat.le_of_eq (congrArg Prod.fst same))

/-- Where OpenGL starts whenever it has to, each surface with a size is shown. -/
theorem shows_all {out : VideoOut} (ready : out.Ready) {calls : List (VideoSurface × Bool)}
    (starts : ∀ call ∈ calls, call.2 = true ∧ call.1.isValid = true) :
    List.Forall₂ Upload.Shows (uploading.emissions out calls) (calls.map Prod.fst) := by
  induction calls generalizing out with
  | nil => exact .nil
  | cons call calls ih =>
    have stepped := uploading_step out call
    rw [List.forall_mem_cons] at starts
    obtain ⟨⟨succeeds, valid⟩, starts⟩ := starts
    rw [Machine.emissions_cons, List.map_cons]
    generalize uploading.step out call = result at stepped ⊢
    cases stepped with
    | @shown surface _ same =>
      rcases ready with rfl | allocated
      · exact absurd same (size_ne_create valid)
      · refine .cons ⟨rfl, ?_⟩ (ih (.inr allocated) starts)
        have width : surface.frame.getWidth = out.imageWidth := congrArg Prod.fst same
        have height : surface.frame.getHeight = out.imageHeight := congrArg Prod.snd same
        rw [width, height]
        exact allocated
    | started other => exact .cons ⟨rfl, rfl⟩ (ih (.inr rfl) starts)
    | failed other => cases succeeds

/-! ## Where OpenGL does not start -/

/-- A call that leaves the size as it is: a surface of the size, or one that OpenGL does not start
for. -/
def Keeps (size : Nat × Nat) (call : VideoSurface × Bool) : Prop :=
  call.1.size = size ∨ call.2 = false

/-- A size is shown again after OpenGL did not start for another one in between. -/
def Relapses (calls : List (VideoSurface × Bool)) : Prop :=
  ∃ before shown between again later,
    calls = before ++ (shown, true) :: (between ++ again :: later) ∧
      again.1.size = shown.size ∧ (∀ call ∈ between, Keeps shown.size call) ∧
      ∃ call ∈ between, call.1.size ≠ shown.size

/-- The renderer after calls that leave its size as it is: the context is lost with the first one
that OpenGL does not start for. -/
theorem run_keeps {out : VideoOut} {calls : List (VideoSurface × Bool)}
    (keeps : ∀ call ∈ calls, Keeps out.size call) :
    (uploading.run out calls).size = out.size ∧
      ((uploading.run out calls).allocated = none ↔
        out.allocated = none ∨ ∃ call ∈ calls, call.1.size ≠ out.size) := by
  induction calls generalizing out with
  | nil => simp
  | cons call calls ih =>
    have stepped := uploading_step out call
    rw [List.forall_mem_cons] at keeps
    obtain ⟨kept, keeps⟩ := keeps
    rw [Machine.run_cons]
    generalize uploading.step out call = result at stepped ⊢
    cases stepped with
    | shown same =>
      obtain ⟨size, lost⟩ := ih keeps
      simp [size, lost, same]
    | started other =>
      rcases kept with same | fails
      · exact absurd same other
      · cases fails
    | failed other =>
      obtain ⟨size, lost⟩ := @ih out.clear keeps
      refine ⟨size, ?_⟩
      rw [lost]
      simp [clear, other]

/-- The renderer started for the surface at the last of the calls, or had it started before. -/
def Started (surface : VideoSurface) (calls : List (VideoSurface × Bool)) : Prop :=
  ∃ before, calls = before ++ [(surface, true)] ∧
    (uploading.run create calls).size = surface.size ∧
      (uploading.run create calls).allocated ≠ none

/-- Before the first image, or at some time after the start for one. -/
theorem run_cases (calls : List (VideoSurface × Bool)) :
    uploading.run create calls = create ∨
      ∃ first shown between, calls = first ++ between ∧ Started shown first ∧
        ∀ call ∈ between, Keeps shown.size call := by
  induction calls using List.reverseRecOn with
  | nil => exact .inl rfl
  | append_singleton calls call ih =>
    have stepped := uploading_step (uploading.run create calls) call
    have last : uploading.run create (calls ++ [call]) =
      (uploading.step (uploading.run create calls) call).1 := uploading.run_concat ..
    -- a start makes this call the first one of what keeps the size
    have starts : ∀ surface : VideoSurface, call = (surface, true) →
        surface.size ≠ (uploading.run create calls).size →
        Started surface (calls ++ [call]) := by
      rintro surface rfl other
      generalize result : uploading.step (uploading.run create calls) (surface, true) = next
        at stepped last
      refine ⟨calls, rfl, ?_⟩
      rw [last]
      cases stepped with
      | shown same => exact absurd same other
      | started => exact ⟨rfl, Option.some_ne_none _⟩
    rcases ih with fresh | ⟨first, shown, between, rfl, started, keeps⟩
    · rw [last]
      generalize result : uploading.step (uploading.run create calls) call = next at stepped
      cases stepped with
      | shown same => exact .inl fresh
      | @started surface other =>
        exact .inr ⟨_, surface, [], (List.append_nil _).symm, starts surface rfl other, by simp⟩
      | failed other =>
        rw [fresh]
        exact .inl rfl
    · have begun := started
      obtain ⟨before, -, size, -⟩ := started
      have sized : (uploading.run create (first ++ between)).size = shown.size := by
        rw [Machine.run_append, (run_keeps (size ▸ keeps)).1, size]
      have grows : Keeps shown.size call → ∃ first' shown' between',
          first ++ between ++ [call] = first' ++ between' ∧ Started shown' first' ∧
            ∀ call ∈ between', Keeps shown'.size call := by
        intro kept
        refine ⟨first, shown, between ++ [call], List.append_assoc .., begun, ?_⟩
        exact List.forall_mem_append.mpr ⟨keeps, List.forall_mem_singleton.mpr kept⟩
      generalize uploading.step (uploading.run create (first ++ between)) call = next at stepped
      cases stepped with
      | shown same => exact .inr (grows (.inl (same.trans sized)))
      | @started surface other =>
        exact .inr ⟨_, surface, [], (List.append_nil _).symm, starts surface rfl other, by simp⟩
      | failed other => exact .inr (grows (.inr rfl))

/-- The start for a surface leaves its size and a context, or the context that was lost before. -/
theorem run_started (before : List (VideoSurface × Bool)) (shown : VideoSurface) :
    (uploading.run create (before ++ [(shown, true)])).size = shown.size := by
  have stepped := uploading_step (uploading.run create before) (shown, true)
  rw [Machine.run_concat]
  generalize uploading.step (uploading.run create before) (shown, true) = next at stepped ⊢
  cases stepped with
  | shown same => exact same.symm
  | started other => rfl

/-- An image is uploaded without a context exactly where its size was shown before and OpenGL did
not start for another size since. -/
theorem context_lost_iff (calls : List (VideoSurface × Bool))
    (valid : ∀ call ∈ calls, call.1.isValid = true) :
    (∃ upload ∈ uploading.emissions create calls, upload.context = none) ↔ Relapses calls := by
  constructor
  · rintro ⟨upload, some, lost⟩
    obtain ⟨past, call, later, rfl, uploaded⟩ := (uploading.mem_emissions_iff _).mp some
    have stepped := uploading_step (uploading.run create past) call
    generalize uploading.step (uploading.run create past) call = next at stepped uploaded
    cases stepped with
    | failed other => cases uploaded
    | started other =>
      rw [List.mem_singleton.mp uploaded] at lost
      cases lost
    | @shown surface starts same =>
      rw [List.mem_singleton.mp uploaded] at lost
      rcases run_cases past with fresh | ⟨first, shown, between, rfl, started, keeps⟩
      · rw [fresh] at same
        exact absurd same (size_ne_create (valid (surface, starts) (by simp)))
      · obtain ⟨before, rfl, size, context⟩ := started
        obtain ⟨sized, cleared⟩ := run_keeps (size ▸ keeps)
        rw [← Machine.run_append] at sized cleared
        have failed := (cleared.mp lost).resolve_left context
        rw [size] at failed
        refine ⟨before, shown, between, (surface, starts), later, ?_, ?_, keeps, failed⟩
        · simp
        · rw [same, sized, size]
  · rintro ⟨before, shown, between, again, later, rfl, same, keeps, failed⟩
    have size := run_started before shown
    obtain ⟨sized, cleared⟩ := run_keeps (size ▸ keeps)
    rw [← Machine.run_append] at sized cleared
    have lost := cleared.mpr (.inr (size ▸ failed))
    refine ⟨⟨none, again.1.frame.textures⟩, ?_, rfl⟩
    refine (uploading.mem_emissions_iff _).mpr
      ⟨before ++ [(shown, true)] ++ between, again, later, by simp, ?_⟩
    have stepped :=
      uploading_step (uploading.run create (before ++ [(shown, true)] ++ between)) again
    generalize uploading.step _ again = next at stepped ⊢
    cases stepped with
    | shown =>
      rw [lost]
      exact List.mem_singleton_self _
    | started other => exact absurd (by rw [same, sized, size]) other
    | failed other => exact absurd (by rw [same, sized, size]) other

/-- A surface of a size. -/
def sampleSurface (width height : Nat) : VideoSurface where
  color := .i420
  planes _ _ := 128
  width _ := width
  height _ := height
  pitch _ := width
  pts := 0
  opaqueData := 0

/-- The stream changes its size for one frame, for which OpenGL does not start. -/
theorem context_lost_resized :
    let calls := [(sampleSurface 2 2, true), (sampleSurface 4 4, false), (sampleSurface 2 2, true)]
    ∃ upload ∈ uploading.emissions create calls, upload.context = none := by
  intro calls
  have valid : ∀ call ∈ calls, call.1.isValid = true := by decide
  have relapses : Relapses calls := ⟨[], sampleSurface 2 2, [(sampleSurface 4 4, false)],
    (sampleSurface 2 2, true), [], rfl, rfl, by simp [Keeps], by decide⟩
  exact (context_lost_iff calls valid).mpr relapses

end VideoOut

end RtpPlayer
