import RtpPlayer.MediaCodec.ImageDecoders
import RtpPlayer.Player.MediaPath
import RtpPlayer.Renders.Uploads

/-! # The picture side of the player

`VideoDecoder`, the check of `VideoPlayer` and the uploads of `VideoOut`.  What reaches the textures
are images of the decoder in their order; one is left out only where there is no memory for it, it
has no size, or OpenGL does not start. -/

namespace RtpPlayer

open Foundations

namespace VideoDecoder

variable {δ : Type} (dfDecode : DfDecode δ)

/-- `decode`, with the surface of the frame that `dec_image_output` makes; the planes of a surface
are not null. -/
def decode (decoder : δ) (frame : SentFrame) (malloc : Plane → Option (Memory UInt8)) :
    δ × Option VideoSurface :=
  let (decoder, _, image) :=
    dfDecode decoder (some frame.data) frame.pts frame.rtpPayloadType
  (decoder, image.bind fun image => videoDecSendImage true malloc image)

/-- With a frame comes whether EGL and the shaders can be set up. -/
def side : MediaSide δ VideoSurface (Plane → Option (Memory UInt8)) VideoOut Bool
    (VideoSurface × Bool) Upload where
  kind := .video
  decode := decode dfDecode
  accepts := VideoSurface.isValid
  pts surface := UInt32.ofInt surface.pts
  renderer := VideoOut.uploading
  onFrame surface found := (surface, found)
  frame? input := some input.1
  frame?_onFrame _ _ := rfl

/-- The decoder of the library alone: the images it makes of frames. -/
def imaging : Machine δ SentFrame (List DecodedImage) where
  step decoder frame :=
    let (decoder, _, image) :=
      dfDecode decoder (some frame.data) frame.pts frame.rtpPayloadType
    (decoder, image.toList)

end VideoDecoder

/-! ## Surfaces -/

/-- The surface holds the image, and is stamped like it. -/
structure VideoSurface.Carries (surface : VideoSurface) (image : DecodedImage) : Prop where
  holds : surface.Holds image
  pts : surface.pts = image.pts

namespace VideoDecoder

variable {δ : Type} {dfDecode : DfDecode δ}

theorem carries_of_sent {malloc : Plane → Option (Memory UInt8)} {image : DecodedImage}
    {surface : VideoSurface} (sent : videoDecSendImage true malloc image = some surface) :
    surface.Carries image := by
  constructor
  case holds => exact videoDecSendImage_holds sent
  case pts =>
    simp only [videoDecSendImage, if_true, Option.bind_eq_bind, Option.bind_eq_some_iff,
      Option.some.injEq] at sent
    obtain ⟨_, -, _, -, _, -, rfl⟩ := sent
    rfl

/-- There is memory for every plane. -/
def Allocates (malloc : Plane → Option (Memory UInt8)) : Prop := ∀ plane, (malloc plane).isSome

theorem sent_of_allocates {malloc : Plane → Option (Memory UInt8)} (allocates : Allocates malloc)
    (image : DecodedImage) : ∃ surface, videoDecSendImage true malloc image = some surface := by
  obtain ⟨y, allocatedY⟩ := Option.isSome_iff_exists.mp (allocates .y)
  obtain ⟨u, allocatedU⟩ := Option.isSome_iff_exists.mp (allocates .u)
  obtain ⟨v, allocatedV⟩ := Option.isSome_iff_exists.mp (allocates .v)
  simp [videoDecSendImage, allocatedY, allocatedU, allocatedV]

theorem isValid_of_holds {surface : VideoSurface} {image : DecodedImage}
    (holds : surface.Holds image) (sized : 0 < image.width ∧ 0 < image.height) :
    surface.isValid = true := by
  have width : surface.frame.getWidth = image.width := congrFun holds.width .y
  have height : surface.frame.getHeight = image.height := congrFun holds.height .y
  simp only [VideoSurface.isValid, width, height, decide_eq_true_eq]
  omega

/-- The surfaces that are pushed carry images of the decoder, in their order. -/
theorem pushed_carries (decoder : δ)
    (decodes : List (SentFrame × (Plane → Option (Memory UInt8)))) :
    List.SublistForall₂ VideoSurface.Carries ((side dfDecode).decoding.emissions decoder decodes)
      ((imaging dfDecode).emissions decoder (decodes.map Prod.fst)) := by
  apply @Machine.emissions_related _ _ _ _ _ _ _ _ _ Eq (fun _ => True) Prod.fst .nil
    sublistForall₂_append _ _ _ rfl _ fun _ _ => trivial
  rintro decoder _ ⟨frame, malloc⟩ rfl -
  constructor
  · rfl
  change List.SublistForall₂ _
    (((dfDecode decoder (some frame.data) frame.pts frame.rtpPayloadType).2.2.bind
      fun image => videoDecSendImage true malloc image).filter VideoSurface.isValid).toList
    (dfDecode decoder (some frame.data) frame.pts frame.rtpPayloadType).2.2.toList
  cases (dfDecode decoder (some frame.data) frame.pts frame.rtpPayloadType).2.2 with
  | none => exact .nil
  | some image =>
    cases sent : videoDecSendImage true malloc image with
    | none => simp [sent, List.SublistForall₂.nil]
    | some surface =>
      simp only [Option.bind_some, sent, Option.filter_some]
      split
      · exact .cons (carries_of_sent sent) .nil
      · exact .nil

/-- The player pushes nothing without a size. -/
theorem pushed_isValid {decoder : δ} {decodes : List (SentFrame × (Plane → Option (Memory UInt8)))}
    {surface : VideoSurface}
    (pushed : surface ∈ (side dfDecode).decoding.emissions decoder decodes) :
    surface.isValid = true := by
  induction decodes generalizing decoder with
  | nil => cases pushed
  | cons call decodes ih =>
    rw [Machine.emissions_cons, List.mem_append] at pushed
    rcases pushed with first | rest
    · exact (Option.mem_filter_iff.mp (Option.mem_toList.mp first)).2
    · exact ih rest

/-- Where there is memory for every image and every image has a size, none is left out. -/
theorem pushed_carries_all (decoder : δ)
    {decodes : List (SentFrame × (Plane → Option (Memory UInt8)))}
    (allocates : ∀ call ∈ decodes, Allocates call.2)
    (sized : ∀ image ∈ (imaging dfDecode).emissions decoder (decodes.map Prod.fst),
      0 < image.width ∧ 0 < image.height) :
    List.Forall₂ VideoSurface.Carries ((side dfDecode).decoding.emissions decoder decodes)
      ((imaging dfDecode).emissions decoder (decodes.map Prod.fst)) := by
  induction decodes generalizing decoder with
  | nil => exact .nil
  | cons call decodes ih =>
    obtain ⟨frame, malloc⟩ := call
    rw [List.forall_mem_cons] at allocates
    rw [List.map_cons, Machine.emissions_cons, List.forall_mem_append] at sized
    apply List.rel_append _ (ih _ allocates.2 sized.2)
    have first := sized.1
    change ∀ image ∈
      (dfDecode decoder (some frame.data) frame.pts frame.rtpPayloadType).2.2.toList, _ at first
    change List.Forall₂ _
      (((dfDecode decoder (some frame.data) frame.pts frame.rtpPayloadType).2.2.bind
        fun image => videoDecSendImage true malloc image).filter VideoSurface.isValid).toList
      (dfDecode decoder (some frame.data) frame.pts frame.rtpPayloadType).2.2.toList
    cases decoded : (dfDecode decoder (some frame.data) frame.pts frame.rtpPayloadType).2.2 with
    | none => exact .nil
    | some image =>
      obtain ⟨surface, sent⟩ := sent_of_allocates allocates.1 image
      have carries := carries_of_sent sent
      have valid := isValid_of_holds carries.holds (first image (by simp [decoded]))
      simp only [Option.bind_some, sent, Option.filter_some, valid, if_true]
      exact .cons carries .nil

end VideoDecoder

end RtpPlayer
