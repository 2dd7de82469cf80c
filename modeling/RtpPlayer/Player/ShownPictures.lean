import RtpPlayer.Player.PlaybackFlow

/-! # The pictures of a stream

From the datagrams of a stream of pictures to the textures, beside a player of sound that shares the
synchroniser and its clock. -/

namespace RtpPlayer

open Foundations
open RtpClient (Listening)
open RtpDepacketizerVp8 (TimedFrame fromKeyFrame)

/-- The luma texels are the samples of the image, and so are those of chroma for even sizes. -/
def Upload.Displays (upload : Upload) (image : DecodedImage) : Prop :=
  ∀ plane, plane = .y ∨ (image.width % 2 = 0 ∧ image.height % 2 = 0) →
    ∀ x y, x < image.planeWidth plane → y < image.planeHeight plane →
      (upload.textures plane).texel x y = some (image.sample plane x y)

theorem VideoSurface.Holds.displays {surface : VideoSurface} {image : DecodedImage}
    (holds : surface.Holds image) {upload : Upload}
    (uploaded : upload.textures = surface.frame.textures) : upload.Displays image := by
  intro plane exact x y inRow inImage
  have extents : (surface.frame.textures plane).width = image.planeWidth plane ∧
      (surface.frame.textures plane).height = image.planeHeight plane := by
    rcases exact with rfl | even
    · rw [holds.textures]
      exact ⟨rfl, rfl⟩
    · exact holds.extents_iff_even.mpr even plane
  rw [uploaded]
  exact holds.texel_of_width extents.1 inRow (extents.2 ▸ inImage)

/-- The textures have the size that the upload has. -/
def Upload.Fits (upload : Upload) : Prop :=
  ∃ sizes, upload.context = some sizes ∧
    ∀ plane, ((upload.textures plane).width, (upload.textures plane).height) = sizes plane

theorem Upload.Shows.fits {upload : Upload} {surface : VideoSurface}
    (shows : upload.Shows surface) : upload.Fits := by
  refine ⟨_, shows.context, fun plane => ?_⟩
  rw [shows.textures]
  exact VideoOut.textures_sizes surface.frame plane

namespace Playback

variable {σ α β : Type} [OnRtpPacket σ] {library : OpusLibrary α} {dfDecode : DfDecode β}
  {start playback : Playback σ α β} {actions : List Action}

/-- Nothing went wrong with the pictures: there was memory for each, and OpenGL started. -/
structure Smooth (playback : Playback σ α β) : Prop where
  allocates : ∀ call ∈ playback.video.decodes, VideoDecoder.Allocates call.2
  starts : ∀ call ∈ playback.video.calls, call.2 = true

/-- Of the images some are uploaded, in their order and none twice; where nothing goes wrong they
are the first ones, into textures of their size. -/
structure Pictures (images : List DecodedImage) (playback : Playback σ α β) : Prop where
  inOrder : List.SublistForall₂ Upload.Displays playback.video.output images
  complete : playback.Smooth → (∀ image ∈ images, 0 < image.width ∧ 0 < image.height) →
    ∃ shown, shown <+: images ∧
      List.Forall₂ (fun upload image => upload.Displays image ∧ upload.Fits)
        playback.video.output shown

/-- The images that the decoder makes of the frames that the task handed over. -/
def images (dfDecode : DfDecode β) (decoder : β) (playback : Playback σ α β) : List DecodedImage :=
  (VideoDecoder.imaging dfDecode).emissions decoder playback.video.task.handed

theorem Flows.pictures (flows : Flows library dfDecode start actions playback)
    (fresh : start.video.renderer = .create) :
    Pictures (playback.images dfDecode start.video.decoder) playback := by
  obtain ⟨shownFirst, -⟩ := flows.video.shown_isPrefix
  have shown : playback.video.shown (VideoDecoder.side dfDecode) =
      playback.video.calls.map Prod.fst := by
    rw [MediaPath.shown, ← List.filterMap_eq_map]
    rfl
  have images : (VideoDecoder.imaging dfDecode).emissions start.video.decoder
      (playback.video.decodes.map Prod.fst) =
        playback.images dfDecode start.video.decoder := by
    rw [flows.video.decodes]
    rfl
  have output : playback.video.output =
      VideoOut.uploading.emissions .create playback.video.calls := by
    rw [flows.video.output, fresh]
    rfl
  rw [shown] at shownFirst
  constructor
  case inOrder =>
    have carried := sublistForall₂_of_prefix shownFirst
      (VideoDecoder.pushed_carries start.video.decoder playback.video.decodes)
    rw [images] at carried
    have uploads := VideoOut.uploads_surfaces .create playback.video.calls
    rw [← output] at uploads
    have both := sublistForall₂_comp uploads carried
    obtain ⟨kept, related, sublist⟩ := List.sublistForall₂_iff.mp both
    refine List.sublistForall₂_iff.mpr ⟨kept, related.imp ?_, sublist⟩
    rintro upload image ⟨surface, uploaded, carries⟩
    exact carries.holds.displays uploaded
  case complete =>
    intro smooth sized
    have all := VideoDecoder.pushed_carries_all start.video.decoder smooth.allocates
      (images ▸ sized)
    rw [images] at all
    have carried := forall₂_of_prefix shownFirst all
    have valid : ∀ call ∈ playback.video.calls, call.2 = true ∧ call.1.isValid = true := by
      intro call member
      refine ⟨smooth.starts call member, ?_⟩
      exact VideoDecoder.pushed_isValid (shownFirst.subset (List.mem_map_of_mem member))
    have uploads := VideoOut.shows_all (.inl rfl) valid
    rw [← output] at uploads
    refine ⟨_, List.take_prefix .., (forall₂_comp uploads carried).imp ?_⟩
    rintro upload image ⟨surface, shows, carries⟩
    exact ⟨carries.holds.displays shows.textures, shows.fits⟩

/-- The datagrams of the pictures, in the order in which the client read them. -/
def seenOf (actions : List Action) : List (List UInt8 × PacketSurroundings) :=
  StreamTask.arrivals (actions.filterMap Action.video)

/-- Whatever the order of the threads, what is shown are images of the frames of the stream, in
order and none twice, and unless something fails none is left out. -/
theorem shows_decoded_images (library : OpusLibrary α) (dfDecode : DfDecode β)
    (videoClient audioClient : RtpClient) (videoStream : StreamObject σ)
    (audioStream : StreamObject AudioStream) (imageDecoder : β) (pcmDecoder : OpusDecContext α)
    (audioOut : AudioOut)
    (ran : (system library dfDecode).run (create videoClient audioClient videoStream audioStream
      imageDecoder pcmDecoder audioOut) actions = some playback) :
    playback.video.task.handed <+:
        (receiving σ).emissions (videoClient, videoStream) (seenOf actions) ∧
      Pictures (playback.images dfDecode imageDecoder) playback := by
  have flows := flows_of_run ran (flows_create ..)
  exact ⟨flows.video.relays.handed_isPrefix, flows.pictures rfl⟩

/-! ## VP8 -/

/-- The images of a decoder that stamps them are in the order of their frames. -/
theorem images_pts (stamps : StampsImages dfDecode) (decoder : β) (frames : List SentFrame) :
    (((VideoDecoder.imaging dfDecode).emissions decoder frames).map DecodedImage.pts).Sublist
      (frames.map SentFrame.pts) := by
  induction frames generalizing decoder with
  | nil => exact .slnil
  | cons frame frames ih =>
    rw [Machine.emissions_cons, List.map_append, List.map_cons, ← List.singleton_append]
    apply List.Sublist.append _ (ih _)
    change List.Sublist ((dfDecode decoder (some frame.data) frame.pts
      frame.rtpPayloadType).2.2.toList.map DecodedImage.pts) _
    cases decoded : (dfDecode decoder (some frame.data) frame.pts frame.rtpPayloadType).2.2 with
    | none => exact List.nil_sublist _
    | some image =>
      rw [Option.toList_some, List.map_singleton, stamps _ _ _ _ _ decoded]

/-- What is shown of a VP8 stream are the images that libvpx makes of its frames from the first key
frame on, each with the timestamp of its frame, whatever else arrives and whatever the sound does.
-/
theorem shows_vp8_frames (library : OpusLibrary α) (vpx : VpxLibrary β)
    (videoClient audioClient : RtpClient) (buffer : Memory UInt8)
    (audioStream : StreamObject AudioStream) (imageDecoder : β) (pcmDecoder : OpusDecContext α)
    (audioOut : AudioOut) (frames : List TimedFrame) (listening : Listening videoClient)
    {payloadType : BitVec 7} {all : List Arrival} {own : List (List Arrival)}
    (transmitted : List.Forall₂ (fun frame => Transmits frame.packets frame.timestamp) frames own)
    (multiplexed : Multiplexed payloadType all own)
    {playback : Playback (VideoStream RtpDepacketizerVp8) α β}
    (ran : (system library (vp8DecDecode vpx)).run (create videoClient audioClient
      (VideoStream.setVideoMedia .videoVp8 payloadType.toNat (RtpDepacketizerVp8.create buffer))
      audioStream imageDecoder pcmDecoder audioOut) actions = some playback)
    (arrived : seenOf actions <+: all.map Arrival.bytes) :
    ∃ decoded images,
      decoded.map (fun sent => (sent.data, sent.pts, sent.flags)) <+:
        (fromKeyFrame frames).map TimedFrame.delivered ∧
      images = (VideoDecoder.imaging (vp8DecDecode vpx)).emissions imageDecoder decoded ∧
      (images.map DecodedImage.pts).Sublist
        ((fromKeyFrame frames).map fun frame => (frame.timestamp.toNat : Int)) ∧
      Pictures images playback := by
  have flows := flows_of_run ran (flows_create ..)
  have handed : playback.video.task.handed.map (fun sent => (sent.data, sent.pts, sent.flags)) <+:
      (fromKeyFrame frames).map TimedFrame.delivered :=
    flows.video.relays.handed_isPrefix_of
      (StreamTask.emits_frames buffer listening transmitted multiplexed) arrived
  refine ⟨playback.video.task.handed, _, handed, rfl, ?_, flows.pictures rfl⟩
  have timestamps := (handed.map fun delivered => delivered.2.1).sublist
  rw [List.map_map, List.map_map] at timestamps
  exact (images_pts (stampsImages_vp8DecDecode vpx) imageDecoder _).trans timestamps

/-- A key frame in one packet. -/
def sampleKeyFrame : Vp8Packetisation where
  first := ⟨.short true, [0x10, 0, 0, 0x9d, 1, 0x2a, 2, 0, 2, 0], by decide⟩
  rest := StreamTask.sampleDelta.rest
  begins := rfl
  continued := StreamTask.sampleDelta.continued
  keyHeader := by decide
  fits := by decide

/-- A key frame, and a frame a second later. -/
def sampleVp8 : List TimedFrame := [⟨sampleKeyFrame, 3000⟩, ⟨StreamTask.sampleDelta, 93000⟩]

def sampleVp8Arrivals : List (List Arrival) :=
  [[StreamTask.sampleArrival 3000 0x10 [0x10, 0, 0, 0x9d, 1, 0x2a, 2, 0, 2, 0] true],
    [StreamTask.sampleArrival 93000 0x10 [0x11] true]]

/-- A library that finds an image of 2 by 2 in every frame. -/
def sampleVpx : VpxLibrary Unit where
  decode decoder _ := (decoder, false)
  getFrame decoder :=
    (decoder, some {
      fmt := vpxImgFmtI420
      dW := 2
      dH := 2
      planes := fun _ _ => 128
      stride := fun _ => 2 })

/-- Each frame goes through all sections, and the first is rendered. -/
def sampleActions : List Action :=
  let perform := [.videoStream .takeCommand, .decodeImage fun _ => some fun _ => 0,
    .measureLatency, .stopBuffering, .videoStream .deleteFrame]
  sampleVp8Arrivals.flatten.flatMap (fun arrival =>
    .videoStream (.receive arrival.bytes.1 arrival.bytes.2) :: perform) ++
    [.videoFrame 40, .renderImage true]

/-- Nothing is sound to this library. -/
def silentOpus : OpusLibrary Unit where
  opusDecode decoder _ _ := (decoder, 0, fun _ => 0)
  samples_le _ _ _ := Int.natCast_nonneg _

def sampleStart : Playback (VideoStream RtpDepacketizerVp8) Unit Unit :=
  let client := RtpClient.onNetworkAccept .built .create
  create client client
    (VideoStream.setVideoMedia .videoVp8 (96 : BitVec 7).toNat
      (RtpDepacketizerVp8.create fun _ => 0))
    (AudioStream.setAudioMedia .audioOpus 111) () (.init ()) (.create 0 false (fun _ _ => 0) 0)

/-- The run is possible, and one image is uploaded. -/
theorem sampleRun : ∃ playback,
    (system silentOpus (vp8DecDecode sampleVpx)).run sampleStart sampleActions = some playback ∧
      playback.video.output.length = 1 := by
  have ran : ((system silentOpus (vp8DecDecode sampleVpx)).run sampleStart sampleActions).map
      (fun playback => playback.video.output.length) = some 1 := by decide +kernel
  exact Option.map_eq_some_iff.mp ran

theorem shows_decoded_images_sample :
    ∃ playback : Playback (VideoStream RtpDepacketizerVp8) Unit Unit,
      playback.video.output.length = 1 ∧
        Pictures (playback.images (vp8DecDecode sampleVpx) ()) playback := by
  obtain ⟨playback, ran, shown⟩ := sampleRun
  exact ⟨playback, shown, (shows_decoded_images silentOpus _ _ _ _ _ _ _ _ ran).2⟩

theorem shows_vp8_frames_sample :
    ∃ (playback : Playback (VideoStream RtpDepacketizerVp8) Unit Unit)
      (images : List DecodedImage), playback.video.output.length = 1 ∧
        (images.map DecodedImage.pts).Sublist [3000, 93000] ∧ Pictures images playback := by
  obtain ⟨playback, ran, shown⟩ := sampleRun
  have transmitted : List.Forall₂ (fun frame => Transmits frame.packets frame.timestamp)
      sampleVp8 sampleVp8Arrivals := by
    refine .cons ⟨by decide, ?_, ?_, ?_⟩ (.cons ⟨by decide, ?_, ?_, ?_⟩ .nil) <;>
      simp [StreamTask.sampleArrival]
  have multiplexed : Multiplexed 96 sampleVp8Arrivals.flatten sampleVp8Arrivals :=
    ⟨rfl, by simp [sampleVp8Arrivals, StreamTask.sampleArrival, Arrival.Accepted]⟩
  have arrived : seenOf sampleActions = sampleVp8Arrivals.flatten.map Arrival.bytes := rfl
  obtain ⟨-, images, -, -, stamped, pictures⟩ := shows_vp8_frames silentOpus sampleVpx _ _ _ _ _ _ _
    sampleVp8 RtpClient.listening_accepted transmitted multiplexed ran (by rw [arrived])
  exact ⟨playback, images, shown, stamped, pictures⟩

end Playback

end RtpPlayer
