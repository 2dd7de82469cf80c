import RtpPlayer.Foundations.References
import RtpPlayer.Foundations.Transitions

/-! # A video decoder and its frames

A `VideoDecoder` that was built, the video frames made of its images, and everything that holds a
reference to them: the player, the calls of `on_media_frame`, the queue of the synchroniser and the
renderers.  An action is one section of one thread, the destructors included, and a run is one order
of the sections.  Images are named in the order of their delivery, so a name is never used again. -/

namespace RtpPlayer

open Foundations

/-- What `RefCount` counts references to. -/
inductive DecoderObject where
  | decoder
  | frame (image : Nat)
  deriving DecidableEq

/-- The objects, and what becomes of their images and the codec context. -/
structure DecoderObjects where
  refCount : References DecoderObject
  /-- The frames whose destructor has not begun. -/
  alive : List Nat
  /-- In `~AVFrame`, before `video_dec_release_image`. -/
  dying : List Nat
  /-- In `~AVFrame`, before `m_decoder->release()`. -/
  parting : List Nat
  /-- Every image that a frame was made of. -/
  created : List Nat
  /-- The images that `video_dec_release_image` was called with, and whether the context had been
  destroyed by then. -/
  released : List (Nat × Bool)
  /-- How many times `~VideoDecoder` is about to call `tear`. -/
  deleting : Nat
  /-- How many times `video_dec_destroy` was called. -/
  destroyed : Nat

namespace DecoderObjects

/-- The frames that are not completely destroyed. -/
def live (objects : DecoderObjects) : List Nat :=
  objects.alive ++ objects.dying ++ objects.parting

def addRef (objects : DecoderObjects) (object : DecoderObject) : DecoderObjects :=
  { objects with refCount := objects.refCount.addRef object }

/-- `delete this` -/
def delete (objects : DecoderObjects) : DecoderObject → DecoderObjects
  | .decoder => { objects with deleting := objects.deleting + 1 }
  | .frame image =>
    { objects with alive := objects.alive.erase image, dying := image :: objects.dying }

def release (objects : DecoderObjects) (object : DecoderObject) : DecoderObjects :=
  let objects := { objects with refCount := objects.refCount.release object }
  if objects.refCount object = 0 then objects.delete object else objects

/-- `AVFrame::create_instance`, which does not fail. -/
def createFrame (objects : DecoderObjects) (image : Nat) : DecoderObjects :=
  { (objects.addRef (.frame image)).addRef .decoder with
    alive := image :: objects.alive
    created := image :: objects.created }

/-- `video_dec_release_image(m_context, m_surface)` -/
def releaseImage (objects : DecoderObjects) (image : Nat) : DecoderObjects :=
  { objects with
    dying := objects.dying.erase image
    parting := image :: objects.parting
    released := (image, decide (0 < objects.destroyed)) :: objects.released }

/-- `m_decoder->release()` at the end of `~AVFrame`. -/
def releaseDecoder (objects : DecoderObjects) (image : Nat) : DecoderObjects :=
  { objects with parting := objects.parting.erase image }.release .decoder

/-- `video_dec_destroy(m_decoder)` -/
def tear (objects : DecoderObjects) : DecoderObjects :=
  { objects with deleting := objects.deleting - 1, destroyed := objects.destroyed + 1 }

end DecoderObjects

/-- Where a call of `on_media_frame` is; in the last two it holds the first reference of a frame. -/
inductive OnMediaFrame where
  | decoding
  | delivering (image : Nat)
  | delivered (image : Nat)
  deriving DecidableEq

/-- The reference of the player: `m_decoder`, the local of `clear`, or no more. -/
inductive PlayerReference where
  | held
  | clearing
  | given
  deriving DecidableEq

structure SharedDecoder where
  objects : DecoderObjects
  player : PlayerReference
  /-- The calls of `on_media_frame`, one for a thread. -/
  calls : List (Nat × OnMediaFrame)
  /-- `m_video_frames` of the synchroniser. -/
  queue : List Nat
  /-- The frames that `video_frame` returned and `release_frame` did not yet release. -/
  handedOut : List (Nat × Nat)
  /-- The frames that `~AVSync` has still to release, `none` before it. -/
  discarding : Option (List Nat)

namespace SharedDecoder

/-- After `build`, with the reference of the constructor. -/
def build : SharedDecoder where
  objects := {
    refCount := References.addRef (fun _ => 0) .decoder
    alive := []
    dying := []
    parting := []
    created := []
    released := []
    deleting := 0
    destroyed := 0
  }
  player := .held
  calls := []
  queue := []
  handedOut := []
  discarding := none

inductive Action where
  | onMediaFrame (thread : Nat)
  | decImageOutput (thread image : Nat)
  | pushVideo (thread image : Nat)
  | releaseOutput (thread image : Nat) (stage : OnMediaFrame)
  | endDecode (thread : Nat)
  | videoFrame (consumer image : Nat)
  | releaseFrame (consumer image : Nat)
  | destroySync
  | discardFrame (image : Nat)
  | clear
  | clearDecoder
  | releaseImage (image : Nat)
  | releaseDecoder (image : Nat)
  | tear

/-- The call goes on. -/
def advance (state : SharedDecoder) (thread : Nat) (stage next : OnMediaFrame) :
    List (Nat × OnMediaFrame) :=
  (thread, next) :: state.calls.erase (thread, stage)

def step (state : SharedDecoder) : Action → Option SharedDecoder
  | .onMediaFrame thread =>
    -- under the lock of the player, which `clear` takes for its first section
    if state.player = .held ∧ ∀ call ∈ state.calls, call.1 ≠ thread then
      some { state with
        objects := state.objects.addRef .decoder
        calls := (thread, .decoding) :: state.calls }
    else none
  | .decImageOutput thread image =>
    if (thread, .decoding) ∈ state.calls ∧ image ∉ state.objects.created then
      some { state with
        objects := state.objects.createFrame image
        calls := state.advance thread .decoding (.delivering image) }
    else none
  | .pushVideo thread image =>
    if (thread, .delivering image) ∈ state.calls ∧ state.discarding = none then
      some { state with
        objects := state.objects.addRef (.frame image)
        calls := state.advance thread (.delivering image) (.delivered image)
        queue := state.queue ++ [image] }
    else none
  | .releaseOutput thread image stage =>
    -- the observer may also return early, without a push
    if (stage = .delivering image ∨ stage = .delivered image) ∧ (thread, stage) ∈ state.calls then
      some { state with
        objects := state.objects.release (.frame image)
        calls := state.advance thread stage .decoding }
    else none
  | .endDecode thread =>
    if (thread, .decoding) ∈ state.calls then
      some { state with
        objects := state.objects.release .decoder
        calls := state.calls.erase (thread, .decoding) }
    else none
  | .videoFrame consumer image =>
    if state.queue.head? = some image then
      some { state with
        queue := state.queue.tail
        handedOut := (consumer, image) :: state.handedOut }
    else none
  | .releaseFrame consumer image =>
    if (consumer, image) ∈ state.handedOut then
      some { state with
        objects := state.objects.release (.frame image)
        handedOut := state.handedOut.erase (consumer, image) }
    else none
  | .destroySync =>
    if state.discarding = none then
      some { state with queue := [], discarding := some state.queue }
    else none
  | .discardFrame image =>
    match state.discarding with
    | some (first :: rest) =>
      if first = image then
        some { state with
          objects := state.objects.release (.frame image), discarding := some rest }
      else none
    | _ => none
  | .clear => if state.player = .held then some { state with player := .clearing } else none
  | .clearDecoder =>
    if state.player = .clearing then
      some { state with objects := state.objects.release .decoder, player := .given }
    else none
  | .releaseImage image =>
    if image ∈ state.objects.dying then
      some { state with objects := state.objects.releaseImage image }
    else none
  | .releaseDecoder image =>
    if image ∈ state.objects.parting then
      some { state with objects := state.objects.releaseDecoder image }
    else none
  | .tear =>
    if 0 < state.objects.deleting then some { state with objects := state.objects.tear } else none

/-- The order in which the threads take their sections is the list of actions. -/
def system : Transitions SharedDecoder Action where
  step := step

end SharedDecoder

end RtpPlayer
