import Mathlib.Data.List.Nodup
import RtpPlayer.Decoders.VideoDecoder

/-! # The decoder outlives its images

The decoder is held by the player, by every call of `on_media_frame` and by every frame, and a frame
is held by the call that made it, by the queue and by the renderers.  The counts agree with the
holders in any order of the sections, so the context goes after the last image. -/

namespace RtpPlayer

open Foundations

/-- Moving an entry from one list to the next. -/
theorem append_perm_move {image : Nat} {source target : List Nat} (member : image ∈ source) :
    (source ++ target).Perm (source.erase image ++ image :: target) :=
  ((List.perm_cons_erase member).append_right target).trans List.perm_middle.symm

namespace DecoderObjects

variable {objects : DecoderObjects} {held : List DecoderObject} {image : Nat}

/-- The objects when `held` are the references to them, but for those that the frames have to the
decoder. -/
structure Accounted (objects : DecoderObjects) (held : List DecoderObject) : Prop where
  references : objects.refCount.Balanced (objects.live.map (fun _ => .decoder) ++ held)
  alive_iff : ∀ image, image ∈ objects.alive ↔ 0 < objects.refCount (.frame image)
  created : objects.created.Perm
    (objects.alive ++ objects.dying ++ objects.released.map Prod.fst)
  nodup : objects.created.Nodup
  intact : ∀ release ∈ objects.released, release.2 = false
  deletes : objects.deleting + objects.destroyed =
    if objects.refCount .decoder = 0 then 1 else 0

namespace Accounted

theorem perm {others : List DecoderObject} (accounted : objects.Accounted held)
    (same : held.Perm others) : objects.Accounted others where
  references := accounted.references.perm (same.append_left _)
  alive_iff := accounted.alive_iff
  created := accounted.created
  nodup := accounted.nodup
  intact := accounted.intact
  deletes := accounted.deletes

/-- An object that is held exists. -/
theorem positive {object : DecoderObject} (accounted : objects.Accounted held)
    (member : object ∈ held) : 0 < objects.refCount object :=
  accounted.references.positive (List.mem_append_right _ member)

/-- As long as there is a frame there is the decoder, and its context. -/
theorem decoder_of_live (accounted : objects.Accounted held) (member : image ∈ objects.live) :
    0 < objects.refCount .decoder :=
  accounted.references.positive
    (List.mem_append_left _ (List.mem_map_of_mem (f := fun _ => DecoderObject.decoder) member))

theorem not_destroyed (accounted : objects.Accounted held)
    (positive : 0 < objects.refCount .decoder) : objects.destroyed = 0 := by
  have deletes := accounted.deletes
  rw [if_neg (by omega)] at deletes
  omega

theorem alive_nodup (accounted : objects.Accounted held) : objects.alive.Nodup := by
  have nodup := accounted.created.nodup_iff.mp accounted.nodup
  rw [List.append_assoc] at nodup
  exact List.Nodup.of_append_left nodup

/-- A reference more to an object that is held. -/
theorem addRef {object : DecoderObject} (accounted : objects.Accounted held)
    (positive : 0 < objects.refCount object) :
    (objects.addRef object).Accounted (object :: held) where
  references := (accounted.references.addRef object).perm List.perm_middle.symm
  alive_iff image := (accounted.alive_iff image).trans (References.addRef_pos_iff positive _).symm
  created := accounted.created
  nodup := accounted.nodup
  intact := accounted.intact
  deletes := by
    have same : (objects.addRef object).refCount .decoder = 0 ↔ objects.refCount .decoder = 0 := by
      have positive_iff := References.addRef_pos_iff positive .decoder
      simp only [DecoderObjects.addRef]
      omega
    simp only [same]
    exact accounted.deletes

/-- A new frame refers to the decoder, and the thread that made it to the frame. -/
theorem createFrame (accounted : objects.Accounted held) (fresh : image ∉ objects.created)
    (positive : 0 < objects.refCount .decoder) :
    (objects.createFrame image).Accounted (.frame image :: held) where
  references := by
    apply ((accounted.references.addRef (.frame image)).addRef .decoder).perm
    apply List.perm_iff_count.mpr
    intro other
    simp only [live, List.map_append, List.map_cons, List.count_append, List.count_cons,
      DecoderObjects.createFrame, DecoderObjects.addRef]
    omega
  alive_iff := by
    intro other
    have decoder : DecoderObject.frame other ≠ .decoder := DecoderObject.noConfusion
    simp only [DecoderObjects.createFrame, DecoderObjects.addRef, List.mem_cons,
      References.addRef_of_ne _ decoder]
    by_cases same : other = image
    · simp [same]
    · rw [References.addRef_of_ne _ (by simp [same]), or_iff_right same, accounted.alive_iff]
  created := accounted.created.cons image
  nodup := List.nodup_cons.mpr ⟨fresh, accounted.nodup⟩
  intact := accounted.intact
  deletes := by
    have deletes := accounted.deletes
    rw [if_neg (by omega)] at deletes
    rw [if_neg (by simp [DecoderObjects.createFrame, DecoderObjects.addRef])]
    exact deletes

theorem release_decoder (accounted : objects.Accounted (.decoder :: held)) :
    (objects.release .decoder).Accounted held := by
  have positive := accounted.positive List.mem_cons_self
  have deletes := accounted.deletes
  rw [if_neg (by omega)] at deletes
  have references := (accounted.references.perm List.perm_middle).release
  have alive_iff : ∀ image, image ∈ objects.alive ↔
      0 < objects.refCount.release .decoder (.frame image) := by
    intro image
    rw [References.release_of_ne _ (by exact DecoderObject.noConfusion)]
    exact accounted.alive_iff image
  unfold DecoderObjects.release
  by_cases last : objects.refCount.release .decoder .decoder = 0
  · simp only [if_pos last]
    refine ⟨references, alive_iff, accounted.created, accounted.nodup, accounted.intact, ?_⟩
    have gone : (objects.refCount.release .decoder) .decoder = 0 := last
    simp only [delete, gone, if_true]
    omega
  · simp only [if_neg last]
    refine ⟨references, alive_iff, accounted.created, accounted.nodup, accounted.intact, ?_⟩
    simp only [if_neg last]
    exact deletes

/-- The last reference begins the destructor of the frame, which keeps that to the decoder. -/
theorem release_frame (accounted : objects.Accounted (.frame image :: held)) :
    (objects.release (.frame image)).Accounted held := by
  have positive := accounted.positive List.mem_cons_self
  have alive := (accounted.alive_iff image).mpr positive
  have references := (accounted.references.perm List.perm_middle).release
  have decoder : objects.refCount.release (.frame image) .decoder = objects.refCount .decoder :=
    References.release_of_ne _ (by exact DecoderObject.noConfusion)
  -- no other frame is affected
  have others : ∀ other, other ≠ image →
      objects.refCount.release (.frame image) (.frame other) =
        objects.refCount (.frame other) := by
    intro other ne
    exact References.release_of_ne _ (by simpa using ne)
  unfold DecoderObjects.release
  by_cases last : objects.refCount.release (.frame image) (.frame image) = 0
  · simp only [if_pos last, delete]
    constructor
    case references =>
      apply references.perm
      exact (((append_perm_move alive).append_right _).map _).append_right _
    case alive_iff =>
      intro other
      rw [accounted.alive_nodup.mem_erase_iff, accounted.alive_iff]
      by_cases same : other = image
      · subst same
        simp only [ne_eq, not_true, false_and, last, Nat.lt_irrefl]
      · simp only [ne_eq, same, not_false_eq_true, true_and, others other same]
    case created => exact accounted.created.trans ((append_perm_move alive).append_right _)
    case nodup => exact accounted.nodup
    case intact => exact accounted.intact
    case deletes =>
      simp only [decoder]
      exact accounted.deletes
  · simp only [if_neg last]
    refine ⟨references, ?_, accounted.created, accounted.nodup, accounted.intact, ?_⟩
    · intro other
      by_cases same : other = image
      · subst same
        exact ⟨fun _ => Nat.pos_of_ne_zero last, fun _ => alive⟩
      · simp only [others other same]
        exact accounted.alive_iff other
    · simp only [decoder]
      exact accounted.deletes

/-- The frame being destroyed still has its reference, so the context is there. -/
theorem releaseImage (accounted : objects.Accounted held) (member : image ∈ objects.dying) :
    (objects.releaseImage image).Accounted held where
  references := by
    apply accounted.references.perm
    simp only [live, DecoderObjects.releaseImage, List.append_assoc]
    exact (((append_perm_move member).append_left _).map _).append_right _
  alive_iff := accounted.alive_iff
  created := by
    apply accounted.created.trans
    simp only [DecoderObjects.releaseImage, List.append_assoc, List.map_cons]
    exact (append_perm_move member).append_left _
  nodup := accounted.nodup
  intact := by
    have member_live : image ∈ objects.live := by simp [live, member]
    have context := accounted.not_destroyed (accounted.decoder_of_live member_live)
    simp only [DecoderObjects.releaseImage, context, List.forall_mem_cons]
    exact ⟨rfl, accounted.intact⟩
  deletes := accounted.deletes

theorem releaseDecoder (accounted : objects.Accounted held) (member : image ∈ objects.parting) :
    (objects.releaseDecoder image).Accounted held := by
  apply release_decoder
  constructor
  case references =>
    apply accounted.references.perm
    have moved := (List.perm_cons_erase member).map fun _ => DecoderObject.decoder
    apply List.perm_iff_count.mpr
    intro other
    have counted := moved.count_eq other
    simp only [live, List.map_append, List.map_cons, List.count_append, List.count_cons]
      at counted ⊢
    omega
  case alive_iff => exact accounted.alive_iff
  case created => exact accounted.created
  case nodup => exact accounted.nodup
  case intact => exact accounted.intact
  case deletes => exact accounted.deletes

theorem tear (accounted : objects.Accounted held) (deleting : 0 < objects.deleting) :
    objects.tear.Accounted held where
  references := accounted.references
  alive_iff := accounted.alive_iff
  created := accounted.created
  nodup := accounted.nodup
  intact := accounted.intact
  deletes := by
    have deletes : _ = ite (objects.tear.refCount .decoder = 0) 1 0 := accounted.deletes
    rw [← deletes]
    simp only [DecoderObjects.tear]
    omega

end Accounted

end DecoderObjects

namespace OnMediaFrame

/-- The references of a call. -/
def references : OnMediaFrame → List DecoderObject
  | decoding => [.decoder]
  | delivering image => [.decoder, .frame image]
  | delivered image => [.decoder, .frame image]

@[simp] theorem references_decoding : decoding.references = [.decoder] := rfl

@[simp] theorem references_delivering (image : Nat) :
    (delivering image).references = [.decoder, .frame image] := rfl

@[simp] theorem references_delivered (image : Nat) :
    (delivered image).references = [.decoder, .frame image] := rfl

end OnMediaFrame

def callReferences (calls : List (Nat × OnMediaFrame)) : List DecoderObject :=
  calls.flatMap fun call => call.2.references

/-- The reference of the player, until `clear` has given it back. -/
def PlayerReference.references : PlayerReference → List DecoderObject
  | held => [.decoder]
  | clearing => [.decoder]
  | given => []

namespace SharedDecoder

variable {state next : SharedDecoder}

/-- Everything but the frames that holds a reference, one entry for each. -/
def held (state : SharedDecoder) : List DecoderObject :=
  state.player.references ++ callReferences state.calls ++ state.queue.map .frame ++
    state.handedOut.map (fun entry => .frame entry.2) ++ (state.discarding.getD []).map .frame

/-- The references are those of the holders. -/
def Accounted (state : SharedDecoder) : Prop := state.objects.Accounted state.held

theorem accounted_build : build.Accounted where
  references := References.Balanced.nil.addRef DecoderObject.decoder
  alive_iff image := by simp [build, References.addRef_of_ne]
  created := .nil
  nodup := .nil
  intact := by simp [build]
  deletes := rfl

section Counts

variable (object : DecoderObject) {thread : Nat} {stage : OnMediaFrame}
  {calls : List (Nat × OnMediaFrame)}

/-- How often an object is held. -/
theorem count_held : state.held.count object = state.player.references.count object +
    (callReferences state.calls).count object + (state.queue.map .frame).count object +
    (state.handedOut.map fun entry => .frame entry.2).count object +
    ((state.discarding.getD []).map .frame).count object := by
  simp only [held, List.count_append]

theorem count_callReferences_cons (thread : Nat) (stage : OnMediaFrame) :
    (callReferences ((thread, stage) :: calls)).count object =
      stage.references.count object + (callReferences calls).count object := by
  rw [callReferences, List.flatMap_cons, List.count_append]
  rfl

/-- One of the calls apart. -/
theorem count_callReferences_erase (member : (thread, stage) ∈ calls) :
    (callReferences calls).count object = stage.references.count object +
      (callReferences (calls.erase (thread, stage))).count object := by
  rw [← count_callReferences_cons object thread]
  exact ((List.perm_cons_erase member).flatMap_right _).count_eq object

end Counts

theorem mem_held_of_call {thread : Nat} {stage : OnMediaFrame} {object : DecoderObject}
    (member : (thread, stage) ∈ state.calls) (holds : object ∈ stage.references) :
    object ∈ state.held := by
  have inCalls : object ∈ callReferences state.calls := List.mem_flatMap.mpr ⟨_, member, holds⟩
  simp [held, inCalls]

namespace Accounted

variable {thread consumer image : Nat}

theorem onMediaFrame (accounted : state.Accounted) (player : state.player = .held) :
    Accounted { state with
      objects := state.objects.addRef .decoder
      calls := (thread, .decoding) :: state.calls } := by
  have positive : 0 < state.objects.refCount .decoder :=
    accounted.positive (by simp [held, player, PlayerReference.references])
  apply (accounted.addRef positive).perm
  apply List.perm_iff_count.mpr
  intro object
  simp only [count_held, List.count_cons, count_callReferences_cons,
    OnMediaFrame.references_decoding, List.count_nil]
  omega

theorem decImageOutput (accounted : state.Accounted) (member : (thread, .decoding) ∈ state.calls)
    (fresh : image ∉ state.objects.created) :
    Accounted { state with
      objects := state.objects.createFrame image
      calls := state.advance thread .decoding (.delivering image) } := by
  have positive : 0 < state.objects.refCount .decoder :=
    accounted.positive (mem_held_of_call member (by simp))
  apply (accounted.createFrame fresh positive).perm
  apply List.perm_iff_count.mpr
  intro object
  simp only [count_held, List.count_cons, count_callReferences_erase object member, advance,
    count_callReferences_cons, OnMediaFrame.references_decoding,
    OnMediaFrame.references_delivering, List.count_nil]
  omega

theorem pushVideo (accounted : state.Accounted)
    (member : (thread, .delivering image) ∈ state.calls) :
    Accounted { state with
      objects := state.objects.addRef (.frame image)
      calls := state.advance thread (.delivering image) (.delivered image)
      queue := state.queue ++ [image] } := by
  have positive : 0 < state.objects.refCount (.frame image) :=
    accounted.positive (mem_held_of_call member (by simp))
  apply (accounted.addRef positive).perm
  apply List.perm_iff_count.mpr
  intro object
  simp only [count_held, List.count_cons, count_callReferences_erase object member, advance,
    count_callReferences_cons, OnMediaFrame.references_delivering,
    OnMediaFrame.references_delivered, List.count_nil, List.map_append, List.map_cons,
    List.map_nil, List.count_append]
  omega

theorem releaseOutput (accounted : state.Accounted) {stage : OnMediaFrame}
    (holds : stage = .delivering image ∨ stage = .delivered image)
    (member : (thread, stage) ∈ state.calls) :
    Accounted { state with
      objects := state.objects.release (.frame image)
      calls := state.advance thread stage .decoding } := by
  have references : stage.references = [.decoder, .frame image] := by
    rcases holds with rfl | rfl <;> rfl
  apply DecoderObjects.Accounted.release_frame
  apply accounted.perm
  apply List.perm_iff_count.mpr
  intro object
  simp only [count_held, List.count_cons, count_callReferences_erase object member, advance,
    count_callReferences_cons, references, OnMediaFrame.references_decoding, List.count_nil]
  omega

theorem endDecode (accounted : state.Accounted) (member : (thread, .decoding) ∈ state.calls) :
    Accounted { state with
      objects := state.objects.release .decoder
      calls := state.calls.erase (thread, .decoding) } := by
  apply DecoderObjects.Accounted.release_decoder
  apply accounted.perm
  apply List.perm_iff_count.mpr
  intro object
  simp only [count_held, List.count_cons, count_callReferences_erase object member,
    OnMediaFrame.references_decoding, List.count_nil]
  omega

/-- The reference goes from the queue to the consumer. -/
theorem videoFrame (accounted : state.Accounted) {rest : List Nat}
    (queue : state.queue = image :: rest) :
    Accounted { state with
      queue := rest
      handedOut := (consumer, image) :: state.handedOut } := by
  apply accounted.perm
  apply List.perm_iff_count.mpr
  intro object
  simp only [count_held, queue, List.map_cons, List.count_cons]
  omega

theorem releaseFrame (accounted : state.Accounted) (member : (consumer, image) ∈ state.handedOut) :
    Accounted { state with
      objects := state.objects.release (.frame image)
      handedOut := state.handedOut.erase (consumer, image) } := by
  apply DecoderObjects.Accounted.release_frame
  apply accounted.perm
  apply List.perm_iff_count.mpr
  intro object
  have split := (List.perm_cons_erase member).map fun entry => DecoderObject.frame entry.2
  simp only [count_held, List.count_cons, split.count_eq object, List.map_cons]
  omega

theorem destroySync (accounted : state.Accounted) (present : state.discarding = none) :
    Accounted { state with queue := [], discarding := some state.queue } := by
  apply accounted.perm
  apply List.perm_iff_count.mpr
  intro object
  simp only [count_held, present, Option.getD_none, Option.getD_some, List.map_nil, List.count_nil]
  omega

theorem discardFrame (accounted : state.Accounted) {rest : List Nat}
    (discarding : state.discarding = some (image :: rest)) :
    Accounted { state with
      objects := state.objects.release (.frame image), discarding := some rest } := by
  apply DecoderObjects.Accounted.release_frame
  apply accounted.perm
  apply List.perm_iff_count.mpr
  intro object
  simp only [count_held, discarding, Option.getD_some, List.map_cons, List.count_cons]
  omega

/-- `clear` takes the reference of the player and then gives it back. -/
theorem clear (accounted : state.Accounted) (player : state.player = .held) :
    Accounted { state with player := .clearing } := by
  have same : held { state with player := .clearing } = state.held := by
    simp only [held, player]
    rfl
  show state.objects.Accounted (held { state with player := .clearing })
  rw [same]
  exact accounted

theorem clearDecoder (accounted : state.Accounted) (player : state.player = .clearing) :
    Accounted { state with objects := state.objects.release .decoder, player := .given } := by
  apply DecoderObjects.Accounted.release_decoder
  apply accounted.perm
  apply List.perm_iff_count.mpr
  intro object
  simp only [count_held, player, PlayerReference.references, List.count_cons, List.count_nil]
  omega

end Accounted

theorem step_accounted {action : Action} (accounted : state.Accounted)
    (stepped : system.step state action = some next) : next.Accounted := by
  cases action <;> simp only [system, step, Option.ite_none_right_eq_some, Option.some.injEq]
    at stepped
  case onMediaFrame =>
    obtain ⟨⟨player, -⟩, rfl⟩ := stepped
    exact accounted.onMediaFrame player
  case decImageOutput =>
    obtain ⟨⟨member, fresh⟩, rfl⟩ := stepped
    exact accounted.decImageOutput member fresh
  case pushVideo =>
    obtain ⟨⟨member, -⟩, rfl⟩ := stepped
    exact accounted.pushVideo member
  case releaseOutput =>
    obtain ⟨⟨holds, member⟩, rfl⟩ := stepped
    exact accounted.releaseOutput holds member
  case endDecode =>
    obtain ⟨member, rfl⟩ := stepped
    exact accounted.endDecode member
  case videoFrame =>
    obtain ⟨front, rfl⟩ := stepped
    obtain ⟨rest, queue⟩ := List.head?_eq_some_iff.mp front
    rw [queue, List.tail_cons]
    exact accounted.videoFrame queue
  case releaseFrame =>
    obtain ⟨member, rfl⟩ := stepped
    exact accounted.releaseFrame member
  case destroySync =>
    obtain ⟨present, rfl⟩ := stepped
    exact accounted.destroySync present
  case discardFrame image =>
    -- the queue of the sync is emptied frame by frame
    split at stepped
    · rename_i first rest discarding
      rw [Option.ite_none_right_eq_some] at stepped
      obtain ⟨rfl, same⟩ := stepped
      cases same
      exact accounted.discardFrame discarding
    · cases stepped
  case clear =>
    obtain ⟨player, rfl⟩ := stepped
    exact accounted.clear player
  case clearDecoder =>
    obtain ⟨player, rfl⟩ := stepped
    exact accounted.clearDecoder player
  case releaseImage =>
    obtain ⟨member, rfl⟩ := stepped
    exact DecoderObjects.Accounted.releaseImage accounted member
  case releaseDecoder =>
    obtain ⟨member, rfl⟩ := stepped
    exact DecoderObjects.Accounted.releaseDecoder accounted member
  case tear =>
    obtain ⟨deleting, rfl⟩ := stepped
    exact DecoderObjects.Accounted.tear accounted deleting

theorem run_accounted {actions : List Action} {state : SharedDecoder}
    (ran : system.run build actions = some state) : state.Accounted :=
  system.run_invariant (fun _ _ _ accounted stepped => step_accounted accounted stepped)
    accounted_build ran

/-! ## Any run of any threads -/

/-- 1 while the player holds the decoder, which `clear` does until its release. -/
def playerHolds (state : SharedDecoder) : Nat := if state.player = .given then 0 else 1

theorem count_decoder_callReferences (calls : List (Nat × OnMediaFrame)) :
    (callReferences calls).count .decoder = calls.length := by
  induction calls with
  | nil => rfl
  | cons call calls ih =>
    obtain ⟨thread, stage⟩ := call
    have one : stage.references.count .decoder = 1 := by cases stage <;> rfl
    rw [count_callReferences_cons, ih, one, List.length_cons, Nat.add_comm]

theorem count_decoder_map_frame {α : Type} (image : α → Nat) (entries : List α) :
    (entries.map fun entry => DecoderObject.frame (image entry)).count .decoder = 0 := by
  apply List.count_eq_zero.mpr
  simp

namespace Accounted

theorem refCount_decoder (accounted : state.Accounted) : state.objects.refCount .decoder =
    state.playerHolds + state.calls.length + state.objects.live.length := by
  have player : state.player.references.count .decoder = state.playerHolds := by
    unfold playerHolds
    cases state.player <;> rfl
  have live : (state.objects.live.map fun _ => DecoderObject.decoder).count .decoder =
      state.objects.live.length := by
    rw [List.map_const', List.count_replicate_self]
  have frames : ∀ images : List Nat,
      (images.map DecoderObject.frame).count .decoder = 0 := count_decoder_map_frame id
  rw [accounted.references, List.count_append, live, count_held, player,
    count_decoder_callReferences, frames, count_decoder_map_frame Prod.snd, frames]
  omega

/-- A frame whose destructor has not begun is held by somebody. -/
theorem held_of_alive (accounted : state.Accounted) {image : Nat}
    (alive : image ∈ state.objects.alive) : .frame image ∈ state.held := by
  have positive := (accounted.alive_iff image).mp alive
  rw [accounted.references, List.count_append] at positive
  have notDecoder : (state.objects.live.map fun _ => DecoderObject.decoder).count
      (.frame image) = 0 := by
    apply List.count_eq_zero.mpr
    simp
  exact List.count_pos_iff.mp (by omega)

end Accounted

/-- Nothing that concerns the decoder is left to do. -/
structure Finished (state : SharedDecoder) : Prop where
  held : state.held = []
  dying : state.objects.dying = []
  parting : state.objects.parting = []
  deleting : state.objects.deleting = 0

/-- The decoder outlives its images. -/
structure OutlivesImages (state : SharedDecoder) : Prop where
  refCount : state.objects.refCount .decoder =
    state.playerHolds + state.calls.length + state.objects.live.length
  /-- The context is there when an image is released. -/
  intact : ∀ release ∈ state.objects.released, release.2 = false
  /-- Every image is in one of the three stages, once. -/
  stages : state.objects.created.Perm (state.objects.alive ++ state.objects.dying ++
    state.objects.released.map Prod.fst) ∧ state.objects.created.Nodup
  /-- Frames that nobody holds are being destroyed. -/
  alive : ∀ image ∈ state.objects.alive, .frame image ∈ state.held
  destroyed : state.objects.destroyed ≤ 1
  /-- When the context is destroyed every image was released, and nothing uses it any more. -/
  last : 0 < state.objects.destroyed →
    state.objects.created.Perm (state.objects.released.map Prod.fst) ∧ state.calls = [] ∧
      state.objects.live = []
  finished : state.Finished → state.objects.destroyed = 1

theorem Accounted.outlivesImages (accounted : state.Accounted) : state.OutlivesImages where
  refCount := accounted.refCount_decoder
  intact := accounted.intact
  stages := ⟨accounted.created, accounted.nodup⟩
  alive _ member := accounted.held_of_alive member
  destroyed := by
    have deletes := accounted.deletes
    split at deletes <;> omega
  last := by
    intro destroyed
    have counted := accounted.refCount_decoder
    -- no reference: then there is neither a call nor an image
    have gone : state.objects.refCount .decoder = 0 := by
      by_contra positive
      have notDestroyed := accounted.not_destroyed (Nat.pos_of_ne_zero positive)
      omega
    have calls : state.calls = [] := List.eq_nil_of_length_eq_zero (by omega)
    have live : state.objects.live = [] := List.eq_nil_of_length_eq_zero (by omega)
    have created := accounted.created
    simp only [DecoderObjects.live, List.append_eq_nil_iff] at live
    rw [live.1.1, live.1.2] at created
    exact ⟨created, calls, by simp [DecoderObjects.live, live]⟩
  finished := by
    intro finished
    have alive : state.objects.alive = [] := by
      apply List.eq_nil_iff_forall_not_mem.mpr
      intro image member
      have holder := accounted.held_of_alive member
      rw [finished.held] at holder
      cases holder
    have gone : state.objects.refCount .decoder = 0 := by
      rw [accounted.references, finished.held, DecoderObjects.live, alive, finished.dying,
        finished.parting]
      rfl
    have deletes := accounted.deletes
    rw [if_pos gone, finished.deleting] at deletes
    omega

/-- Whatever the order of the sections, the images are released in time and the context is
destroyed once, after the last of them. -/
theorem decoder_outlives_images (actions : List Action) (state : SharedDecoder)
    (ran : system.run build actions = some state) : state.OutlivesImages :=
  (run_accounted ran).outlivesImages

/-- The player is cleared while a renderer still has the frame, which destroys the decoder. -/
def clearedFirst : List Action :=
  [.onMediaFrame 1, .decImageOutput 1 7, .pushVideo 1 7, .releaseOutput 1 7 (.delivered 7),
    .clear, .videoFrame 2 7, .clearDecoder, .endDecode 1, .releaseFrame 2 7, .releaseImage 7,
    .releaseDecoder 7, .tear]

theorem clearedFirst_outlivesImages : ∃ state, system.run build clearedFirst = some state ∧
    state.objects.released = [(7, false)] ∧ state.objects.destroyed = 1 ∧
      state.OutlivesImages := by
  have ran : ∃ state, system.run build clearedFirst = some state ∧
      (state.objects.released, state.objects.destroyed) = ([(7, false)], 1) := by
    apply Option.map_eq_some_iff.mp
    decide
  obtain ⟨state, ran, facts⟩ := ran
  obtain ⟨released, destroyed⟩ := Prod.mk.inj facts
  exact ⟨state, ran, released, destroyed, decoder_outlives_images clearedFirst state ran⟩

end SharedDecoder

end RtpPlayer
