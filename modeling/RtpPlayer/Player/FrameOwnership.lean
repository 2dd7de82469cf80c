import RtpPlayer.Player.SharedSync

/-! # Who owns the frames

Every reference to a frame is held by a producer, by an entry of a queue or by a consumer, and every
frame pushed is returned, discarded by the destructor or still in its queue, in the order of the
pushes.  Each section of each thread keeps this. -/

namespace RtpPlayer

open Foundations

namespace SharedSync

/-- Everything that holds a reference, one entry for each. -/
def holders (state : SharedSync) : List AVFrame :=
  state.produced.map Prod.snd ++ state.sync.videoFrames ++ state.sync.audioFrames ++
    state.handedOut.map Prod.snd

structure Owned (state : SharedSync) : Prop where
  references : state.refCount.Balanced state.holders
  video : state.returnedVideo ++ state.discardedVideo ++ state.sync.videoFrames = state.pushedVideo
  audio : state.returnedAudio ++ state.discardedAudio ++ state.sync.audioFrames = state.pushedAudio
  kept : state.destroyed = false → state.discardedVideo = [] ∧ state.discardedAudio = []

theorem owned_create : create.Owned where
  references := References.Balanced.nil
  video := rfl
  audio := rfl
  kept := fun _ => ⟨rfl, rfl⟩

namespace Owned

variable {state next : SharedSync} {producer consumer : Nat} {frame : AVFrame}

theorem video_eq (owned : state.Owned) (alive : state.destroyed = false) :
    state.returnedVideo ++ state.sync.videoFrames = state.pushedVideo := by
  have video := owned.video
  rwa [(owned.kept alive).1, List.append_nil] at video

theorem audio_eq (owned : state.Owned) (alive : state.destroyed = false) :
    state.returnedAudio ++ state.sync.audioFrames = state.pushedAudio := by
  have audio := owned.audio
  rwa [(owned.kept alive).2, List.append_nil] at audio

/-- A producer takes a reference. -/
theorem addRef (owned : state.Owned) :
    Owned { state with
      refCount := state.refCount.addRef frame
      produced := (producer, frame) :: state.produced } where
  references := owned.references.addRef frame
  video := owned.video
  audio := owned.audio
  kept := owned.kept

/-- A producer gives a reference back. -/
theorem release (owned : state.Owned) (held : (producer, frame) ∈ state.produced) :
    Owned { state with
      refCount := state.refCount.release frame
      produced := state.produced.erase (producer, frame) } where
  references := by
    apply References.Balanced.release
    apply owned.references.perm
    have moved := (List.perm_cons_erase held).map Prod.snd
    simp only [holders, List.append_assoc, ← List.cons_append]
    exact moved.append_right _
  video := owned.video
  audio := owned.audio
  kept := owned.kept

/-- A consumer gives a reference back. -/
theorem releaseFrame (owned : state.Owned) (held : (consumer, frame) ∈ state.handedOut) :
    Owned { state with
      refCount := state.refCount.release frame
      handedOut := state.handedOut.erase (consumer, frame) } where
  references := by
    apply References.Balanced.release
    apply owned.references.perm
    have moved := (List.perm_cons_erase held).map Prod.snd
    simp only [holders]
    exact (moved.append_left _).trans List.perm_middle
  video := owned.video
  audio := owned.audio
  kept := owned.kept

/-- The entry of the queue holds the reference that the push adds. -/
theorem queueVideo (owned : state.Owned) (alive : state.destroyed = false)
    (pushing : List (Nat × PushVideo)) :
    Owned { state with
      sync := state.sync.queueVideo frame
      refCount := state.refCount.addRef frame
      pushing := pushing
      pushedVideo := state.pushedVideo ++ [frame] } where
  references := by
    apply (owned.references.addRef frame).perm
    apply List.perm_iff_count.mpr
    intro other
    simp only [holders, AVSync.queueVideo, List.count_append, List.count_cons, List.count_nil]
    omega
  video := by
    simp [← owned.video_eq alive, (owned.kept alive).1, AVSync.queueVideo]
  audio := owned.audio
  kept := owned.kept

theorem pushAudio (owned : state.Owned) (alive : state.destroyed = false) :
    Owned { state with
      sync := state.sync.pushAudio frame
      refCount := state.refCount.addRef frame
      pushedAudio := state.pushedAudio ++ [frame] } where
  references := by
    apply (owned.references.addRef frame).perm
    apply List.perm_iff_count.mpr
    intro other
    simp only [holders, AVSync.pushAudio, List.count_append, List.count_cons, List.count_nil]
    omega
  video := owned.video
  audio := by
    simp [← owned.audio_eq alive, (owned.kept alive).2, AVSync.pushAudio]
  kept := owned.kept

/-- The consumer gets the reference of the entry that was popped. -/
theorem videoFrame (owned : state.Owned) (alive : state.destroyed = false) {clockMs : Int32}
    {call : AVSync.FrameCall} (called : state.sync.videoFrame clockMs = some call) :
    Owned { state.handOut consumer call with
      returnedVideo := state.returnedVideo ++ call.frame.toList } where
  references := by
    apply owned.references.perm
    apply List.perm_iff_count.mpr
    intro other
    simp only [holders, handOut, ← AVSync.videoFrame_queue called,
      AVSync.videoFrame_audioFrames called, List.map_append, List.map_map, Function.comp_def,
      List.map_id', List.count_append]
    omega
  video := by
    have video := owned.video_eq alive
    rw [← AVSync.videoFrame_queue called] at video
    simp [handOut, (owned.kept alive).1, ← video]
  audio := by
    have audio := owned.audio
    rwa [← AVSync.videoFrame_audioFrames called] at audio
  kept := owned.kept

theorem audioFrame (owned : state.Owned) (alive : state.destroyed = false) :
    Owned { state.handOut consumer state.sync.audioFrame with
      returnedAudio := state.returnedAudio ++ state.sync.audioFrame.frame.toList } where
  references := by
    apply owned.references.perm
    have queue := AVSync.audioFrame_queue state.sync
    apply List.perm_iff_count.mpr
    intro other
    simp only [holders, handOut, AVSync.audioFrame_videoFrames, ← queue, List.map_append,
      List.map_map, Function.comp_def, List.map_id', List.count_append]
    omega
  video := by
    have video := owned.video
    rwa [← AVSync.audioFrame_videoFrames] at video
  audio := by
    have audio := owned.audio_eq alive
    rw [← AVSync.audioFrame_queue] at audio
    simp [handOut, (owned.kept alive).2, ← audio]
  kept := owned.kept

/-- The destructor gives back the references of the entries. -/
theorem destroy (owned : state.Owned) (alive : state.destroyed = false) :
    Owned { state with
      sync := (state.sync.destroy state.refCount).1
      destroyed := true
      refCount := (state.sync.destroy state.refCount).2
      discardedVideo := state.sync.videoFrames
      discardedAudio := state.sync.audioFrames } where
  references := by
    simp only [AVSync.destroy, ← References.releaseAll_append]
    apply References.Balanced.releaseAll
    apply owned.references.perm
    apply List.perm_iff_count.mpr
    intro other
    simp only [holders, List.append_nil, List.count_append]
    omega
  video := by simpa [AVSync.destroy] using owned.video_eq alive
  audio := by simpa [AVSync.destroy] using owned.audio_eq alive
  kept := by
    intro alive
    cases alive

end Owned

theorem step_owned {state next : SharedSync} {action : Action} (owned : state.Owned)
    (stepped : system.step state action = some next) : next.Owned := by
  cases action <;> simp only [system, step, Option.ite_none_right_eq_some, Option.some.injEq,
    Bool.not_eq_true, Option.map_eq_some_iff] at stepped
  case create =>
    obtain ⟨-, rfl⟩ := stepped
    exact owned.addRef
  case addRef =>
    obtain ⟨-, rfl⟩ := stepped
    exact owned.addRef
  case release =>
    obtain ⟨⟨held, -⟩, rfl⟩ := stepped
    exact owned.release held
  case queueVideo =>
    obtain ⟨⟨alive, -⟩, rfl⟩ := stepped
    exact owned.queueVideo alive _
  -- three operations leave the references and the queues alone
  case measureLatency =>
    obtain ⟨-, rfl⟩ := stepped
    exact ⟨owned.references, owned.video, owned.audio, owned.kept⟩
  case stopBuffering producer latency =>
    obtain ⟨-, rfl⟩ := stepped
    rw [AVSync.stopBuffering_eq]
    exact ⟨owned.references, owned.video, owned.audio, owned.kept⟩
  case pushAudio =>
    obtain ⟨⟨alive, -⟩, rfl⟩ := stepped
    exact owned.pushAudio alive
  case videoFrame =>
    obtain ⟨alive, call, called, rfl⟩ := stepped
    exact owned.videoFrame alive called
  case audioFrame =>
    obtain ⟨alive, rfl⟩ := stepped
    exact owned.audioFrame alive
  case releaseFrame =>
    obtain ⟨⟨-, held⟩, rfl⟩ := stepped
    exact owned.releaseFrame held
  case setClock =>
    obtain ⟨-, rfl⟩ := stepped
    exact ⟨owned.references, owned.video, owned.audio, owned.kept⟩
  case destroy =>
    obtain ⟨⟨alive, -⟩, rfl⟩ := stepped
    exact owned.destroy alive

theorem run_owned {actions : List Action} {state : SharedSync}
    (ran : system.run create actions = some state) : state.Owned :=
  system.run_invariant (fun _ _ _ owned stepped => step_owned owned stepped) owned_create ran

/-! ## Buffering -/

/-- Only a synchroniser that is not buffering returns a frame. -/
theorem step_playing {state next : SharedSync} {action : Action}
    (stepped : system.step state action = some next)
    (returned : next.returnedVideo ≠ state.returnedVideo ∨
      next.returnedAudio ≠ state.returnedAudio) : state.sync.buffering = false := by
  cases action <;> simp only [system, step, Option.ite_none_right_eq_some, Option.some.injEq,
    Option.map_eq_some_iff] at stepped
  case videoFrame =>
    obtain ⟨-, call, called, rfl⟩ := stepped
    apply AVSync.videoFrame_playing called
    intro nothing
    simp [handOut, nothing] at returned
  case audioFrame =>
    obtain ⟨-, rfl⟩ := stepped
    apply AVSync.audioFrame_playing
    intro nothing
    simp [handOut, nothing] at returned
  all_goals
    obtain ⟨-, rfl⟩ := stepped
    simp at returned

/-! ## The destructor -/

/-- What the destructor releases, in its order. -/
def queued (state : SharedSync) : List AVFrame := state.sync.videoFrames ++ state.sync.audioFrames

theorem destroy_refCount {state next : SharedSync}
    (stepped : system.step state .destroy = some next) :
    next.refCount = state.refCount.releaseAll state.queued := by
  simp only [system, step, Option.ite_none_right_eq_some, Option.some.injEq] at stepped
  obtain ⟨-, rfl⟩ := stepped
  exact (References.releaseAll_append ..).symm

theorem Owned.queued_perm {state : SharedSync} (owned : state.Owned) :
    state.refCount.Balanced (state.queued ++
      (state.produced.map Prod.snd ++ state.handedOut.map Prod.snd)) := by
  apply owned.references.perm
  apply List.perm_iff_count.mpr
  intro other
  simp only [holders, queued, List.count_append]
  omega

/-- A release in the destructor finds its frame alive. -/
def ReleasesEachOnce (state next : SharedSync) : Prop :=
  (∀ before frame after, state.queued = before ++ frame :: after →
    0 < state.refCount.releaseAll before frame) ∧
  ∀ frame, next.refCount frame + state.queued.count frame = state.refCount frame

theorem Owned.releasesEachOnce {state next : SharedSync} (owned : state.Owned)
    (stepped : system.step state .destroy = some next) : state.ReleasesEachOnce next := by
  have balanced := owned.queued_perm
  constructor
  · intro before frame after split
    exact balanced.alive_at_each_release split
  · intro frame
    rw [destroy_refCount stepped, balanced.releaseAll frame, balanced frame]
    simp only [List.count_append]
    omega

/-! ## Any run of any threads -/

theorem frames_in_order_and_references_balanced (actions : List Action) (state : SharedSync)
    (ran : system.run create actions = some state) :
    state.returnedVideo ++ state.discardedVideo ++ state.sync.videoFrames = state.pushedVideo ∧
      state.returnedAudio ++ state.discardedAudio ++ state.sync.audioFrames = state.pushedAudio ∧
      (state.destroyed = false → state.discardedVideo = [] ∧ state.discardedAudio = []) ∧
      (∀ frame, state.refCount frame =
        (state.produced.map Prod.snd).count frame + state.sync.videoFrames.count frame +
          state.sync.audioFrames.count frame + (state.handedOut.map Prod.snd).count frame) ∧
      (∀ action next, system.step state action = some next →
        next.returnedVideo ≠ state.returnedVideo ∨ next.returnedAudio ≠ state.returnedAudio →
          state.sync.buffering = false) ∧
      ∀ next, system.step state .destroy = some next → state.ReleasesEachOnce next := by
  have owned := run_owned ran
  refine ⟨owned.video, owned.audio, owned.kept, ?_, ?_, ?_⟩
  · intro frame
    rw [owned.references frame]
    simp only [holders, List.count_append]
  · intro action next stepped returned
    exact step_playing stepped returned
  · intro next stepped
    exact owned.releasesEachOnce stepped

/-- Two producers and a consumer: the second push ends the buffering. -/
def twoProducers : List Action :=
  [.create 1 ⟨16, 0⟩, .create 2 ⟨32, 90000⟩, .queueVideo 1 ⟨16, 0⟩, .queueVideo 2 ⟨32, 90000⟩,
    .measureLatency 2, .measureLatency 1, .stopBuffering 2 1000, .videoFrame 3 40,
    .stopBuffering 1 1000, .release 1 ⟨16, 0⟩, .releaseFrame 3 ⟨16, 0⟩]

theorem frames_in_order_twoProducers :
    ∃ state, system.run create twoProducers = some state ∧ state.returnedVideo = [⟨16, 0⟩] ∧
      state.returnedVideo ++ state.discardedVideo ++ state.sync.videoFrames = state.pushedVideo :=
  ⟨_, rfl, rfl, (frames_in_order_and_references_balanced twoProducers _ rfl).1⟩

end SharedSync

end RtpPlayer
