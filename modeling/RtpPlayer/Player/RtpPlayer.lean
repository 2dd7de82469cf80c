import RtpPlayer.Foundations.Machine
import RtpPlayer.Foundations.Procedure
import RtpPlayer.Player.AVSync

/-! # The player

The model of `Player/RtpPlayer`, `BasePlayer`, `VideoPlayer` and `AudioPlayer`: what they own, and
what they do to it one step after the other.  The video and the audio side are one definition with
the side as a parameter wherever the source says the same twice. -/

namespace RtpPlayer

open Foundations

/-- `RTP_MEDIA_TYPE` -/
inductive RtpMediaType where
  | invalid
  | audioAac
  | audioOpus
  | videoAvc
  | videoVp8
  deriving DecidableEq

inductive StreamKind where
  | video
  | audio
  deriving DecidableEq

/-- An `AVOut` object. -/
structure Renderer where
  kind : StreamKind
  /-- `m_source` is set, to the one synchroniser there is. -/
  source : Bool
  /-- The thread of `Spawn` is in `Svc`. -/
  running : Bool
  deriving DecidableEq

/-- The pointers of a `BasePlayer`, true where they are not null. -/
structure BasePlayer where
  stream : Bool
  decoder : Bool
  renderer : Option Nat
  avSync : Bool
  deriving DecidableEq

/-- What the environment answers at each stage of a `play_video` or `play_audio`. -/
structure PlayStages where
  playerAllocated : Bool
  rendererCreated : Bool
  threadSpawned : Bool
  decoderCreated : Bool
  decoderBuilt : Bool
  streamCreated : Bool
  mediaSet : Bool
  deriving DecidableEq

/-- An `RtpPlayer` and the objects it owns.  An address is never used again. -/
structure PlayerState where
  /-- `m_video_player` and `m_audio_player` -/
  player : StreamKind → Option BasePlayer
  /-- `m_av_sync` is not null. -/
  avSync : Bool
  sync : AVSync
  /-- The references to the synchroniser that the player and its parts hold. -/
  syncRefs : Nat
  /-- Some reference was given back that was not held. -/
  overReleased : Bool
  renderers : Nat → Option Renderer
  nextAddress : Nat
  streams : Nat
  decoders : Nat

namespace PlayerState

/-- The constructor of the player. -/
def create : PlayerState where
  player := fun _ => none
  avSync := false
  sync := .create
  syncRefs := 0
  overReleased := false
  renderers := fun _ => none
  nextAddress := 0
  streams := 0
  decoders := 0

def setPlayer (kind : StreamKind) (player : Option BasePlayer) (state : PlayerState) :
    PlayerState :=
  { state with player := Function.update state.player kind player }

def addRefSync (state : PlayerState) : PlayerState :=
  { state with syncRefs := state.syncRefs + 1 }

def releaseSync (state : PlayerState) : PlayerState :=
  if state.syncRefs = 0 then
    { state with overReleased := true }
  else
    { state with syncRefs := state.syncRefs - 1 }

/-! ## Renderers, decoders and streams -/

def updateRenderer (address : Nat) (renderer : Option Renderer) (state : PlayerState) :
    PlayerState :=
  { state with renderers := Function.update state.renderers address renderer }

/-- `VideoOut::create_instance` and `AudioOut::create_instance` -/
def createRenderer (kind : StreamKind) (state : PlayerState) : PlayerState :=
  { state.updateRenderer state.nextAddress
      (some { kind := kind, source := false, running := false }) with
    nextAddress := state.nextAddress + 1 }

def changeRenderer (address : Nat) (change : Renderer → Renderer) (state : PlayerState) :
    PlayerState :=
  state.updateRenderer address ((state.renderers address).map change)

def setSource (address : Nat) (source : Bool) : PlayerState → PlayerState :=
  changeRenderer address fun renderer => { renderer with source := source }

/-- `start` does not look at whether `Spawn` made a thread. -/
def startRenderer (address : Nat) (spawned : Bool) : PlayerState → PlayerState :=
  changeRenderer address fun renderer => { renderer with running := spawned }

/-- `stop` waits for the thread to end. -/
def stopRenderer (address : Nat) : PlayerState → PlayerState :=
  changeRenderer address fun renderer => { renderer with running := false }

/-- The player holds the only reference to its renderer. -/
def releaseRenderer (address : Nat) : PlayerState → PlayerState :=
  updateRenderer address none

def createDecoder (state : PlayerState) : PlayerState :=
  { state with decoders := state.decoders + 1 }

def releaseDecoder (state : PlayerState) : PlayerState :=
  { state with decoders := state.decoders - 1 }

def createStream (state : PlayerState) : PlayerState :=
  { state with streams := state.streams + 1 }

def releaseStream (state : PlayerState) : PlayerState :=
  { state with streams := state.streams - 1 }

def setClock (clock : Option AVClock) (state : PlayerState) : PlayerState :=
  { state with sync := state.sync.setClock clock }

end PlayerState

open PlayerState Procedure

namespace BasePlayer

def create : BasePlayer where
  stream := false
  decoder := false
  renderer := none
  avSync := false

/-- `if (pointer) pointer->release()` -/
def releaseIf (held : Bool) (release : PlayerState → PlayerState) : Procedure PlayerState Unit :=
  if held then modify release else pure ()

/-- What is to be released was taken from the player under its lock. -/
def clear (taken : BasePlayer) : Procedure PlayerState BasePlayer := do
  releaseIf taken.stream releaseStream
  releaseIf taken.decoder releaseDecoder
  releaseIf taken.renderer.isSome (stopRenderer (taken.renderer.getD 0))
  releaseIf taken.renderer.isSome (releaseRenderer (taken.renderer.getD 0))
  releaseIf taken.avSync releaseSync
  return create

/-- The label `fail` of `build`. -/
def fail (player : BasePlayer) : Procedure PlayerState (Bool × BasePlayer) := do
  let player ← player.clear
  return (false, player)

/-- The stages after the renderer has started. -/
def buildStream (player : BasePlayer) (stages : PlayStages) :
    Procedure PlayerState (Bool × BasePlayer) :=
  if ¬ stages.decoderCreated then
    player.fail
  else do
    modify createDecoder
    let player := { player with decoder := true }
    if ¬ stages.decoderBuilt then
      player.fail
    else if ¬ stages.streamCreated then
      player.fail
    else do
      modify createStream
      let player := { player with stream := true }
      if ¬ stages.mediaSet then
        player.fail
      else do
        modify addRefSync
        return (true, { player with avSync := true })

/-- `VideoPlayer::build` and `AudioPlayer::build`, where `sync` says that it is not null. -/
def build (player : BasePlayer) (kind : StreamKind) (supported sync : Bool)
    (stages : PlayStages) : Procedure PlayerState (Bool × BasePlayer) :=
  if ¬ supported then
    return (false, player)
  else if ¬ stages.rendererCreated then
    player.fail
  else do
    let state ← get
    let address := state.nextAddress
    modify (createRenderer kind)
    let player := { player with renderer := some address }
    modify (setSource address sync)
    if ¬ sync then
      -- `start` needs a source
      player.fail
    else do
      modify (startRenderer address stages.threadSpawned)
      player.buildStream stages

end BasePlayer

namespace VideoPlayer

def supports (media : RtpMediaType) : Bool := media = .videoAvc ∨ media = .videoVp8

def build (sync : Bool) (media : RtpMediaType) (stages : PlayStages) :
    Procedure PlayerState (Bool × BasePlayer) :=
  BasePlayer.create.build .video (supports media) sync stages

end VideoPlayer

namespace AudioPlayer

def supports (media : RtpMediaType) : Bool := media = .audioAac ∨ media = .audioOpus

def build (sync : Bool) (media : RtpMediaType) (stages : PlayStages) :
    Procedure PlayerState (Bool × BasePlayer) :=
  BasePlayer.create.build .audio (supports media) sync stages

end AudioPlayer

namespace PlayerState

/-- `RtpPlayer::build`, where `created` says whether the synchroniser could be created. -/
def build (created : Bool) : Procedure PlayerState Bool := do
  modify fun state => { state with avSync := created, syncRefs := if created then 1 else 0 }
  return created

/-- What `play_video` and `play_audio` do around the `build` of their player. -/
def play (kind : StreamKind) (stages : PlayStages)
    (build : Bool → Procedure PlayerState (Bool × BasePlayer)) : Procedure PlayerState Bool := do
  let state ← get
  if (state.player kind).isSome then
    return false
  else if ¬ stages.playerAllocated then
    return false
  else do
    modify (setPlayer kind (some BasePlayer.create))
    let built ← build state.avSync
    if built.1 then do
      modify (setPlayer kind (some built.2))
      return true
    else do
      -- the destructor tears the player down again
      let _ ← built.2.clear
      modify (setPlayer kind none)
      return false

def playVideo (media : RtpMediaType) (stages : PlayStages) : Procedure PlayerState Bool :=
  play .video stages fun sync => VideoPlayer.build sync media stages

def playAudio (media : RtpMediaType) (stages : PlayStages) : Procedure PlayerState Bool := do
  let played ← play .audio stages fun sync => AudioPlayer.build sync media stages
  if played then do
    let state ← get
    modify (setClock (((state.player .audio).bind BasePlayer.renderer).map AVClock.audioOut))
    return true
  else
    return false

/-- `remove_video` and `remove_audio`: `tear`, and in `release` the destructor, which tears
again. -/
def remove (kind : StreamKind) : Procedure PlayerState Unit := do
  let state ← get
  modify (setPlayer kind none)
  match state.player kind with
  | none => return ()
  | some player => do
    let player ← player.clear
    let _ ← player.clear
    return ()

def removeVideo : Procedure PlayerState Unit := remove .video

def removeAudio : Procedure PlayerState Unit := remove .audio

def tear : Procedure PlayerState Unit := do
  removeVideo
  removeAudio
  let state ← get
  modify fun state => { state with avSync := false }
  BasePlayer.releaseIf state.avSync releaseSync

inductive Operation where
  | playVideo (media : RtpMediaType) (stages : PlayStages)
  | playAudio (media : RtpMediaType) (stages : PlayStages)
  | removeVideo
  | removeAudio
  | tear

def perform : Operation → Procedure PlayerState Bool
  | .playVideo media stages => PlayerState.playVideo media stages
  | .playAudio media stages => PlayerState.playAudio media stages
  | .removeVideo => do
    PlayerState.removeVideo
    return true
  | .removeAudio => do
    PlayerState.removeAudio
    return true
  | .tear => do
    PlayerState.tear
    return true

/-- Each operation puts out its result and the states it passes, the one it leaves at the end. -/
def machine : Machine PlayerState Operation (Bool × List PlayerState) where
  step state operation := ((perform operation).final state,
    ((perform operation).value state,
      (perform operation).passed state ++ [(perform operation).final state]))

/-- A step passes what its operation passes, and what that leaves. -/
theorem forall_moments {property : PlayerState → Prop} {state : PlayerState}
    {operation : Operation} (passes : ∀ moment ∈ (perform operation).passed state, property moment)
    (leaves : property ((perform operation).final state)) :
    ∀ moment ∈ (machine.step state operation).2.2, property moment := by
  intro moment member
  rcases List.mem_append.mp member with passed | final
  · exact passes moment passed
  · rw [List.mem_singleton.mp final]
    exact leaves

/-- The player once `build` has run. -/
def built (created : Bool) : PlayerState := (build created).final create

end PlayerState

end RtpPlayer
