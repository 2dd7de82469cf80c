import RtpPlayer.Foundations.Transitions
import RtpPlayer.Player.RtpPlayer

/-! # A player and its delivery thread

The thread that delivers the frames of the stream decodes them and hands them to the synchroniser.
It takes the lock of the player twice for each, and another thread may clear the player in
between: `clear` takes the pointers under the lock, and waits for the delivery thread only
afterwards, when it releases the stream. -/

namespace RtpPlayer

open Foundations

/-- What a decoder puts out, a picture or samples. -/
structure DecodedFrame where
  isVideo : Bool
  width : Int
  height : Int
  sampleRate : Int
  channels : Int
  bitsPerSample : Int
  pts : UInt32
  deriving DecidableEq

namespace StreamKind

/-- The fields of a frame that the player keeps, and checks before. -/
def format (kind : StreamKind) (frame : DecodedFrame) : List Int :=
  match kind with
  | .video => [frame.width, frame.height]
  | .audio => [frame.sampleRate, frame.channels, frame.bitsPerSample]

/-- The fields after `build` and `tear`. -/
def noFormat : StreamKind → List Int
  | .video => [0, 0]
  | .audio => [0, 0, 0]

/-- `on_decoder_output` calls `on_decoded_image` for a picture and `on_decoded_pcm` for samples;
each player has its own for one of them, and only a log entry for the other. -/
def Handles : StreamKind → DecodedFrame → Prop
  | .video, frame => frame.isVideo = true
  | .audio, frame => frame.isVideo = false

instance : (kind : StreamKind) → (frame : DecodedFrame) → Decidable (kind.Handles frame)
  | .video, frame => inferInstanceAs (Decidable (frame.isVideo = true))
  | .audio, frame => inferInstanceAs (Decidable (frame.isVideo = false))

end StreamKind

/-- Where the thread that owns the player is. -/
inductive PlayerOwner where
  | constructed
  | playing
  /-- In `clear`, after the section under the lock. -/
  | clearing (taken : BasePlayer)
  /-- `clear` has released what it took. -/
  | cleared
  deriving DecidableEq

/-- Where the delivery thread is. -/
inductive Delivery where
  | notStarted
  | idle
  /-- In `decode`, between two frames that it puts out. -/
  | decoding
  /-- Before the lock in `on_decoded_image` or `on_decoded_pcm`, with a frame that passed the
  checks. -/
  | decoded (frame : DecodedFrame)
  /-- After that section; `held` says whether it found a synchroniser. -/
  | pushing (held : Bool)
  | joined
  deriving DecidableEq

/-- The delivery thread is in no callback. -/
def Delivery.Quiet (delivery : Delivery) : Prop := delivery = .notStarted ∨ delivery = .idle

instance (delivery : Delivery) : Decidable delivery.Quiet :=
  inferInstanceAs (Decidable (delivery = .notStarted ∨ delivery = .idle))

structure PlayerThreads where
  kind : StreamKind
  pointers : BasePlayer
  /-- `m_width` and `m_height`, or `m_sample_rate`, `m_channels` and `m_bits_per_sample`. -/
  format : List Int
  startTs : UInt32
  owner : PlayerOwner
  delivery : Delivery
  /-- For each use of `m_av_sync`, whether it was not null. -/
  dereferenced : List Bool
  deriving DecidableEq

namespace PlayerThreads

/-- The constructors set the pointers only. -/
def create (kind : StreamKind) (format : List Int) (startTs : UInt32) : PlayerThreads where
  kind := kind
  pointers := .create
  format := format
  startTs := startTs
  owner := .constructed
  delivery := .notStarted
  dereferenced := []

inductive Action where
  | build (supported sync : Bool) (stages : PlayStages)
  /-- The section of `clear` under the lock. -/
  | clear
  /-- The releases of `clear`; `last` says that the player had the last reference to the stream. -/
  | releaseTaken (last : Bool)
  /-- The last reference to a stream that was not the player's is given back. -/
  | join
  /-- The end of `tear`. -/
  | resetFormat
  | onMediaFrame
  | onDecoderOutput (frame : Option DecodedFrame)
  /-- The section of `on_decoded_image` or `on_decoded_pcm` under the lock. -/
  | onDecoded
  | push
  | endDecode

/-- The section of `on_decoded_image` or `on_decoded_pcm` under the lock. -/
def takeFormat (state : PlayerThreads) (frame : DecodedFrame) : PlayerThreads :=
  { state with
    -- the log entry of the first frame asks the synchroniser for its latency
    startTs := if 0 ∈ state.format then frame.pts else state.startTs
    dereferenced := state.dereferenced ++
      (if 0 ∈ state.format then [state.pointers.avSync] else []) ++
      (if state.pointers.avSync then [true] else [])
    format := state.kind.format frame
    delivery := .pushing state.pointers.avSync }

def step (state : PlayerThreads) : Action → Option PlayerThreads
  | .build supported sync stages =>
    if state.owner = .constructed then
      let built := (state.pointers.build state.kind supported sync stages).value PlayerState.create
      if built.1 then
        some { state with
          pointers := built.2
          format := state.kind.noFormat
          owner := .playing
          delivery := .idle }
      else
        -- no thread was started; a build that came past the check of the codec tears
        some { state with
          pointers := built.2
          format := if supported then state.kind.noFormat else state.format }
    else none
  | .clear =>
    match state.owner with
    | .clearing _ => none
    | _ => some { state with pointers := .create, owner := .clearing state.pointers }
  | .releaseTaken last =>
    match state.owner with
    | .clearing taken =>
      if taken.stream ∧ last then
        if state.delivery.Quiet then
          some { state with owner := .cleared, delivery := .joined }
        else none
      else some { state with owner := .cleared }
    | _ => none
  | .join =>
    if state.owner = .cleared ∧ state.delivery.Quiet then
      some { state with delivery := .joined }
    else none
  | .resetFormat =>
    if state.owner = .cleared then some { state with format := state.kind.noFormat } else none
  | .onMediaFrame =>
    if state.delivery = .idle then
      some { state with delivery := if state.pointers.decoder then .decoding else .idle }
    else none
  | .onDecoderOutput frame =>
    if state.delivery = .decoding then
      match frame with
      | none => some state
      | some frame =>
        if state.kind.Handles frame ∧ ∀ field ∈ state.kind.format frame, 0 < field then
          some { state with delivery := .decoded frame }
        else some state
    else none
  | .onDecoded =>
    match state.delivery with
    | .decoded frame => some (state.takeFormat frame)
    | _ => none
  | .push =>
    match state.delivery with
    | .pushing _ => some { state with delivery := .decoding }
    | _ => none
  | .endDecode =>
    if state.delivery = .decoding then some { state with delivery := .idle } else none

def system : Transitions PlayerThreads Action where
  step := step

/-! ## The synchroniser while frames are delivered -/

/-- The synchroniser was there whenever it was used. -/
def NeverNull (state : PlayerThreads) : Prop := ∀ found ∈ state.dereferenced, found = true

/-- The first frame is not taken after `clear` took the pointers. -/
def FirstFrameInTime (state : PlayerThreads) : Action → Prop
  | .onDecoded => 0 ∈ state.format → state.owner = .playing
  | _ => True

/-- The player has its synchroniser from the end of `build` to `clear`. -/
def Synced (state : PlayerThreads) : Prop :=
  state.pointers.avSync = true ↔ state.owner = .playing

theorem synced_create (kind : StreamKind) (format : List Int) (startTs : UInt32) :
    (create kind format startTs).Synced := by
  simp [Synced, create, BasePlayer.create]

theorem avSync_buildStream (player : BasePlayer) (stages : PlayStages) (state : PlayerState) :
    ((player.buildStream stages).value state).2.avSync =
      ((player.buildStream stages).value state).1 := by
  unfold BasePlayer.buildStream
  split
  · rfl
  · rw [Procedure.value_bind]
    split
    · rfl
    · split
      · rfl
      · rw [Procedure.value_bind]
        split <;> rfl

/-- A build sets the synchroniser where it succeeds, and leaves none where it does not. -/
theorem avSync_build {player : BasePlayer} (bare : player.avSync = false) (kind : StreamKind)
    (supported sync : Bool) (stages : PlayStages) (state : PlayerState) :
    ((player.build kind supported sync stages).value state).2.avSync =
      ((player.build kind supported sync stages).value state).1 := by
  unfold BasePlayer.build
  split
  · exact bare
  · split
    · rfl
    · simp only [Procedure.value_bind]
      split
      · rfl
      · rw [Procedure.value_bind]
        exact avSync_buildStream _ stages _

/-- Only the section of the decode callbacks uses the synchroniser. -/
theorem Synced.step {state next : PlayerThreads} {action : Action} (synced : state.Synced)
    (stepped : state.step action = some next) :
    next.Synced ∧ (action ≠ .onDecoded ∧ next.dereferenced = state.dereferenced ∨
      action = .onDecoded ∧ ∃ frame, next = state.takeFormat frame) := by
  cases action with
  | build supported sync stages =>
    simp only [PlayerThreads.step, Option.ite_none_right_eq_some] at stepped
    obtain ⟨constructed, stepped⟩ := stepped
    have bare : state.pointers.avSync = false := by
      simpa [constructed] using synced.not
    -- the answer of `build` is what the pointer to the sync is
    have answers := avSync_build bare state.kind supported sync stages .create
    split at stepped
    case isTrue built =>
      obtain rfl := Option.some.inj stepped
      exact ⟨iff_of_true (answers.trans built) rfl, Or.inl ⟨by simp, rfl⟩⟩
    case isFalse failed =>
      obtain rfl := Option.some.inj stepped
      rw [← answers] at failed
      exact ⟨iff_of_false failed (by simp [constructed]), Or.inl ⟨by simp, rfl⟩⟩
  | clear =>
    simp only [PlayerThreads.step] at stepped
    split at stepped
    · exact absurd stepped (Option.some_ne_none _).symm
    · obtain rfl := Option.some.inj stepped
      -- `clear` leaves the pointers of a player that was just made
      have bare : ¬ BasePlayer.create.avSync = true := by simp [BasePlayer.create]
      exact ⟨iff_of_false bare (by simp), Or.inl ⟨by simp, rfl⟩⟩
  | releaseTaken last =>
    simp only [PlayerThreads.step] at stepped
    split at stepped
    case h_1 taken clearing =>
      have bare : ¬ state.pointers.avSync = true := by
        simpa [clearing] using synced.not
      split at stepped
      · rw [Option.ite_none_right_eq_some, Option.some.injEq] at stepped
        obtain ⟨-, rfl⟩ := stepped
        exact ⟨iff_of_false bare (by simp), Or.inl ⟨by simp, rfl⟩⟩
      · obtain rfl := Option.some.inj stepped
        exact ⟨iff_of_false bare (by simp), Or.inl ⟨by simp, rfl⟩⟩
    case h_2 => exact absurd stepped (Option.some_ne_none _).symm
  | onDecoderOutput frame =>
    simp only [PlayerThreads.step, Option.ite_none_right_eq_some] at stepped
    obtain ⟨-, stepped⟩ := stepped
    split at stepped
    · obtain rfl := Option.some.inj stepped
      exact ⟨synced, Or.inl ⟨by simp, rfl⟩⟩
    · split at stepped
      · obtain rfl := Option.some.inj stepped
        exact ⟨synced, Or.inl ⟨by simp, rfl⟩⟩
      · obtain rfl := Option.some.inj stepped
        exact ⟨synced, Or.inl ⟨by simp, rfl⟩⟩
  | onDecoded =>
    simp only [PlayerThreads.step] at stepped
    split at stepped
    case h_1 frame decoded =>
      obtain rfl := Option.some.inj stepped
      -- the one step that reads through the pointer
      exact ⟨synced, Or.inr ⟨rfl, frame, rfl⟩⟩
    case h_2 => exact absurd stepped (Option.some_ne_none _).symm
  | push =>
    simp only [PlayerThreads.step] at stepped
    split at stepped
    · obtain rfl := Option.some.inj stepped
      exact ⟨synced, Or.inl ⟨by simp, rfl⟩⟩
    · exact absurd stepped (Option.some_ne_none _).symm
  | join | resetFormat | onMediaFrame | endDecode =>
    simp only [PlayerThreads.step, Option.ite_none_right_eq_some, Option.some.injEq] at stepped
    obtain ⟨-, rfl⟩ := stepped
    exact ⟨synced, Or.inl ⟨by simp, rfl⟩⟩

theorem neverNull_takeFormat {state : PlayerThreads} (never : state.NeverNull)
    (frame : DecodedFrame) :
    (state.takeFormat frame).NeverNull ↔ (0 ∈ state.format → state.pointers.avSync = true) := by
  constructor
  · intro found first
    apply found
    simp [takeFormat, first]
  · intro first found mem
    simp only [takeFormat, List.mem_append] at mem
    rcases mem with (earlier | logged) | taken
    · exact never found earlier
    · obtain ⟨unset, rfl⟩ : 0 ∈ state.format ∧ found = state.pointers.avSync := by
        simpa using logged
      exact first unset
    · exact (show _ ∧ found = true by simpa using taken).2

theorem NeverNull.step_iff {state next : PlayerThreads} {action : Action}
    (never : state.NeverNull) (synced : state.Synced) (stepped : state.step action = some next) :
    next.NeverNull ↔ state.FirstFrameInTime action := by
  obtain ⟨-, ⟨other, same⟩ | ⟨rfl, frame, rfl⟩⟩ := synced.step stepped
  · have inTime : state.FirstFrameInTime action := by
      cases action with
      | onDecoded => exact absurd rfl other
      | _ => trivial
    exact iff_of_true (by rwa [NeverNull, same]) inTime
  · rw [neverNull_takeFormat never]
    exact imp_congr_right fun _ => synced

/-- In every run the synchroniser is there whenever it is used exactly where no first frame is taken
after `clear` took the pointers. -/
theorem neverNull_iff (kind : StreamKind) (format : List Int) (startTs : UInt32)
    (actions : List Action) :
    system.Always NeverNull (create kind format startTs) actions ↔
      system.Guarded FirstFrameInTime (create kind format startTs) actions := by
  apply system.always_iff_guarded
  · intro state action next synced stepped
    exact (Synced.step synced stepped).1
  · intro state action next synced never stepped
    exact NeverNull.step_iff never synced stepped
  · exact synced_create kind format startTs
  · simp [NeverNull, create]

/-- The first picture is decoded when `clear` has taken the pointers. -/
def strandedActions : List Action :=
  [.build true true ⟨true, true, true, true, true, true, true⟩, .onMediaFrame,
    .onDecoderOutput (some ⟨true, 640, 480, 0, 0, 0, 3000⟩), .clear, .onDecoded]

theorem avSync_stranded :
    (∃ state, system.run (create .video [0, 0] 0) strandedActions = some state ∧
        state.dereferenced = [false]) ∧
      ¬ system.Always NeverNull (create .video [0, 0] 0) strandedActions := by
  let state := (system.run (create .video [0, 0] 0) strandedActions).get (by decide)
  have ran : system.run (create .video [0, 0] 0) strandedActions = some state :=
    (Option.some_get _).symm
  have used : state.dereferenced = [false] := by decide
  refine ⟨⟨state, ran, used⟩, ?_⟩
  intro always
  have never := always strandedActions List.prefix_rfl state ran
  exact absurd (never false (by simp [used])) Bool.false_ne_true

end PlayerThreads

end RtpPlayer
