import Mathlib.Data.List.Infix
import Mathlib.Data.List.Induction
import RtpPlayer.Foundations.Wrapping
import RtpPlayer.Player.AVSync

/-! # How long the video is buffered

`push_video` measures how far the queue reaches and ends the buffering on that measure.  The
measure counts whole seconds only. -/

namespace RtpPlayer

open Foundations

/-- Among the prefixes with a property there is a shortest. -/
theorem exists_shortest_start {α : Type} {property : List α → Prop} {list : List α}
    (holds : ∃ found, found <+: list ∧ property found) :
    ∃ first, first <+: list ∧ property first ∧
      ∀ earlier, earlier <+: first → earlier ≠ first → ¬ property earlier := by
  induction list using List.reverseRecOn with
  | nil =>
    obtain ⟨found, starts, has⟩ := holds
    refine ⟨found, starts, has, fun earlier before shorter => absurd ?_ shorter⟩
    rw [List.prefix_nil.mp starts] at before ⊢
    exact List.prefix_nil.mp before
  | append_singleton list last ih =>
    by_cases sooner : ∃ found, found <+: list ∧ property found
    · obtain ⟨first, starts, rest⟩ := ih sooner
      exact ⟨first, starts.trans (List.prefix_append ..), rest⟩
    · -- then the whole list is the only one
      obtain ⟨found, starts, has⟩ := holds
      rcases List.prefix_concat_iff.mp starts with rfl | before
      · refine ⟨_, List.prefix_rfl, has, fun earlier before shorter holds => ?_⟩
        exact sooner ⟨earlier, (List.prefix_concat_iff.mp before).resolve_left shorter, holds⟩
      · exact absurd ⟨found, before, has⟩ sooner

/-- The ticks from the first of the frames to the last, across the wrap of the timestamps. -/
def pushedSpan (frames : List AVFrame) : Nat :=
  match frames.head?, frames.getLast? with
  | some front, some back => (back.pts - front.pts).toNat
  | _, _ => 0

namespace AVSync

/-- `push_video`: its three sections, with no other call in between. -/
def pushVideo (sync : AVSync) (frame : AVFrame) : AVSync :=
  (sync.queueVideo frame).stopBuffering (sync.queueVideo frame).videoLatencyMs

def pushVideos (sync : AVSync) (frames : List AVFrame) : AVSync := frames.foldl pushVideo sync

/-! ## The latency -/

theorem videoLatencyMs_toInt (sync : AVSync) :
    sync.videoLatencyMs.toInt = (pushedSpan sync.videoFrames / 90000 * 1000 : Nat) := by
  unfold videoLatencyMs pushedSpan
  cases sync.videoFrames.head? with
  | none => simp
  | some front =>
    cases sync.videoFrames.getLast? with
    | none => simp
    | some back =>
      -- a span has 47721 whole seconds at most, so the product does not wrap
      have bound := (back.pts - front.pts).toNat_lt
      have scaled : ((back.pts - front.pts) / rtpVideoClock * 1000).toNat =
          (back.pts - front.pts).toNat / 90000 * 1000 := by
        rw [UInt32.toNat_mul, UInt32.toNat_div]
        change (back.pts - front.pts).toNat / 90000 * 1000 % 2 ^ 32 = _
        omega
      simp only [toInt32_toInt, scaled]
      exact Int.bmod_eq_of_le (by omega) (by omega)

/-- The latency is what the span of the queue takes, in whole milliseconds. -/
def LatencyIsExact (sync : AVSync) : Prop :=
  sync.videoLatencyMs.toInt = (pushedSpan sync.videoFrames * 1000 / 90000 : Nat)

instance (sync : AVSync) : Decidable sync.LatencyIsExact := inferInstanceAs (Decidable (_ = _))

theorem latencyIsExact_iff (sync : AVSync) :
    sync.LatencyIsExact ↔ pushedSpan sync.videoFrames % 90000 < 90 := by
  rw [LatencyIsExact, videoLatencyMs_toInt]
  omega

/-! ## The end of the buffering -/

theorem stopBuffering_buffering (sync : AVSync) (latency : Int32) :
    (sync.stopBuffering latency).buffering = true ↔
      sync.buffering = true ∧ latency.toInt < 300 := by
  unfold stopBuffering
  split
  next stops =>
    have long : 300 ≤ latency.toInt := Int32.le_iff_toInt_le.mp stops.2
    exact iff_of_false Bool.false_ne_true (by omega)
  next goesOn =>
    rw [not_and, Int32.not_le, Int32.lt_iff_toInt_lt] at goesOn
    exact ⟨fun buffering => ⟨buffering, goesOn buffering⟩, And.left⟩

theorem pushVideo_videoFrames (sync : AVSync) (frame : AVFrame) :
    (sync.pushVideo frame).videoFrames = sync.videoFrames ++ [frame] := by
  rw [pushVideo, stopBuffering_videoFrames]
  rfl

theorem pushVideo_buffering (sync : AVSync) (frame : AVFrame) :
    (sync.pushVideo frame).buffering = true ↔
      (sync.videoFrames = [] ∨ sync.buffering = true) ∧
        pushedSpan (sync.videoFrames ++ [frame]) < 90000 := by
  have queued : (sync.queueVideo frame).buffering = true ↔
      sync.videoFrames = [] ∨ sync.buffering = true := by
    simp [queueVideo]
  have short : (sync.queueVideo frame).videoLatencyMs.toInt < 300 ↔
      pushedSpan (sync.videoFrames ++ [frame]) < 90000 := by
    rw [videoLatencyMs_toInt]
    change ((pushedSpan (sync.videoFrames ++ [frame]) / 90000 * 1000 : Nat) : Int) < 300 ↔ _
    omega
  rw [pushVideo, stopBuffering_buffering, queued, short]

variable {sync : AVSync}

theorem pushVideos_concat (frames : List AVFrame) (frame : AVFrame) :
    sync.pushVideos (frames ++ [frame]) = (sync.pushVideos frames).pushVideo frame := by
  simp [pushVideos]

theorem pushVideos_videoFrames (empty : sync.videoFrames = []) (frames : List AVFrame) :
    (sync.pushVideos frames).videoFrames = frames := by
  induction frames using List.reverseRecOn with
  | nil => exact empty
  | append_singleton frames frame ih => rw [pushVideos_concat, pushVideo_videoFrames, ih]

/-- The buffering goes on as long as no push has made the span a second. -/
theorem pushVideos_buffering (empty : sync.videoFrames = []) {frames : List AVFrame}
    (pushed : frames ≠ []) :
    (sync.pushVideos frames).buffering = true ↔
      ∀ earlier, earlier <+: frames → pushedSpan earlier < 90000 := by
  -- the last push decides about its own span, the others about theirs
  induction frames using List.reverseRecOn with
  | nil => exact absurd rfl pushed
  | append_singleton frames frame ih =>
    have goesOn : (sync.pushVideos frames).videoFrames = [] ∨
        (sync.pushVideos frames).buffering = true ↔
          ∀ earlier, earlier <+: frames → pushedSpan earlier < 90000 := by
      rw [pushVideos_videoFrames empty]
      by_cases first : frames = []
      · subst first
        refine iff_of_true (.inl rfl) fun earlier starts => ?_
        rw [List.prefix_nil.mp starts]
        decide
      · rw [or_iff_right first, ih first]
    rw [pushVideos_concat, pushVideo_buffering, goesOn, pushVideos_videoFrames empty]
    simp only [List.prefix_concat_iff, forall_eq_or_imp, and_comm]

/-- On an empty queue the first push starts the buffering, and exactly the first one that makes the
span 300 ms ends it. -/
def BuffersUntil300Ms (sync : AVSync) (frames : List AVFrame) : Prop :=
  ∀ pushed, pushed <+: frames → pushed ≠ [] →
    ((sync.pushVideos pushed).buffering = true ↔
      ∀ earlier, earlier <+: pushed → pushedSpan earlier < 27000)

/-- The first push that makes the span 300 ms makes it a second. -/
def Reaches300MsWithASecond (frames : List AVFrame) : Prop :=
  ∀ pushed, pushed <+: frames → 27000 ≤ pushedSpan pushed →
    (∀ earlier, earlier <+: pushed → earlier ≠ pushed → pushedSpan earlier < 27000) →
      90000 ≤ pushedSpan pushed

theorem buffersUntil300Ms_of_empty (empty : sync.videoFrames = []) (frames : List AVFrame) :
    sync.BuffersUntil300Ms frames ↔ Reaches300MsWithASecond frames := by
  constructor
  · intro right pushed starts long first
    have some : pushed ≠ [] := by
      rintro rfl
      exact absurd long (by decide)
    have ended : ¬ ∀ earlier, earlier <+: pushed → pushedSpan earlier < 90000 := by
      rw [← pushVideos_buffering empty some, right pushed starts some]
      exact fun short => absurd (short pushed List.prefix_rfl) (Nat.not_lt.mpr long)
    by_contra shortOfASecond
    apply ended
    intro earlier before
    by_cases last : earlier = pushed
    · rw [last]
      exact Nat.not_le.mp shortOfASecond
    · have := first earlier before last
      omega
  · intro whole pushed starts some
    rw [pushVideos_buffering empty some]
    constructor
    · intro noSecond earlier before
      by_contra long
      -- the first push that makes the span 300 ms ends the buffering only if it makes it a second
      obtain ⟨first, inside, reaches, sooner⟩ := @exists_shortest_start _
        (fun frames => 27000 ≤ pushedSpan frames) earlier
        ⟨earlier, List.prefix_rfl, Nat.not_lt.mp long⟩
      have second := whole first (inside.trans (before.trans starts)) reaches
        (fun frames starts shorter => Nat.not_le.mp (sooner frames starts shorter))
      have := noSecond first (inside.trans before)
      omega
    · intro short earlier before
      have := short earlier before
      omega

/-- The latency is exact within the first millisecond of every second of the span, and the
buffering ends in time where the span passes 300 ms in one push with the first second. -/
theorem videoBuffering_iff (sync : AVSync) (frames : List AVFrame) :
    (sync.LatencyIsExact ↔ pushedSpan sync.videoFrames % 90000 < 90) ∧
      ({ sync with videoFrames := [] }.BuffersUntil300Ms frames ↔
        Reaches300MsWithASecond frames) :=
  ⟨latencyIsExact_iff sync, buffersUntil300Ms_of_empty rfl frames⟩

/-- Two frames 300 ms apart. -/
def framesAt300Ms : List AVFrame := [⟨16, 0⟩, ⟨32, 27000⟩]

theorem videoBuffering_at300Ms :
    ¬ ((∀ sync : AVSync, sync.videoFrames ≠ [] → pushedSpan sync.videoFrames < 2 ^ 31 →
        sync.LatencyIsExact) ∧
      ∀ (sync : AVSync) (frames : List AVFrame),
        { sync with videoFrames := [] }.BuffersUntil300Ms frames) := by
  rintro ⟨exact, -⟩
  have latency := exact { create with videoFrames := framesAt300Ms } (by decide) (by decide)
  exact absurd ((latencyIsExact_iff _).mp latency) (by decide)

end AVSync

end RtpPlayer
