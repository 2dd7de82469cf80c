import RtpPlayer.MediaCodec.OpusRelease
import RtpPlayer.MediaCodec.VideoEncRelease

/-! # The lifetime of an encoder

Which of the calls create, init, encode and destroy free all that the encoder allocates, and once,
and use nothing that is freed. -/

namespace RtpPlayer

open Foundations HeapProgram

/-- For any memory that is granted, and whatever the libraries return. -/
theorem encoders_freesAll_iff (grants : Nat → Bool) :
    (∀ codec opens config blocks,
      FreesAll (OpusLifetime.lifetime codec opens config blocks) grants ↔
        OpusLifetime.Uneventful codec grants opens config blocks) ∧
    ∀ codec library config calls,
      (VideoEncLifetime.lifetime codec library config calls).Clean (Heap.empty grants) ↔
        VideoEncLifetime.Uneventful codec grants library config calls :=
  ⟨fun codec opens config blocks =>
      OpusLifetime.freesAll_iff codec grants opens config blocks,
    fun codec library config calls =>
      VideoEncLifetime.lifetime_clean_iff codec grants library config calls⟩

/-- One sample is encoded, and `opus_enc_destroy` reads the frame that it freed. -/
theorem opusEncDestroy_reads_freed :
    (OpusLifetime.lifetime .opus true (some ⟨8000, 1, 16⟩) [⟨[0, 0], 0, 0⟩] 3).run
        (Heap.empty fun _ => true) = .error .deadCell ∧
      ¬ FreesAll (OpusLifetime.lifetime .opus true (some ⟨8000, 1, 16⟩) [⟨[0, 0], 0, 0⟩])
        fun _ => true := by
  refine ⟨rfl, fun frees => ?_⟩
  obtain ⟨-, -, given, same, refused⟩ :=
    (OpusLifetime.freesAll_iff _ _ _ _ _).mp frees rfl
  cases same
  rw [OpusLifetime.AfterCreate, if_pos (by decide)] at refused
  exact absurd (refused.2.2 0 (by decide)) (by decide)

end RtpPlayer
