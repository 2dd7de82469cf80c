import RtpPlayer.MediaCodec.VideoDec

/-! # What both video encoders look at

Of `MediaCodec/jni/videoenc.h` and `avcenc.c`: the configuration, the surface an encoder takes, and
the start code of a NAL unit. -/

namespace RtpPlayer

/-- `VIDEO_CODEC_TYPE` -/
inductive VideoCodecType where
  | nul
  | vp8
  | avc
  deriving DecidableEq

namespace VideoEnc

/-- `video_enc_config`, what the encoders compare or divide by. -/
structure Config where
  width : Int32
  height : Int32
  framerateNum : Int32
  framerateDen : Int32
  timebaseNum : Int32
  maxThreads : Int32

/-- `video_surface`, of its first plane. -/
structure Surface where
  color : ImgColorFormat
  width : UInt32
  height : UInt32

/-- The encoder takes the surface. -/
def Surface.Accepted (surface : Surface) (config : Config) : Prop :=
  surface.width = config.width.toUInt32 ∧ surface.height = config.height.toUInt32 ∧
    surface.color = .i420

instance (surface : Surface) (config : Config) : Decidable (surface.Accepted config) :=
  inferInstanceAs (Decidable (_ ∧ _ ∧ _))

/-- The length of the start code of a NAL unit; the one of the unit before stays where there is
none. -/
def startCodeLen (previous : Nat) (payload : List UInt8) : Nat :=
  if payload.getD 0 0 = 0 ∧ payload.getD 1 0 = 0 then
    if payload.getD 2 0 = 1 then 3
    else if payload.getD 2 0 = 0 ∧ payload.getD 3 0 = 1 then 4
    else previous
  else previous

end VideoEnc

end RtpPlayer
