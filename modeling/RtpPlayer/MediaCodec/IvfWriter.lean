import Mathlib.Algebra.Ring.Int.Defs
import RtpPlayer.Foundations.ByteOrder
import RtpPlayer.Foundations.Machine
import RtpPlayer.Foundations.Records
import RtpPlayer.Foundations.Wrapping
import RtpPlayer.MediaCodec.VideoEnc

/-! # The dump of the VP8 encoder

The model of `MediaCodec/jni/ivfwriter.c`, and of the side that reads such files, which is
`ivfdec.c` of libvpx.  What `fwrite` was given is in the file up to wherever the file is cut. -/

namespace RtpPlayer

open Foundations ByteOrder

/-! ## Words in a file -/

/-- `mem_put_le16` -/
def memPutLe16 (val : Int) : List UInt8 := (bigEndian16 (UInt16.ofInt val)).reverse

/-- `mem_put_le32` -/
def memPutLe32 (val : Int) : List UInt8 := (bigEndian32 (UInt32.ofInt val)).reverse

/-- `mem_get_le16` -/
def memGetLe16 : List UInt8 → UInt16
  | first :: second :: _ => ofLittleEndian16 first second
  | _ => 0

/-- `mem_get_le32` -/
def memGetLe32 : List UInt8 → UInt32
  | first :: second :: third :: fourth :: _ => ofLittleEndian32 first second third fourth
  | _ => 0

@[simp] theorem memPutLe16_length (val : Int) : (memPutLe16 val).length = 2 := rfl

@[simp] theorem memPutLe32_length (val : Int) : (memPutLe32 val).length = 4 := rfl

@[simp] theorem memGetLe16_memPutLe16 (val : Int) (rest : List UInt8) :
    memGetLe16 (memPutLe16 val ++ rest) = UInt16.ofInt val :=
  ofBigEndian16_bigEndian16 _

@[simp] theorem memGetLe32_memPutLe32 (val : Int) (rest : List UInt8) :
    memGetLe32 (memPutLe32 val ++ rest) = UInt32.ofInt val :=
  ofBigEndian32_bigEndian32 _

/-! ## Writing -/

/-- `video_enc_config`, as far as a dump is concerned: `write_frame` divides by `timebase_num`. -/
structure DumpConfig where
  width : Int32
  height : Int32
  timebaseNum : Int32
  timebaseDen : Int32
  divides : timebaseNum ≠ 0

/-- An `ivfwriter` whose file is open, with what was written to it.  `num_frames` is a `size_t`,
which has 32 bits where the library is built for. -/
structure IvfWriter where
  codec : VideoCodecType
  numFrames : UInt32
  file : List UInt8

/-- What `write_frame` is called with. -/
structure IvfFrame where
  data : List UInt8
  pts : Int

/-- The four characters of the codec, `none` for one that has none. -/
def VideoCodecType.fourcc : VideoCodecType → Option (List UInt8)
  | .nul => none
  | .vp8 => some [0x56, 0x50, 0x38, 0x30]
  | .avc => some [0x48, 0x32, 0x36, 0x34]

/-- "DKIF" -/
def ivfSignature : List UInt8 := [0x44, 0x4b, 0x49, 0x46]

namespace IvfWriter

/-- `create_fileWriter`, where the file can be opened. -/
def create (codec : VideoCodecType) : IvfWriter where
  codec := codec
  numFrames := 0
  file := []

/-- `write_ivf_header` -/
def writeIvfHeader (writer : IvfWriter) (w h tbDen tbNum : Int32) : IvfWriter × Int :=
  match writer.codec.fourcc with
  | none => (writer, -1)
  | some fourcc =>
    ({ writer with
      file := writer.file ++ (ivfSignature ++ memPutLe16 0 ++ memPutLe16 32 ++ fourcc ++
        memPutLe16 w.toInt ++ memPutLe16 h.toInt ++ memPutLe32 tbDen.toInt ++
        memPutLe32 tbNum.toInt ++ memPutLe32 0 ++ memPutLe32 0) }, 0)

/-- `FRAMERATE_SCALOR_FACTOR` -/
def framerateScalorFactor : Int32 := 10

/-- The rate of the file header. -/
def rate (config : DumpConfig) : Int32 :=
  config.timebaseDen * framerateScalorFactor / config.timebaseNum / 100

/-- `write_frame`, which does not look at what `write_ivf_header` returns. -/
def writeFrame (writer : IvfWriter) (config : DumpConfig) (frame : IvfFrame) : IvfWriter × Int :=
  let writer :=
    if writer.numFrames = 0 then
      (writer.writeIvfHeader config.width config.height (rate config) 1).1
    else writer
  let header := memPutLe32 frame.data.length ++ memPutLe32 (frame.pts % 2 ^ 32) ++
    memPutLe32 (frame.pts / 2 ^ 32)
  ({ writer with
    file := writer.file ++ (header ++ frame.data), numFrames := writer.numFrames + 1 }, 0)

/-- The writer under any calls of `write_frame`. -/
def machine : Machine IvfWriter (DumpConfig × IvfFrame) Int where
  step writer call := writer.writeFrame call.1 call.2

end IvfWriter

/-! ## Reading -/

/-- What libvpx takes from the header of a file. -/
structure VpxInput where
  fourcc : UInt32
  width : UInt16
  height : UInt16
  framerate : Int × Int
  deriving DecidableEq

/-- `fix_framerate` -/
def fixFramerate (num den : Int) : Int × Int :=
  if 0 < den ∧ den < 1000000000 ∧ 0 < num ∧ num < 1000 then
    if num % 2 = 1 then (num, den * 2) else (num / 2, den)
  else (30, 1)

/-- `file_is_ivf`, with what is behind the header. -/
def fileIsIvf (file : List UInt8) : Option (VpxInput × List UInt8) :=
  if file.length < 32 ∨ file.take 4 ≠ ivfSignature then none
  else
    some ({
      fourcc := memGetLe32 (file.drop 8)
      width := memGetLe16 (file.drop 12)
      height := memGetLe16 (file.drop 14)
      framerate := fixFramerate (memGetLe32 (file.drop 16)).toInt32.toInt
        (memGetLe32 (file.drop 20)).toInt32.toInt }, file.drop 32)

/-- The largest frame that libvpx reads. -/
def maxIvfFrame : Nat := 256 * 1024 * 1024

/-- `ivf_read_frame`, where there is memory for the frame: the frame and what is behind it. -/
def ivfReadFrame (file : List UInt8) : Option (List UInt8 × List UInt8) :=
  if file.length < 12 then none
  else
    let frameSize := (memGetLe32 file).toNat
    let frameSize := if maxIvfFrame < frameSize then 0 else frameSize
    let rest := file.drop 12
    if rest.length < frameSize then none else some (rest.take frameSize, rest.drop frameSize)

/-! ## Frames -/

namespace IvfFrame

/-- The header of a frame and its data. -/
def encode (frame : IvfFrame) : List UInt8 :=
  memPutLe32 frame.data.length ++ memPutLe32 (frame.pts % 2 ^ 32) ++
    memPutLe32 (frame.pts / 2 ^ 32) ++ frame.data

theorem encode_length (frame : IvfFrame) : frame.encode.length = 12 + frame.data.length := by
  simp only [encode, List.length_append, memPutLe32_length]

theorem frameSize_encode {frame : IvfFrame} (fits : frame.data.length ≤ maxIvfFrame)
    (rest : List UInt8) :
    (memGetLe32 (frame.encode ++ rest)).toNat = frame.data.length := by
  rw [encode, List.append_assoc, List.append_assoc, List.append_assoc, memGetLe32_memPutLe32]
  have small : frame.data.length < 2 ^ 32 := Nat.lt_of_le_of_lt fits (by decide)
  have same : UInt32.ofInt (frame.data.length : Int) = UInt32.ofNat frame.data.length := by
    apply UInt32.toNat_inj.mp
    simp only [UInt32.ofInt, UInt32.toNat_ofNat']
    omega
  rw [same, UInt32.toNat_ofNat_of_lt' small]

theorem drop_encode (frame : IvfFrame) (rest : List UInt8) :
    (frame.encode ++ rest).drop 12 = frame.data ++ rest := rfl

/-- What libvpx reads of a frame is its data. -/
theorem read_encode {frame : IvfFrame} (rest : List UInt8)
    (fits : frame.data.length ≤ maxIvfFrame) :
    ivfReadFrame (frame.encode ++ rest) = some (frame.data, rest) := by
  have long : ¬ (frame.encode ++ rest).length < 12 := by
    rw [List.length_append, encode_length]
    omega
  have enough : ¬ (frame.data ++ rest).length < frame.data.length := by
    rw [List.length_append]
    omega
  rw [ivfReadFrame, if_neg long]
  simp only [frameSize_encode fits, if_neg (Nat.not_lt.mpr fits), drop_encode, if_neg enough,
    List.take_left, List.drop_left]

/-- Nothing is read of a frame that was cut. -/
theorem read_cut {frame : IvfFrame} {part : List UInt8} (fits : frame.data.length ≤ maxIvfFrame)
    (begins : part <+: frame.encode) (cut : part ≠ frame.encode) : ivfReadFrame part = none := by
  by_cases short : part.length < 12
  · rw [ivfReadFrame, if_pos short]
  · obtain ⟨more, whole⟩ := begins
    have shorter : more ≠ [] := by
      rintro rfl
      exact cut (by rw [← whole, List.append_nil])
    have positive := List.length_pos_iff.mpr shorter
    have length := congrArg List.length whole
    rw [List.length_append, encode_length] at length
    have size : memGetLe32 part = memGetLe32 frame.encode := by
      rw [← whole]
      match part, short with
      | _ :: _ :: _ :: _ :: _, _ => rfl
      | [], short | [_], short | [_, _], short | [_, _, _], short => simp at short
    have frameSize := frameSize_encode fits []
    rw [List.append_nil] at frameSize
    have missing : (part.drop 12).length < frame.data.length := by
      rw [List.length_drop]
      omega
    rw [ivfReadFrame, if_neg short]
    simp only [size, frameSize, if_neg (Nat.not_lt.mpr fits), if_pos missing]

/-- The frames of a file: `write_frame` writes them, `ivf_read_frame` reads their data. -/
def format : RecordFormat UInt8 IvfFrame (List UInt8) where
  encode := encode
  decode := ivfReadFrame
  meaning := data
  Good frame := frame.data.length ≤ maxIvfFrame
  decode_encode rest good := read_encode rest good
  decode_cut := read_cut
  decode_nil := rfl

end IvfFrame

/-! ## Whole files -/

namespace IvfWriter

/-- The header of a file. -/
def header (fourcc : List UInt8) (config : DumpConfig) : List UInt8 :=
  ivfSignature ++ memPutLe16 0 ++ memPutLe16 32 ++ fourcc ++ memPutLe16 config.width.toInt ++
    memPutLe16 config.height.toInt ++ memPutLe32 (rate config).toInt ++ memPutLe32 1 ++
    memPutLe32 0 ++ memPutLe32 0

/-- What libvpx takes from it. -/
def input (fourcc : List UInt8) (config : DumpConfig) : VpxInput where
  fourcc := memGetLe32 fourcc
  width := UInt16.ofInt config.width.toInt
  height := UInt16.ofInt config.height.toInt
  framerate := fixFramerate (rate config).toInt 1

/-- The header of the first call, and every frame. -/
def fileOf (codec : VideoCodecType) : List (DumpConfig × IvfFrame) → List UInt8
  | [] => []
  | call :: calls =>
    codec.fourcc.elim [] (fun fourcc => header fourcc call.1) ++
      IvfFrame.format.write ((call :: calls).map Prod.snd)

theorem fileOf_concat {codec : VideoCodecType} {calls : List (DumpConfig × IvfFrame)}
    (begun : calls ≠ []) (call : DumpConfig × IvfFrame) :
    fileOf codec (calls ++ [call]) = fileOf codec calls ++ call.2.encode := by
  cases calls with
  | nil => exact absurd rfl begun
  | cons first calls =>
    have last : IvfFrame.format.write ((first :: (calls ++ [call])).map Prod.snd) =
        IvfFrame.format.write ((first :: calls).map Prod.snd) ++ call.2.encode := by
      simp [RecordFormat.write, IvfFrame.format]
    rw [List.cons_append, fileOf, fileOf, last, List.append_assoc]

/-- What is in the file after as many calls as `num_frames` can count. -/
theorem run_eq (codec : VideoCodecType) (calls : List (DumpConfig × IvfFrame))
    (counted : calls.length ≤ UInt32.size) :
    machine.run (create codec) calls = {
      codec := codec
      numFrames := UInt32.ofNat calls.length
      file := fileOf codec calls } := by
  induction calls using List.reverseRecOn with
  | nil => rfl
  | append_singleton calls call ih =>
    rw [List.length_append, List.length_singleton] at counted
    have grown : UInt32.ofNat calls.length + 1 = UInt32.ofNat (calls ++ [call]).length := by
      rw [List.length_append, List.length_singleton, UInt32.ofNat_add]
      rfl
    rw [Machine.run_append, ih (by omega), Machine.run_cons, Machine.run_nil, ← grown]
    cases calls with
    | nil =>
      have one : IvfFrame.format.write [call.2] = call.2.encode := by
        simp [RecordFormat.write, IvfFrame.format]
      cases codec <;>
        simp [machine, writeFrame, writeIvfHeader, VideoCodecType.fourcc, fileOf, one, header,
          IvfFrame.encode]
    | cons first calls =>
      -- the header is not written again
      have begun : UInt32.ofNat (first :: calls).length ≠ 0 := by
        intro zero
        have wraps := congrArg UInt32.toNat zero
        rw [UInt32.toNat_ofNat_of_lt' (by omega)] at wraps
        cases wraps
      rw [fileOf_concat (List.cons_ne_nil _ _)]
      simp only [machine, writeFrame, if_neg begun]
      rfl

/-- An `int` comes back as it was put. -/
theorem toInt32_ofInt (val : Int32) : (UInt32.ofInt val.toInt).toInt32 = val := by
  have same : UInt32.ofInt val.toInt = val.toUInt32 := by
    rw [UInt32.ofInt, toInt_emod, Int.toNat_natCast, UInt32.ofNat_toNat]
  rw [same, Int32.toInt32_toUInt32]

theorem fileIsIvf_header {codec : VideoCodecType} {fourcc : List UInt8}
    (known : codec.fourcc = some fourcc) (config : DumpConfig) (rest : List UInt8) :
    fileIsIvf (header fourcc config ++ rest) = some (input fourcc config, rest) := by
  have four : ∃ first second third fourth, fourcc = [first, second, third, fourth] := by
    cases codec <;> simp [VideoCodecType.fourcc] at known <;> subst known <;>
      exact ⟨_, _, _, _, rfl⟩
  obtain ⟨first, second, third, fourth, rfl⟩ := four
  let behind := memPutLe32 0 ++ memPutLe32 0 ++ rest
  let rates := memPutLe32 (rate config).toInt ++ (memPutLe32 1 ++ behind)
  let sizes := memPutLe16 config.width.toInt ++ (memPutLe16 config.height.toInt ++ rates)
  have long : ¬ ((header [first, second, third, fourth] config ++ rest).length < 32 ∨
      (header [first, second, third, fourth] config ++ rest).take 4 ≠ ivfSignature) := by
    rintro (short | other)
    · have length : (header [first, second, third, fourth] config).length = 32 := rfl
      rw [List.length_append, length] at short
      omega
    · exact other rfl
  -- what stands at the places where the fields are read
  have width : (header [first, second, third, fourth] config ++ rest).drop 12 = sizes := rfl
  have height : (header [first, second, third, fourth] config ++ rest).drop 14 =
    memPutLe16 config.height.toInt ++ rates := rfl
  have numerator : (header [first, second, third, fourth] config ++ rest).drop 16 = rates := rfl
  have denominator : (header [first, second, third, fourth] config ++ rest).drop 20 =
    memPutLe32 1 ++ behind := rfl
  rw [fileIsIvf, if_neg long, width, height, numerator, denominator]
  simp only [sizes, rates, memGetLe16_memPutLe16, memGetLe32_memPutLe32, toInt32_ofInt]
  rfl

/-- What the dump writes is what libvpx reads: the header with the sizes of the image, and every
frame.  Of a file that was cut behind the header it reads a beginning of the frames. -/
theorem libvpx_reads_dump (codec : VideoCodecType) (fourcc : List UInt8)
    (known : codec.fourcc = some fourcc) (config : DumpConfig) (frame : IvfFrame)
    (calls : List (DumpConfig × IvfFrame)) (counted : calls.length < UInt32.size)
    (fits : ∀ call ∈ (config, frame) :: calls, call.2.data.length ≤ maxIvfFrame) :
    let file := (machine.run (create codec) ((config, frame) :: calls)).file
    let frames := frame.data :: calls.map fun call => call.2.data
    (∃ rest, fileIsIvf file = some (input fourcc config, rest) ∧
      IvfFrame.format.read rest = (frames, [])) ∧
    ∀ part, part <+: file → 32 ≤ part.length → ∃ rest whole tail,
      fileIsIvf part = some (input fourcc config, rest) ∧ whole <+: frames ∧
        IvfFrame.format.read rest = (whole, tail) := by
  intro file frames
  have same : file = header fourcc config ++
      IvfFrame.format.write (((config, frame) :: calls).map Prod.snd) := by
    simp only [file]
    rw [run_eq codec ((config, frame) :: calls) counted, fileOf, known]
    rfl
  have good : ∀ record ∈ ((config, frame) :: calls).map Prod.snd, IvfFrame.format.Good record := by
    intro record member
    obtain ⟨call, inside, rfl⟩ := List.mem_map.mp member
    exact fits call inside
  have meanings :
      (((config, frame) :: calls).map Prod.snd).map IvfFrame.format.meaning = frames := by
    rw [List.map_map]
    rfl
  constructor
  · refine ⟨_, same ▸ fileIsIvf_header known config _, ?_⟩
    rw [RecordFormat.read_write good, meanings]
  · intro part begins long
    rw [same] at begins
    have length : (header fourcc config).length = 32 := by
      cases codec <;> simp [VideoCodecType.fourcc] at known <;> subst known <;> rfl
    have inside : header fourcc config <+: part :=
      List.prefix_of_prefix_length_le (List.prefix_append ..) begins (by omega)
    obtain ⟨rest, rfl⟩ := inside
    rw [List.prefix_append_right_inj] at begins
    obtain ⟨whole, tail, first, -, reads⟩ := RecordFormat.read_cut begins good
    exact ⟨rest, _, tail, fileIsIvf_header known config rest, meanings ▸ first.map _, reads⟩

theorem ticks_divide : (1 : Int32) ≠ 0 := by decide

/-- A picture of 640x480 with timestamps of 90 kHz. -/
def vgaDump : DumpConfig := ⟨640, 480, 1, 90000, ticks_divide⟩

theorem libvpx_reads_dump_two :
    let calls : List (DumpConfig × IvfFrame) :=
      [(vgaDump, ⟨[1, 2, 3], -1⟩), (vgaDump, ⟨[], 3600⟩)]
    ∃ rest, fileIsIvf (machine.run (create .vp8) calls).file =
        some (⟨0x30385056, 640, 480, (30, 1)⟩, rest) ∧
      IvfFrame.format.read rest = ([[1, 2, 3], []], []) :=
  (libvpx_reads_dump .vp8 _ rfl vgaDump ⟨[1, 2, 3], -1⟩ [(vgaDump, ⟨[], 3600⟩)] (by decide)
    (by decide)).1

end IvfWriter

end RtpPlayer
