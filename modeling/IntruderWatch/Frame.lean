import IntruderWatch.Motion
import IntruderWatch.Library.Base64

/-!
# Frames

The yuv420p buffers that the capturer reads, their sizes as `NewPipeline` and
`NewSnapshotManager` compute them, and the image that `jpeg.Encode` gets over the three planes
of a buffer.
-/

namespace IntruderWatch

namespace Config

variable (cfg : Config)

def ySize : ℤ := cfg.frameWidth * cfg.frameHeight

def cSize : ℤ := cfg.frameWidth.tdiv 2 * cfg.frameHeight.tdiv 2

def frameSize : ℤ := cfg.ySize + 2 * cfg.cSize

end Config

/-- An `image.YCbCr` with 4:2:0 subsampling. -/
structure YCbCr where
  y : Bytes
  cb : Bytes
  cr : Bytes
  yStride : ℤ
  cStride : ℤ
  width : ℤ
  height : ℤ
deriving DecidableEq

/-- The image over `raw[:ySize]`, `raw[ySize:ySize+cSize]` and `raw[ySize+cSize:]`. -/
def ycbcrImage (width height ySize cSize : ℤ) (raw : Bytes) : Option YCbCr := do
  let y ← Go.slice raw 0 ySize
  let cb ← Go.slice raw ySize (ySize + cSize)
  let cr ← Go.slice raw (ySize + cSize) raw.length
  some {
    y := y
    cb := cb
    cr := cr
    yStride := width
    cStride := width.tdiv 2
    width := width
    height := height }

/-- A raw buffer of `frameSize` bytes. -/
def FullFrame (cfg : Config) (raw : Bytes) : Prop :=
  (raw.length : ℤ) = cfg.frameSize

/-- The planes of a raw frame of the configured size. -/
def planesOf (cfg : Config) (raw : Bytes) : YCbCr where
  y := raw.take cfg.ySize.toNat
  cb := (raw.drop cfg.ySize.toNat).take cfg.cSize.toNat
  cr := raw.drop (cfg.ySize.toNat + cfg.cSize.toNat)
  yStride := cfg.frameWidth
  cStride := cfg.frameWidth.tdiv 2
  width := cfg.frameWidth
  height := cfg.frameHeight

lemma ycbcrImage_eq_planesOf {cfg : Config} {raw : Bytes} {img : YCbCr}
    (himg : ycbcrImage cfg.frameWidth cfg.frameHeight cfg.ySize cfg.cSize raw = some img) :
    img = planesOf cfg raw := by
  simp only [ycbcrImage, Option.bind_eq_bind, Option.bind_eq_some_iff, Option.some.injEq,
    Go.slice_eq_some_iff] at himg
  obtain ⟨y, ⟨⟨-, hy0, -⟩, rfl⟩, cb, ⟨⟨-, hc, -⟩, rfl⟩, cr, ⟨-, rfl⟩, rfl⟩ := himg
  have hsum : (cfg.ySize + cfg.cSize).toNat = cfg.ySize.toNat + cfg.cSize.toNat := by omega
  simp only [planesOf, hsum, Int.toNat_zero, List.drop_zero, Int.toNat_natCast, List.take_length,
    YCbCr.mk.injEq, and_true, true_and]
  rw [List.take_drop]

/-- The item that carries a frame through the pipeline. -/
structure FrameItem where
  data : Bytes
  timestamp : Time
  sequence : ℕ
  motionBox : Option Box
  isPostRoll : Bool
deriving DecidableEq

/-- The JSON contract with the human detector. -/
structure FramePayload where
  camera : ℤ
  hash : Bytes
  image : Bytes
  motionBox : Option Box
  isPostRoll : Bool
deriving DecidableEq

/-- The functions outside the repository that the publisher calls: `jpeg.Encode` with the
configured quality, `sha256.Sum256` and `json.Marshal`. -/
structure Encoders where
  jpeg : YCbCr → Except String Bytes
  sha256 : Bytes → Bytes
  marshal : FramePayload → Except String Bytes

/-- `hex.EncodeToString`. -/
def hexEncode (s : Bytes) : Bytes :=
  s.flatMap (fun b => [hexDigit (b.toNat / 16), hexDigit (b.toNat % 16)])
where
  hexDigit (v : ℕ) : UInt8 := if v < 10 then UInt8.ofNat (48 + v) else UInt8.ofNat (87 + v)

def framePayload (cfg : Config) (enc : Encoders) (jpegBytes : Bytes) (motionBox : Option Box)
    (isPostRoll : Bool) : FramePayload where
  camera := cfg.channel
  hash := hexEncode (enc.sha256 jpegBytes)
  image := Base64.encode jpegBytes
  motionBox := motionBox
  isPostRoll := isPostRoll

end IntruderWatch
