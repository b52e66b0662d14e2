import IntruderWatch.Frame
import IntruderWatch.Library.ReadFull

/-!
# Reading frames from the capture process

`ReadFrame` of `capture.go`, and the frames that `ffmpeg` writes for `-pix_fmt yuv420p`: a
luminance plane, then two chroma planes of half its width and height, rounded up.
-/

namespace IntruderWatch

/-! ### What the capture process emits -/

def chromaPlaneSize (width height : ℤ) : ℤ := (width + 1) / 2 * ((height + 1) / 2)

structure Yuv420p (width height : ℤ) where
  y : Bytes
  u : Bytes
  v : Bytes
  length_y : (y.length : ℤ) = width * height
  length_u : (u.length : ℤ) = chromaPlaneSize width height
  length_v : (v.length : ℤ) = chromaPlaneSize width height

def yuv420pSize (width height : ℤ) : ℤ := width * height + 2 * chromaPlaneSize width height

namespace Yuv420p

variable {width height : ℤ} (f : Yuv420p width height)

def emitted : Bytes := f.y ++ f.u ++ f.v

/-- The image over the three planes, with the strides of `NewPipeline`. -/
def image : YCbCr where
  y := f.y
  cb := f.u
  cr := f.v
  yStride := width
  cStride := width.tdiv 2
  width := width
  height := height

lemma length_emitted : (f.emitted.length : ℤ) = yuv420pSize width height := by
  simp only [emitted, List.length_append, Nat.cast_add, f.length_y, f.length_u, f.length_v,
    yuv420pSize]
  ring

end Yuv420p

/-- `COffset`, the place of pixel `(x, y)` in the chroma planes. -/
def YCbCr.chromaIndex (img : YCbCr) (x y : ℤ) : ℤ := y.tdiv 2 * img.cStride + x.tdiv 2

/-! ### The reader -/

/-- `frameSize` in `NewPipeline`, the length of the buffers that `ReadFrame` fills. -/
def Config.bufferSize (cfg : Config) : ℤ :=
  cfg.frameWidth * cfg.frameHeight + 2 * cfg.frameWidth.tdiv 2 * cfg.frameHeight.tdiv 2

lemma Config.bufferSize_eq (cfg : Config) : cfg.bufferSize = cfg.frameSize := by
  rw [bufferSize, frameSize, ySize, cSize, mul_assoc 2]

/-- The fields that `ReadFrame` uses. -/
structure StreamCapturer where
  stdout : Option (List Bytes)
  lastFrameTime : Time

inductive ReadFrameError
  | closed
  | read (err : Go.ReadError)
deriving DecidableEq

namespace ReadFrameError

def text : ReadFrameError → String
  | .closed => "capturer stdout is closed"
  | .read .eof => "EOF"
  | .read .unexpectedEOF => "unexpected EOF"

end ReadFrameError

structure ReadCall where
  buf : Bytes
  now : Clock

namespace StreamCapturer

/-- The capturer and the buffer after the call, and the error. -/
def readFrame (c : StreamCapturer) (call : ReadCall) :
    StreamCapturer × Bytes × Option ReadFrameError :=
  match c.stdout with
  | none => (c, call.buf, some .closed)
  | some stdout =>
    match Go.readFull stdout call.buf with
    | (buf, rest, none) => ({ c with stdout := some rest, lastFrameTime := call.now }, buf, none)
    | (buf, rest, some err) => ({ c with stdout := some rest }, buf, some (.read err))

/-- The buffers of the successful calls, in order. -/
def framesRead : StreamCapturer → List ReadCall → List Bytes
  | _, [] => []
  | c, call :: calls =>
    match c.readFrame call with
    | (c, buf, none) => buf :: c.framesRead calls
    | (c, _, some _) => c.framesRead calls

end StreamCapturer

end IntruderWatch
