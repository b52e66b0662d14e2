import IntruderWatch.Frame
import IntruderWatch.Library.GoText

/-!
# Snapshot cache

The manager of `snapshot.go`: a raw buffer refreshed by every captured frame and a JPEG
refreshed by every encoded motion frame, with one time stamp for both. `jpeg.Encode` is the
parameter `encode`. Each method holds the lock while it touches the fields, so a call is one
step at the time `now` that it reads from the clock.
-/

namespace IntruderWatch

structure SnapshotManager where
  jpegBytes : Bytes
  rawFrame : Bytes
  updatedAt : Time
  frameW : ℤ
  frameH : ℤ
  ySize : ℤ
  cSize : ℤ
  zones : List Zone
deriving DecidableEq

def newSnapshotManager (cfg : Config) : Option SnapshotManager := do
  let rawFrame ← Go.make cfg.frameSize 0
  some {
    jpegBytes := []
    rawFrame := rawFrame
    updatedAt := 0
    frameW := cfg.frameWidth
    frameH := cfg.frameHeight
    ySize := cfg.ySize
    cSize := cfg.cSize
    zones := cfg.excludeZones }

namespace SnapshotManager

variable (s : SnapshotManager)

def updateRaw (raw : Bytes) (now : Time) : SnapshotManager :=
  { s with rawFrame := Go.copy s.rawFrame raw, updatedAt := now }

def updateJPEG (jpegBytes : Bytes) (now : Time) : SnapshotManager :=
  { s with jpegBytes := jpegBytes, updatedAt := now }

/-! ### The visual overlay

The sums of the loops are `int` sums, and the sides of a zone come from `Atoi`, so they wrap. -/

def setPixel (v : UInt8) (raw : Bytes) (x y : ℤ) : Option Bytes :=
  Go.store raw (Go.wrap64 (y * s.frameW + x)) v

def drawBorder (x1 y1 x2 y2 : ℤ) (raw : Bytes) (t : ℤ) : Option Bytes := do
  let top := Go.wrap64 (y1 + t)
  let bottom := Go.wrap64 (y2 - 1 - t)
  let left := Go.wrap64 (x1 + t)
  let right := Go.wrap64 (x2 - 1 - t)
  let raw ← (Go.range x1 x2).foldlM (fun raw x => do
    let raw ← if top < s.frameH then s.setPixel 255 raw x top else some raw
    if 0 ≤ bottom ∧ bottom < s.frameH then s.setPixel 255 raw x bottom else some raw) raw
  (Go.range y1 y2).foldlM (fun raw y => do
    let raw ← if left < s.frameW then s.setPixel 255 raw left y else some raw
    if 0 ≤ right ∧ right < s.frameW then s.setPixel 255 raw right y else some raw) raw

def drawCrosshatch (x1 y1 x2 y2 : ℤ) (raw : Bytes) : Option Bytes :=
  (Go.range (Go.wrap64 (y1 + 4)) (Go.wrap64 (y2 - 4))).foldlM (fun raw y =>
    (Go.range (Go.wrap64 (x1 + 4)) (Go.wrap64 (x2 - 4))).foldlM (fun raw x =>
      if (Go.wrap64 (x + y)).tmod 24 = 0 ∨ (Go.wrap64 (x - y)).tmod 24 = 0 then
        s.setPixel 220 raw x y
      else some raw) raw) raw

def drawZone (raw : Bytes) (zone : Zone) : Option Bytes := do
  let x2 := if s.frameW < zone.x2 then s.frameW else zone.x2
  let y2 := if s.frameH < zone.y2 then s.frameH else zone.y2
  let raw ← (Go.range 0 4).foldlM (s.drawBorder zone.x1 zone.y1 x2 y2) raw
  s.drawCrosshatch zone.x1 zone.y1 x2 y2 raw

def drawVisualOverlay (raw : Bytes) : Option Bytes := do
  let raw ← (Go.rangeBy 200 s.frameW 200).foldlM (fun raw x =>
    (Go.range 0 s.frameH).foldlM (fun raw y => s.setPixel 240 raw x y) raw) raw
  let raw ← (Go.rangeBy 200 s.frameH 200).foldlM (fun raw y =>
    (Go.range 0 s.frameW).foldlM (fun raw x => s.setPixel 240 raw x y) raw) raw
  s.zones.foldlM s.drawZone raw

/-! ### Reading a snapshot -/

/-- The 4 seconds of the hot path. -/
def cacheWindow : Duration := 4000000000

def getSnapshot (encode : YCbCr → Except String Bytes) (withGrid : Bool) (now : Time) :
    Option (Except String (Bytes × Time)) := do
  let hasRaw := decide (0 < s.updatedAt)
  let cachedJPEG := s.jpegBytes
  let cacheTime := s.updatedAt
  let rawCopy ← Go.make s.rawFrame.length 0
  let rawCopy := Go.copy rawCopy s.rawFrame
  if !hasRaw then some (.error "no frame captured yet")
  else if !withGrid && decide (0 < cachedJPEG.length) && decide (now - cacheTime < cacheWindow) then
    some (.ok (cachedJPEG, cacheTime))
  else do
    let rawCopy ← if withGrid then s.drawVisualOverlay rawCopy else some rawCopy
    let img ← ycbcrImage s.frameW s.frameH s.ySize s.cSize rawCopy
    match encode img with
    | .error err => some (.error ("snapshot encode failed: " ++ err))
    | .ok buf => some (.ok (buf, cacheTime))

end SnapshotManager

/-! ### Interleaved calls -/

inductive SnapshotCall
  | updateRaw (raw : Bytes)
  | updateJPEG (jpegBytes : Bytes)
  | getSnapshot (withGrid : Bool)
deriving DecidableEq

/-- A call and the clock when it runs. -/
structure SnapshotEvent where
  now : Clock
  call : SnapshotCall

/-- The answer of a `GetSnapshot` call: the picture with its time, or an error text. -/
abbrev SnapshotAnswer := Except String (Bytes × Time)

def snapshotStep (encode : YCbCr → Except String Bytes) (s : SnapshotManager) (e : SnapshotEvent) :
    Option (SnapshotManager × Option SnapshotAnswer) :=
  match e.call with
  | .updateRaw raw => some (s.updateRaw raw e.now, none)
  | .updateJPEG jpegBytes => some (s.updateJPEG jpegBytes e.now, none)
  | .getSnapshot withGrid => (s.getSnapshot encode withGrid e.now).map (fun a => (s, some a))

/-- The answers to a sequence of calls on a fresh manager. -/
def snapshotAnswers (cfg : Config) (encode : YCbCr → Except String Bytes)
    (events : List SnapshotEvent) : Option (List (Option SnapshotAnswer)) := do
  let s ← newSnapshotManager cfg
  let (_, answers) ← Transition.exec (snapshotStep encode) s events
  some answers

end IntruderWatch
