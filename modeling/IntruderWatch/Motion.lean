import IntruderWatch.Config
import IntruderWatch.Library.Slices
import IntruderWatch.Library.Runs

/-!
# Macroblock motion detector

The detector of `motion.go`: the constructor precomputes which macroblocks an exclusion
zone touches, and `Analyze` compares the luminance plane with the previous one block by
block. An index out of range is a Go panic and gives `none`. The two outer loops run over
`blocks`, the two inner ones over the `pixels` of a block; `scanBlock` is the body of the
block loop and `scanResult` what `Analyze` computes from the values after it.
-/

namespace IntruderWatch

abbrev Bytes := List UInt8

structure Box where
  x1 : ℤ
  y1 : ℤ
  x2 : ℤ
  y2 : ℤ
deriving DecidableEq

structure MotionResult where
  hasMotion : Bool
  activeBlocks : ℤ
  totalBlocks : ℤ
  effectiveBlocks : ℤ
  isLightingShift : Bool
  maxBlockDelta : ℚ
  motionBox : Option Box
deriving DecidableEq

structure MacroblockDetector where
  width : ℤ
  height : ℤ
  blockSize : ℤ
  gridW : ℤ
  gridH : ℤ
  totalBlocks : ℤ
  effectiveBlocks : ℤ
  threshold : ℚ
  minActiveBlocks : ℤ
  lightingShiftRatio : ℚ
  isMasked : List Bool
  lastY : Bytes
  hasLastFrame : Bool

/-- `bs` of the constructor: the configured block size, or 32 when it is not positive. -/
def effectiveBlockSize (cfg : Config) : ℤ :=
  if cfg.blockSize ≤ 0 then 32 else cfg.blockSize

/-- The AABB intersection test between block `(bX, bY)` and a zone. -/
def overlaps (bs bX bY : ℤ) (zone : Zone) : Bool :=
  let bY1 := bY * bs
  let bY2 := bY1 + bs
  let bX1 := bX * bs
  let bX2 := bX1 + bs
  bX1 < zone.x2 && bX2 > zone.x1 && bY1 < zone.y2 && bY2 > zone.y1

/-- The body of the mask loop: the first overlapping zone masks the block. -/
def maskBlock (cfg : Config) (bs gridW : ℤ) (acc : List Bool × ℤ) (b : ℤ × ℤ) :
    Option (List Bool × ℤ) :=
  if cfg.excludeZones.any (overlaps bs b.1 b.2) then do
    let isMasked ← Go.store acc.1 (b.2 * gridW + b.1) true
    some (isMasked, acc.2 + 1)
  else some acc

def newMacroblockDetector (cfg : Config) : Option MacroblockDetector := do
  let bs := effectiveBlockSize cfg
  let gridW := cfg.frameWidth.tdiv bs
  let gridH := cfg.frameHeight.tdiv bs
  let total := gridW * gridH
  let isMasked ← Go.make total false
  let (isMasked, maskedCount) ←
    (Go.grid (Go.range 0 gridW) (Go.range 0 gridH)).foldlM (maskBlock cfg bs gridW) (isMasked, 0)
  let effective := total - maskedCount
  let effective := if effective ≤ 0 then 1 else effective
  let lastY ← Go.make (cfg.frameWidth * cfg.frameHeight) 0
  some {
    width := cfg.frameWidth
    height := cfg.frameHeight
    blockSize := bs
    gridW := gridW
    gridH := gridH
    totalBlocks := total
    effectiveBlocks := effective
    threshold := cfg.motionThreshold
    minActiveBlocks := cfg.minActiveBlocks
    lightingShiftRatio := cfg.lightingShiftRatio
    isMasked := isMasked
    lastY := lastY
    hasLastFrame := false }

namespace MacroblockDetector

variable (d : MacroblockDetector)

def blocks : List (ℤ × ℤ) :=
  Go.grid (Go.range 0 d.gridW) (Go.range 0 d.gridH)

def pixels (bX bY : ℤ) : List (ℤ × ℤ) :=
  Go.grid (Go.range (bX * d.blockSize) (bX * d.blockSize + d.blockSize))
    (Go.range (bY * d.blockSize) (bY * d.blockSize + d.blockSize))

def addPixelDiff (currentY : Bytes) (blockDiffSum : ℤ) (p : ℤ × ℤ) : Option ℤ := do
  let rowOffset := p.2 * d.width
  let idx := rowOffset + p.1
  let c ← Go.index currentY idx
  let l ← Go.index d.lastY idx
  let diff : ℤ := (c.toNat : ℤ) - (l.toNat : ℤ)
  some (blockDiffSum + if diff < 0 then -diff else diff)

def blockDiffSum (currentY : Bytes) (bX bY : ℤ) : Option ℤ :=
  (d.pixels bX bY).foldlM (d.addPixelDiff currentY) 0

/-- The running values of the block loop. -/
structure Scan where
  activeBlocks : ℤ
  maxBlockDelta : ℚ
  minBX : ℤ
  minBY : ℤ
  maxBX : ℤ
  maxBY : ℤ

def scanStart : Scan where
  activeBlocks := 0
  maxBlockDelta := 0
  minBX := d.gridW
  minBY := d.gridH
  maxBX := -1
  maxBY := -1

def blockMAD (diffSum : ℤ) : ℚ :=
  (diffSum : ℚ) / ((d.blockSize * d.blockSize : ℤ) : ℚ)

def scanUpdate (s : Scan) (b : ℤ × ℤ) (mad : ℚ) : Scan :=
  let s := if s.maxBlockDelta < mad then { s with maxBlockDelta := mad } else s
  if d.threshold ≤ mad then
    { s with
      activeBlocks := s.activeBlocks + 1
      minBX := if b.1 < s.minBX then b.1 else s.minBX
      maxBX := if s.maxBX < b.1 then b.1 else s.maxBX
      minBY := if b.2 < s.minBY then b.2 else s.minBY
      maxBY := if s.maxBY < b.2 then b.2 else s.maxBY }
  else s

def scanBlock (currentY : Bytes) (s : Scan) (b : ℤ × ℤ) : Option Scan := do
  let masked ← Go.index d.isMasked (b.2 * d.gridW + b.1)
  if masked then some s
  else
    let diffSum ← d.blockDiffSum currentY b.1 b.2
    some (d.scanUpdate s b (d.blockMAD diffSum))

def scanResult (s : Scan) : MotionResult :=
  let ratio : ℚ := (s.activeBlocks : ℚ) / (d.effectiveBlocks : ℚ)
  let isLightingShift := decide (d.lightingShiftRatio ≤ ratio)
  let hasMotion := decide (d.minActiveBlocks ≤ s.activeBlocks) && !isLightingShift
  { hasMotion := hasMotion
    activeBlocks := s.activeBlocks
    totalBlocks := d.totalBlocks
    effectiveBlocks := d.effectiveBlocks
    isLightingShift := isLightingShift
    maxBlockDelta := s.maxBlockDelta
    motionBox :=
      if hasMotion && decide (0 ≤ s.maxBX) then
        let x2 := (s.maxBX + 1) * d.blockSize
        let y2 := (s.maxBY + 1) * d.blockSize
        some {
          x1 := s.minBX * d.blockSize
          y1 := s.minBY * d.blockSize
          x2 := if d.width < x2 then d.width else x2
          y2 := if d.height < y2 then d.height else y2 }
      else none }

def firstResult : MotionResult where
  hasMotion := false
  activeBlocks := 0
  totalBlocks := d.totalBlocks
  effectiveBlocks := d.effectiveBlocks
  isLightingShift := false
  maxBlockDelta := 0
  motionBox := none

def remember (currentY : Bytes) : MacroblockDetector :=
  { d with lastY := Go.copy d.lastY currentY, hasLastFrame := true }

def analyze (currentY : Bytes) : Option (MacroblockDetector × MotionResult) :=
  if !d.hasLastFrame then some (d.remember currentY, d.firstResult)
  else do
    let s ← d.blocks.foldlM (d.scanBlock currentY) d.scanStart
    some (d.remember currentY, d.scanResult s)

def reset : MacroblockDetector :=
  { d with hasLastFrame := false }

end MacroblockDetector

inductive DetectorCall
  | analyze (currentY : Bytes)
  | reset

def detectorStep (d : MacroblockDetector) : DetectorCall → Option (MacroblockDetector × Option MotionResult)
  | .analyze currentY => (d.analyze currentY).map (fun p => (p.1, some p.2))
  | .reset => some (d.reset, none)

/-- The results of a sequence of calls on a fresh detector. -/
def detectorResults (cfg : Config) (calls : List DetectorCall) : Option (List (Option MotionResult)) := do
  let d ← newMacroblockDetector cfg
  let (_, results) ← Transition.exec detectorStep d calls
  some results

end IntruderWatch
