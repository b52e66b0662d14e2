import Mathlib.Tactic
import Mathlib.Algebra.Order.Field.Rat

/-!
# Capturer configuration

The options of the frame capturer that its motion detection, dispatch and publishing
code reads, with the defaults of `LoadConfig`. Go `int` values are integers, and the
floating-point thresholds are read as exact rationals.
-/

namespace IntruderWatch

/-! A `Time` counts nanoseconds from Go's zero `time.Time`, which is `0`; a `Duration` is in
nanoseconds; `Clock` holds the readings of `time.Now()`, which are never the zero `Time`. -/

abbrev Time := ℤ

abbrev Duration := ℤ

abbrev Clock := {t : Time // 0 < t}

/-- A rectangular region in pixel coordinates, `[x1, x2) × [y1, y2)`. -/
structure Zone where
  name : String
  x1 : ℤ
  y1 : ℤ
  x2 : ℤ
  y2 : ℤ
deriving DecidableEq

def Zone.Contains (zone : Zone) (x y : ℤ) : Prop :=
  zone.x1 ≤ x ∧ x < zone.x2 ∧ zone.y1 ≤ y ∧ y < zone.y2

instance (zone : Zone) (x y : ℤ) : Decidable (zone.Contains x y) := by
  unfold Zone.Contains
  infer_instance

def Zone.Degenerate (zone : Zone) : Prop :=
  zone.x2 ≤ zone.x1 ∨ zone.y2 ≤ zone.y1

instance (zone : Zone) : Decidable zone.Degenerate := by
  unfold Zone.Degenerate
  infer_instance

structure Config where
  channel : ℤ := 1
  frameWidth : ℤ := 1920
  frameHeight : ℤ := 1080
  blockSize : ℤ := 32
  motionThreshold : ℚ := 8
  minActiveBlocks : ℤ := 3
  lightingShiftRatio : ℚ := 3 / 4
  excludeZones : List Zone := []
  postRollDuration : Duration := 1500000000

end IntruderWatch
