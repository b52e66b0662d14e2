import IntruderWatch.Snapshot
import IntruderWatch.Library.StoreTraces
import IntruderWatch.Proofs.MotionScan

/-!
# The stores of the visual overlay

`drawVisualOverlay` only stores pixels, so it is described by the list of the pixels it
writes, in order. The list follows the loops of the source; which pixels of a zone it holds is
stated by rectangles, and by what becomes of the sides that are so far out that a sum wraps.
-/

namespace IntruderWatch.Proofs

/-- The store `raw[y*w+x] = value`. -/
structure PixelWrite where
  x : ℤ
  y : ℤ
  value : UInt8

/-- The index of the store. -/
def PixelWrite.index (s : SnapshotManager) (p : PixelWrite) : ℤ :=
  Go.wrap64 (p.y * s.frameW + p.x)

section Trace

variable (s : SnapshotManager)

/-- `f` writes exactly the given pixels. -/
def Paints (f : Bytes → Option Bytes) (ps : List PixelWrite) : Prop :=
  Go.Stores f (ps.map (fun p => (p.index s, p.value)))

variable {s} {f g : Bytes → Option Bytes} {ps qs : List PixelWrite}

lemma Paints.skip : Paints s some [] := Go.Stores.skip

lemma Paints.pixel (x y : ℤ) (v : UInt8) : Paints s (fun raw => s.setPixel v raw x y) [⟨x, y, v⟩] :=
  Go.Stores.single (Go.wrap64 (y * s.frameW + x)) v

lemma Paints.bind (hf : Paints s f ps) (hg : Paints s g qs) :
    Paints s (fun raw => (f raw).bind g) (ps ++ qs) := by
  unfold Paints
  rw [List.map_append]
  exact Go.Stores.bind hf hg

lemma Paints.ite {p : Prop} [Decidable p] (hf : Paints s f ps) :
    Paints s (fun raw => if p then f raw else some raw) (if p then ps else []) := by
  have h := Go.Stores.ite (p := p) hf Go.Stores.skip
  unfold Paints
  rw [apply_ite (List.map _), List.map_nil]
  exact h

/-- A guarded write before the rest `g` of a block. -/
lemma Paints.guarded {p : Prop} [Decidable p] (hf : Paints s f ps) (hg : Paints s g qs) :
    Paints s (fun raw => if p then (f raw).bind g else (some raw).bind g)
      ((if p then ps else []) ++ qs) := by
  by_cases hp : p
  · simp only [hp, if_true]
    exact hf.bind hg
  · simp only [hp, if_false]
    exact Paints.skip.bind hg

lemma Paints.loop {body : Bytes → ℤ → Option Bytes} {trace : ℤ → List PixelWrite} {xs : List ℤ}
    (h : ∀ x ∈ xs, Paints s (fun raw => body raw x) (trace x)) :
    Paints s (fun raw => xs.foldlM body raw) (xs.flatMap trace) := by
  unfold Paints
  rw [List.map_flatMap]
  exact Go.Stores.loop h

end Trace

/-! ### The pixels in the order of the loops -/

section Pixels

variable (s : SnapshotManager)

def verticalPixels : List PixelWrite :=
  (Go.rangeBy 200 s.frameW 200).flatMap
    (fun x => (Go.range 0 s.frameH).flatMap (fun y => [⟨x, y, 240⟩]))

def horizontalPixels : List PixelWrite :=
  (Go.rangeBy 200 s.frameH 200).flatMap
    (fun y => (Go.range 0 s.frameW).flatMap (fun x => [⟨x, y, 240⟩]))

def borderPixels (x1 y1 x2 y2 t : ℤ) : List PixelWrite :=
  let top := Go.wrap64 (y1 + t)
  let bottom := Go.wrap64 (y2 - 1 - t)
  let left := Go.wrap64 (x1 + t)
  let right := Go.wrap64 (x2 - 1 - t)
  (Go.range x1 x2).flatMap (fun x => (if top < s.frameH then [⟨x, top, 255⟩] else []) ++
      if 0 ≤ bottom ∧ bottom < s.frameH then [⟨x, bottom, 255⟩] else []) ++
    (Go.range y1 y2).flatMap (fun y => (if left < s.frameW then [⟨left, y, 255⟩] else []) ++
      if 0 ≤ right ∧ right < s.frameW then [⟨right, y, 255⟩] else [])

def crosshatchPixels (x1 y1 x2 y2 : ℤ) : List PixelWrite :=
  (Go.range (Go.wrap64 (y1 + 4)) (Go.wrap64 (y2 - 4))).flatMap (fun y =>
    (Go.range (Go.wrap64 (x1 + 4)) (Go.wrap64 (x2 - 4))).flatMap (fun x =>
      if (Go.wrap64 (x + y)).tmod 24 = 0 ∨ (Go.wrap64 (x - y)).tmod 24 = 0 then [⟨x, y, 220⟩]
      else []))

/-- A side of a zone as the overlay reads it. -/
def cut (frame side : ℤ) : ℤ := if frame < side then frame else side

def zonePixels (zone : Zone) : List PixelWrite :=
  (Go.range 0 4).flatMap
      (borderPixels s zone.x1 zone.y1 (cut s.frameW zone.x2) (cut s.frameH zone.y2)) ++
    crosshatchPixels zone.x1 zone.y1 (cut s.frameW zone.x2) (cut s.frameH zone.y2)

def overlayPixels : List PixelWrite :=
  verticalPixels s ++ (horizontalPixels s ++ s.zones.flatMap (zonePixels s))

lemma paints_border (x1 y1 x2 y2 t : ℤ) :
    Paints s (fun raw => s.drawBorder x1 y1 x2 y2 raw t) (borderPixels s x1 y1 x2 y2 t) := by
  unfold SnapshotManager.drawBorder borderPixels
  apply Paints.bind
  · apply Paints.loop
    intro x _
    exact (Paints.pixel x _ 255).guarded (Paints.pixel x _ 255).ite
  · apply Paints.loop
    intro y _
    exact (Paints.pixel _ y 255).guarded (Paints.pixel _ y 255).ite

lemma paints_crosshatch (x1 y1 x2 y2 : ℤ) :
    Paints s (s.drawCrosshatch x1 y1 x2 y2) (crosshatchPixels x1 y1 x2 y2) := by
  unfold SnapshotManager.drawCrosshatch crosshatchPixels
  apply Paints.loop
  intro y _
  apply Paints.loop
  intro x _
  exact (Paints.pixel x y 220).ite

lemma paints_zone (zone : Zone) : Paints s (fun raw => s.drawZone raw zone) (zonePixels s zone) := by
  unfold SnapshotManager.drawZone zonePixels cut
  apply Paints.bind
  · apply Paints.loop
    intro t _
    exact paints_border s zone.x1 zone.y1 _ _ t
  · exact paints_crosshatch s zone.x1 zone.y1 _ _

lemma paints_verticals : Paints s (fun raw => (Go.rangeBy 200 s.frameW 200).foldlM (fun raw x =>
    (Go.range 0 s.frameH).foldlM (fun raw y => s.setPixel 240 raw x y) raw) raw)
    (verticalPixels s) := by
  apply Paints.loop
  intro x _
  apply Paints.loop
  intro y _
  exact Paints.pixel x y 240

lemma paints_horizontals : Paints s (fun raw => (Go.rangeBy 200 s.frameH 200).foldlM (fun raw y =>
    (Go.range 0 s.frameW).foldlM (fun raw x => s.setPixel 240 raw x y) raw) raw)
    (horizontalPixels s) := by
  apply Paints.loop
  intro y _
  apply Paints.loop
  intro x _
  exact Paints.pixel x y 240

lemma paints_zones : Paints s (fun raw => s.zones.foldlM s.drawZone raw)
    (s.zones.flatMap (zonePixels s)) := by
  unfold Paints
  rw [List.map_flatMap]
  apply Go.Stores.loop
  intro zone _
  exact paints_zone s zone

/-- The overlay writes these pixels, in this order, and nothing else. -/
theorem paints_overlay : Paints s s.drawVisualOverlay (overlayPixels s) :=
  (paints_verticals s).bind ((paints_horizontals s).bind (paints_zones s))

end Pixels

/-! ### Where the pixels lie -/

def InFrame (s : SnapshotManager) (x y : ℤ) : Prop :=
  (0 ≤ x ∧ x < s.frameW) ∧ 0 ≤ y ∧ y < s.frameH

/-- A line of the coordinate grid goes through the pixel. -/
def OnGridLine (x y : ℤ) : Prop :=
  (0 < x ∧ x % 200 = 0) ∨ 0 < y ∧ y % 200 = 0

/-- A frame whose luminance plane can be allocated. -/
structure FrameFits (frameW frameH : ℤ) : Prop where
  width : 0 < frameW
  height : 0 < frameH
  size : frameW * frameH ≤ Go.maxAlloc

namespace FrameFits

variable {w h x y : ℤ}

lemma size_le (hfit : FrameFits w h) : w * h ≤ 2 ^ 48 := by
  have hsize := hfit.size
  unfold Go.maxAlloc at hsize
  exact_mod_cast hsize

lemma width_le (hfit : FrameFits w h) : w ≤ 2 ^ 48 := by
  have hwidth := le_mul_of_one_le_right hfit.width.le (by linarith [hfit.height] : 1 ≤ h)
  exact hwidth.trans hfit.size_le

lemma height_le (hfit : FrameFits w h) : h ≤ 2 ^ 48 := by
  have hheight := le_mul_of_one_le_left hfit.height.le (by linarith [hfit.width] : 1 ≤ w)
  exact hheight.trans hfit.size_le

end FrameFits

section Index

variable {s : SnapshotManager} {p : PixelWrite}

lemma index_of_inFrame (hfit : FrameFits s.frameW s.frameH) (h : InFrame s p.x p.y) :
    p.index s = p.y * s.frameW + p.x := by
  obtain ⟨⟨hx0, hx⟩, hy0, hy⟩ := h
  have hrange := rowMajor_bounds hx0 hx hy0 hy
  have hsize := hfit.size_le
  exact Go.wrap64_eq_self (by omega) (by omega)

/-- The stores of the pixels of the frame address the luminance plane. -/
lemma index_bounds (hfit : FrameFits s.frameW s.frameH) (h : InFrame s p.x p.y) :
    0 ≤ p.index s ∧ p.index s < s.frameW * s.frameH := by
  rw [index_of_inFrame hfit h]
  exact rowMajor_bounds h.1.1 h.1.2 h.2.1 h.2.2

end Index

/-! ### The sides of a zone -/

/-- The sides `lo` and `hi` of a zone along an axis, for a zone that does not begin before the
frame. -/
structure Sides (frame lo hi : ℤ) : Prop where
  low : 0 ≤ lo ∧ lo < 2 ^ 63
  high : -2 ^ 63 ≤ hi ∧ hi ≤ frame
  meets : 0 < lo → 0 ≤ hi

/-- A side of the crosshatch along the axis wraps round. -/
def Far (lo hi : ℤ) : Prop := 2 ^ 63 ≤ lo + 4 ∨ hi - 4 < -2 ^ 63

namespace Sides

variable {frame lo hi : ℤ}

lemma near (h : Sides frame lo hi) (hframe : frame ≤ 2 ^ 48) (hfar : ¬ Far lo hi) :
    Go.wrap64 (lo + 4) = lo + 4 ∧ Go.wrap64 (hi - 4) = hi - 4 := by
  obtain ⟨hlow, hhigh, -⟩ := h
  unfold Far at hfar
  exact ⟨Go.wrap64_eq_self (by omega) (by omega), Go.wrap64_eq_self (by omega) (by omega)⟩

lemma not_far (h : Sides frame lo hi) (hframe : frame ≤ 2 ^ 48) (hlt : lo + 8 < hi) :
    ¬ Far lo hi := by
  obtain ⟨hlow, hhigh, -⟩ := h
  unfold Far
  omega

/-- The crosshatch of a side that wraps has all the pixels before the frame, or all the pixels
from the fifth one on, up to a distance that no frame reaches. -/
lemma far (h : Sides frame lo hi) (hframe : frame ≤ 2 ^ 48) (hfar : Far lo hi) :
    (∀ c, -2 ^ 62 ≤ c → c ≤ -5 → Go.wrap64 (lo + 4) ≤ c ∧ c < Go.wrap64 (hi - 4)) ∨
      ∀ c, 4 ≤ c → c ≤ 2 ^ 62 → Go.wrap64 (lo + 4) ≤ c ∧ c < Go.wrap64 (hi - 4) := by
  obtain ⟨hlow, hhigh, hmeets⟩ := h
  rcases hfar with hlo | hhi
  · left
    intro c hc0 hc
    rw [Go.wrap64_of_ge hlo (by omega), Go.wrap64_eq_self (n := hi - 4) (by omega) (by omega)]
    omega
  · right
    intro c hc0 hc
    rw [Go.wrap64_of_lt (n := hi - 4) (by omega) hhi,
      Go.wrap64_eq_self (n := lo + 4) (by omega) (by omega)]
    omega

/-- A side that is hatched at all has a pixel near the frame. -/
lemma exists_inner (h : Sides frame lo hi) (hpos : 0 < frame) (hframe : frame ≤ 2 ^ 48)
    (hin : Far lo hi ∨ lo + 8 < hi) :
    ∃ c, (Go.wrap64 (lo + 4) ≤ c ∧ c < Go.wrap64 (hi - 4)) ∧ -5 ≤ c ∧ c ≤ frame + 4 := by
  rcases hin with hfar | hlt
  · rcases h.far hframe hfar with hbefore | hbehind
    · exact ⟨-5, hbefore (-5) (by norm_num) le_rfl, by omega⟩
    · exact ⟨4, hbehind 4 le_rfl (by norm_num), by omega⟩
  · obtain ⟨hlo, hhi⟩ := h.near hframe (h.not_far hframe hlt)
    have hlow := h.low
    have hhigh := h.high
    exact ⟨lo + 4, by omega, by omega⟩

end Sides

lemma exists_congr_below (m c : ℤ) : ∃ x, (m - 24 < x ∧ x ≤ m) ∧ 24 ∣ x - c :=
  ⟨m - (m - c) % 24, by omega, by omega⟩

lemma exists_congr_above (m c : ℤ) : ∃ x, (m ≤ x ∧ x < m + 24) ∧ 24 ∣ x - c :=
  ⟨m + (c - m) % 24, by omega, by omega⟩

section Places

variable {s : SnapshotManager} {zone : Zone} {x1 y1 x2 y2 x y : ℤ} {v : UInt8}

/-- The pixel is on the border that is drawn for the rectangle `[x1, x2) × [y1, y2)`. -/
def OnBorder (s : SnapshotManager) (x1 y1 x2 y2 x y : ℤ) : Prop :=
  ((x1 ≤ x ∧ x < x2) ∧ ((y1 ≤ y ∧ y < y1 + 4 ∧ y < s.frameH) ∨
      y2 - 4 ≤ y ∧ y < y2 ∧ 0 ≤ y ∧ y < s.frameH)) ∨
    (y1 ≤ y ∧ y < y2) ∧ ((x1 ≤ x ∧ x < x1 + 4 ∧ x < s.frameW) ∨
      x2 - 4 ≤ x ∧ x < x2 ∧ 0 ≤ x ∧ x < s.frameW)

/-- The pixel is in a row or column of the border whose number has wrapped round. -/
def OnWrapped (x1 y1 x2 y2 x y : ℤ) : Prop :=
  ((x1 ≤ x ∧ x < x2) ∧ -2 ^ 63 ≤ y ∧ y + 2 ^ 64 < y1 + 4) ∨
    (y1 ≤ y ∧ y < y2) ∧ -2 ^ 63 ≤ x ∧ x + 2 ^ 64 < x1 + 4

lemma mem_grid_iff : ⟨x, y, v⟩ ∈ verticalPixels s ++ horizontalPixels s ↔
    v = 240 ∧ InFrame s x y ∧ OnGridLine x y := by
  unfold verticalPixels horizontalPixels InFrame OnGridLine
  simp only [List.mem_append, List.mem_flatMap, List.mem_singleton, PixelWrite.mk.injEq,
    Go.mem_range, Go.mem_rangeBy (show (0 : ℤ) < 200 by norm_num)]
  constructor
  · rintro (⟨a, ha, b, hb, rfl, rfl, rfl⟩ | ⟨b, hb, a, ha, rfl, rfl, rfl⟩)
    · exact ⟨rfl, by omega, by omega⟩
    · exact ⟨rfl, by omega, by omega⟩
  · rintro ⟨rfl, hin, hx | hy⟩
    · exact .inl ⟨x, by omega, y, by omega, rfl, rfl, rfl⟩
    · exact .inr ⟨y, by omega, x, by omega, rfl, rfl, rfl⟩

/-- The rows of the upper edge, and in the same way the columns of the left one. -/
lemma upper_iff {frame lo hi c : ℤ} (h : Sides frame lo hi) (hpos : 0 < frame)
    (hframe : frame ≤ 2 ^ 48) :
    (∃ t, (0 ≤ t ∧ t < 4) ∧ Go.wrap64 (lo + t) < frame ∧ c = Go.wrap64 (lo + t)) ↔
      (lo ≤ c ∧ c < lo + 4 ∧ c < frame) ∨ -2 ^ 63 ≤ c ∧ c + 2 ^ 64 < lo + 4 := by
  obtain ⟨hlow, -, -⟩ := h
  constructor
  · rintro ⟨t, ht, hin, rfl⟩
    by_cases hwrap : 2 ^ 63 ≤ lo + t
    · rw [Go.wrap64_of_ge hwrap (by omega)] at hin ⊢
      right
      omega
    · rw [Go.wrap64_eq_self (by omega) (by omega)] at hin ⊢
      left
      omega
  · rintro (⟨hc0, hc, hin⟩ | ⟨hc0, hc⟩)
    · have heq : Go.wrap64 (lo + (c - lo)) = c := by
        rw [add_sub_cancel, Go.wrap64_eq_self (by omega) (by omega)]
      exact ⟨c - lo, by omega, heq.symm ▸ hin, heq.symm⟩
    · have heq : Go.wrap64 (lo + (c + 2 ^ 64 - lo)) = c := by
        rw [add_sub_cancel, Go.wrap64_of_ge (by omega) (by omega), add_sub_cancel_right]
      exact ⟨c + 2 ^ 64 - lo, by omega, heq.symm ▸ (by omega), heq.symm⟩

/-- The rows of the lower edge and the columns of the right one, where both ends are checked. -/
lemma lower_iff {frame lo hi c : ℤ} (h : Sides frame lo hi) (hframe : frame ≤ 2 ^ 48) :
    (∃ t, (0 ≤ t ∧ t < 4) ∧ (0 ≤ Go.wrap64 (hi - 1 - t) ∧ Go.wrap64 (hi - 1 - t) < frame) ∧
        c = Go.wrap64 (hi - 1 - t)) ↔
      hi - 4 ≤ c ∧ c < hi ∧ 0 ≤ c ∧ c < frame := by
  obtain ⟨-, hhigh, -⟩ := h
  constructor
  · rintro ⟨t, ht, hin, rfl⟩
    by_cases hwrap : hi - 1 - t < -2 ^ 63
    · rw [Go.wrap64_of_lt (by omega) hwrap] at hin
      omega
    · rw [Go.wrap64_eq_self (by omega) (by omega)] at hin ⊢
      omega
  · rintro ⟨hc0, hc, hin⟩
    have heq : Go.wrap64 (hi - 1 - (hi - 1 - c)) = c := by
      rw [sub_sub_cancel, Go.wrap64_eq_self (by omega) (by omega)]
    exact ⟨hi - 1 - c, by omega, by rwa [heq], heq.symm⟩

section Zones

variable (hfit : FrameFits s.frameW s.frameH) (hx : Sides s.frameW x1 x2)
  (hy : Sides s.frameH y1 y2)

include hfit hx hy

lemma mem_border_iff : ⟨x, y, v⟩ ∈ (Go.range 0 4).flatMap (borderPixels s x1 y1 x2 y2) ↔
    v = 255 ∧ (OnBorder s x1 y1 x2 y2 x y ∨ OnWrapped x1 y1 x2 y2 x y) := by
  have hupper := fun c => @upper_iff _ _ _ c hy hfit.height hfit.height_le
  have hleft := fun c => @upper_iff _ _ _ c hx hfit.width hfit.width_le
  have hlower := fun c => @lower_iff _ _ _ c hy hfit.height_le
  have hright := fun c => @lower_iff _ _ _ c hx hfit.width_le
  unfold borderPixels OnBorder OnWrapped
  simp only [List.mem_append, List.mem_flatMap, List.mem_ite_nil_right, List.mem_singleton,
    PixelWrite.mk.injEq, Go.mem_range]
  constructor
  · rintro ⟨t, ht, ⟨a, ha, ⟨hin, rfl, hc, rfl⟩ | ⟨hin, rfl, hc, rfl⟩⟩ |
      ⟨b, hb, ⟨hin, hc, rfl, rfl⟩ | ⟨hin, hc, rfl, rfl⟩⟩⟩
    · rcases (hupper y).mp ⟨t, ht, hin, hc⟩ with hrow | hrow
      · exact ⟨rfl, .inl (.inl ⟨ha, .inl hrow⟩)⟩
      · exact ⟨rfl, .inr (.inl ⟨ha, hrow⟩)⟩
    · exact ⟨rfl, .inl (.inl ⟨ha, .inr ((hlower y).mp ⟨t, ht, hin, hc⟩)⟩)⟩
    · rcases (hleft x).mp ⟨t, ht, hin, hc⟩ with hcol | hcol
      · exact ⟨rfl, .inl (.inr ⟨hb, .inl hcol⟩)⟩
      · exact ⟨rfl, .inr (.inr ⟨hb, hcol⟩)⟩
    · exact ⟨rfl, .inl (.inr ⟨hb, .inr ((hright x).mp ⟨t, ht, hin, hc⟩)⟩)⟩
  · rintro ⟨rfl, (⟨hrow, hc | hc⟩ | ⟨hcol, hc | hc⟩) | (⟨hrow, hc⟩ | ⟨hcol, hc⟩)⟩
    · obtain ⟨t, ht, hin, hc⟩ := (hupper y).mpr (.inl hc)
      exact ⟨t, ht, .inl ⟨x, hrow, .inl ⟨hin, rfl, hc, rfl⟩⟩⟩
    · obtain ⟨t, ht, hin, hc⟩ := (hlower y).mpr hc
      exact ⟨t, ht, .inl ⟨x, hrow, .inr ⟨hin, rfl, hc, rfl⟩⟩⟩
    · obtain ⟨t, ht, hin, hc⟩ := (hleft x).mpr (.inl hc)
      exact ⟨t, ht, .inr ⟨y, hcol, .inl ⟨hin, hc, rfl, rfl⟩⟩⟩
    · obtain ⟨t, ht, hin, hc⟩ := (hright x).mpr hc
      exact ⟨t, ht, .inr ⟨y, hcol, .inr ⟨hin, hc, rfl, rfl⟩⟩⟩
    · obtain ⟨t, ht, hin, hc⟩ := (hupper y).mpr (.inr hc)
      exact ⟨t, ht, .inl ⟨x, hrow, .inl ⟨hin, rfl, hc, rfl⟩⟩⟩
    · obtain ⟨t, ht, hin, hc⟩ := (hleft x).mpr (.inr hc)
      exact ⟨t, ht, .inr ⟨y, hcol, .inl ⟨hin, hc, rfl, rfl⟩⟩⟩

end Zones

lemma mem_crosshatch_iff : ⟨x, y, v⟩ ∈ crosshatchPixels x1 y1 x2 y2 ↔
    v = 220 ∧ (Go.wrap64 (x1 + 4) ≤ x ∧ x < Go.wrap64 (x2 - 4)) ∧
      (Go.wrap64 (y1 + 4) ≤ y ∧ y < Go.wrap64 (y2 - 4)) ∧
      ((Go.wrap64 (x + y)).tmod 24 = 0 ∨ (Go.wrap64 (x - y)).tmod 24 = 0) := by
  unfold crosshatchPixels
  simp only [List.mem_flatMap, List.mem_ite_nil_right, List.mem_singleton, PixelWrite.mk.injEq,
    Go.mem_range]
  constructor
  · rintro ⟨b, hb, a, ha, hline, rfl, rfl, rfl⟩
    exact ⟨rfl, ha, hb, hline⟩
  · rintro ⟨rfl, ha, hb, hline⟩
    exact ⟨y, hb, x, ha, hline, rfl, rfl, rfl⟩

/-- The pixels of the crosshatch on the lines `x - y = 24 k`. -/
lemma mem_crosshatch_of_dvd (hx : Go.wrap64 (x1 + 4) ≤ x ∧ x < Go.wrap64 (x2 - 4))
    (hy : Go.wrap64 (y1 + 4) ≤ y ∧ y < Go.wrap64 (y2 - 4)) (hrange : |x - y| < 2 ^ 63)
    (hdvd : 24 ∣ x - y) : ⟨x, y, 220⟩ ∈ crosshatchPixels x1 y1 x2 y2 := by
  have hbounds := abs_lt.mp hrange
  refine mem_crosshatch_iff.mpr ⟨rfl, hx, hy, .inr ?_⟩
  rw [Go.wrap64_eq_self hbounds.1.le hbounds.2]
  exact Int.tmod_eq_zero_of_dvd hdvd

/-! ### Drawings that leave the frame -/

/-- The crosshatch of a rectangle leaves the frame. -/
def HatchLeaves (x1 y1 x2 y2 : ℤ) : Prop :=
  (Far x1 x2 ∧ (Far y1 y2 ∨ y1 + 8 < y2)) ∨ Far y1 y2 ∧ x1 + 8 < x2

/-- The drawing of a rectangle leaves the frame, since one of its sums wraps. -/
def RunsOff (x1 y1 x2 y2 : ℤ) : Prop :=
  (x1 < x2 ∧ 2 ^ 63 ≤ y1 + 3) ∨ (y1 < y2 ∧ 2 ^ 63 ≤ x1 + 3) ∨ HatchLeaves x1 y1 x2 y2

section Zones

variable (hfit : FrameFits s.frameW s.frameH) (hx : Sides s.frameW x1 x2)
  (hy : Sides s.frameH y1 y2)

include hfit hx hy

/-- A crosshatch that wraps along the rows stores before the buffer or behind the plane. -/
lemma hatch_outside_row (hfar : Far x1 x2) (hrows : Far y1 y2 ∨ y1 + 8 < y2) :
    ∃ p ∈ crosshatchPixels x1 y1 x2 y2, p.index s < 0 ∨ s.frameW * s.frameH ≤ p.index s := by
  obtain ⟨y, hrange, hy0, hy1⟩ := hy.exists_inner hfit.height hfit.height_le hrows
  have hw := hfit.width_le
  have hh := hfit.height_le
  have hsize := hfit.size_le
  have hlow : -5 * s.frameW ≤ y * s.frameW := mul_le_mul_of_nonneg_right hy0 hfit.width.le
  have hhigh : y * s.frameW ≤ (s.frameH + 4) * s.frameW :=
    mul_le_mul_of_nonneg_right hy1 hfit.width.le
  rw [add_mul, mul_comm s.frameH] at hhigh
  unfold PixelWrite.index
  rcases hx.far hfit.width_le hfar with hbefore | hbehind
  · obtain ⟨x, hxm, hdvd⟩ := exists_congr_below (-2 ^ 60) y
    have hmem := mem_crosshatch_of_dvd (hbefore x (by omega) (by omega)) hrange
      (abs_lt.mpr (by omega)) hdvd
    refine ⟨_, hmem, .inl ?_⟩
    dsimp only
    rw [Go.wrap64_eq_self (by omega) (by omega)]
    omega
  · obtain ⟨x, hxm, hdvd⟩ := exists_congr_above (2 ^ 60) y
    have hmem := mem_crosshatch_of_dvd (hbehind x (by omega) (by omega)) hrange
      (abs_lt.mpr (by omega)) hdvd
    refine ⟨_, hmem, .inr ?_⟩
    dsimp only
    rw [Go.wrap64_eq_self (by omega) (by omega)]
    omega

lemma hatch_outside_column (hfar : Far y1 y2) (hcols : x1 + 8 < x2) :
    ∃ p ∈ crosshatchPixels x1 y1 x2 y2, p.index s < 0 ∨ s.frameW * s.frameH ≤ p.index s := by
  have hw := hfit.width_le
  have hh := hfit.height_le
  have hwpos := hfit.width
  have hhpos := hfit.height
  have harea := mul_pos hwpos hhpos
  have hsize := hfit.size_le
  have hlow := hx.low
  have hhigh := hx.high
  have hcol : Go.wrap64 (x1 + 4) ≤ x1 + 4 ∧ x1 + 4 < Go.wrap64 (x2 - 4) := by
    obtain ⟨hlo, hhi⟩ := hx.near hw (hx.not_far hw hcols)
    omega
  unfold PixelWrite.index
  rcases hy.far hfit.height_le hfar with hbefore | hbehind
  · obtain ⟨y, hym, hdvd⟩ := exists_congr_below (-5) (x1 + 4)
    have hmem := mem_crosshatch_of_dvd hcol (hbefore y (by omega) (by omega))
      (abs_lt.mpr (by omega)) (by omega)
    have hup : y * s.frameW ≤ -5 * s.frameW := mul_le_mul_of_nonneg_right hym.2 hwpos.le
    have hdown : -29 * s.frameW ≤ y * s.frameW :=
      mul_le_mul_of_nonneg_right (by omega) hwpos.le
    refine ⟨_, hmem, .inl ?_⟩
    dsimp only
    rw [Go.wrap64_eq_self (by omega) (by omega)]
    omega
  · obtain ⟨y, hym, hdvd⟩ := exists_congr_above (s.frameH + 4) (x1 + 4)
    have hmem := mem_crosshatch_of_dvd hcol (hbehind y (by omega) (by omega))
      (abs_lt.mpr (by omega)) (by omega)
    have hdown : (s.frameH + 4) * s.frameW ≤ y * s.frameW :=
      mul_le_mul_of_nonneg_right hym.1 hwpos.le
    have hup : y * s.frameW ≤ (s.frameH + 28) * s.frameW :=
      mul_le_mul_of_nonneg_right (by omega) hwpos.le
    rw [add_mul, mul_comm s.frameH] at hup hdown
    refine ⟨_, hmem, .inr ?_⟩
    dsimp only
    rw [Go.wrap64_eq_self (by omega) (by omega)]
    omega

lemma hatch_outside (h : HatchLeaves x1 y1 x2 y2) :
    ∃ p ∈ crosshatchPixels x1 y1 x2 y2, p.index s < 0 ∨ s.frameW * s.frameH ≤ p.index s := by
  rcases h with ⟨hfar, hrows⟩ | ⟨hfar, hcols⟩
  · exact hatch_outside_row hfit hx hy hfar hrows
  · exact hatch_outside_column hfit hx hy hfar hcols

/-- A crosshatch that stays in the frame stays in its rectangle. -/
lemma hatch_inside (hstays : ¬ HatchLeaves x1 y1 x2 y2)
    (h : ⟨x, y, v⟩ ∈ crosshatchPixels x1 y1 x2 y2) :
    (x1 + 4 ≤ x ∧ x < x2 - 4) ∧ y1 + 4 ≤ y ∧ y < y2 - 4 := by
  obtain ⟨-, hcol, hrow, -⟩ := mem_crosshatch_iff.mp h
  unfold HatchLeaves at hstays
  by_cases hfx : Far x1 x2
  · by_cases hfy : Far y1 y2
    · exact absurd (.inl ⟨hfx, .inl hfy⟩) hstays
    · obtain ⟨hlo, hhi⟩ := hy.near hfit.height_le hfy
      exact absurd (.inl ⟨hfx, .inr (by omega)⟩) hstays
  · obtain ⟨hxlo, hxhi⟩ := hx.near hfit.width_le hfx
    by_cases hfy : Far y1 y2
    · exact absurd (.inr ⟨hfy, by omega⟩) hstays
    · obtain ⟨hylo, hyhi⟩ := hy.near hfit.height_le hfy
      omega

/-- The drawing of a rectangle stays in the frame if and only if it does not run off. -/
theorem drawing_inFrame_iff :
    (∀ p ∈ (Go.range 0 4).flatMap (borderPixels s x1 y1 x2 y2) ++ crosshatchPixels x1 y1 x2 y2,
      InFrame s p.x p.y) ↔ ¬ RunsOff x1 y1 x2 y2 := by
  have hlow := hx.low
  have hlow' := hy.low
  simp only [List.mem_append]
  constructor
  · rintro hin (⟨hcols, hrow⟩ | ⟨hrows, hcol⟩ | hhatch)
    · have hmem := (mem_border_iff (x := x1) (y := -2 ^ 63) hfit hx hy).mpr
        ⟨rfl, .inr (.inl ⟨⟨le_rfl, hcols⟩, le_rfl, by omega⟩)⟩
      exact absurd (hin _ (.inl hmem)).2.1 (by norm_num)
    · have hmem := (mem_border_iff (x := -2 ^ 63) (y := y1) hfit hx hy).mpr
        ⟨rfl, .inr (.inr ⟨⟨le_rfl, hrows⟩, le_rfl, by omega⟩)⟩
      exact absurd (hin _ (.inl hmem)).1.1 (by norm_num)
    · obtain ⟨p, hp, hindex⟩ := hatch_outside hfit hx hy hhatch
      have hbounds := index_bounds hfit (hin p (.inr hp))
      omega
  · have hhigh := hx.high
    have hhigh' := hy.high
    rintro hstays ⟨x, y, v⟩ hp
    change InFrame s x y
    rcases hp with hborder | hhatch
    · rcases (mem_border_iff hfit hx hy).mp hborder with ⟨-, hon | ⟨hcols, hrow⟩ | ⟨hrows, hcol⟩⟩
      · unfold OnBorder at hon
        unfold InFrame
        omega
      · exact absurd (.inl ⟨by omega, by omega⟩) hstays
      · exact absurd (.inr (.inl ⟨by omega, by omega⟩)) hstays
    · have hinside := hatch_inside hfit hx hy (fun h => hstays (.inr (.inr h))) hhatch
      unfold InFrame
      omega

end Zones

/-- The border is white and the crosshatch is grey, for every zone. -/
lemma zonePixels_value {p : PixelWrite} (hp : p ∈ zonePixels s zone) :
    p.value = 255 ∨ p.value = 220 := by
  unfold zonePixels borderPixels crosshatchPixels at hp
  simp only [List.mem_append, List.mem_flatMap, List.mem_ite_nil_right, List.mem_singleton] at hp
  grind

lemma mem_overlayPixels_iff : ⟨x, y, v⟩ ∈ overlayPixels s ↔
    (v = 240 ∧ InFrame s x y ∧ OnGridLine x y) ∨ ∃ zone ∈ s.zones, ⟨x, y, v⟩ ∈ zonePixels s zone := by
  unfold overlayPixels
  rw [← List.append_assoc, List.mem_append, mem_grid_iff, List.mem_flatMap]

end Places

/-! ### The picture after the overlay -/

section Result

variable {s : SnapshotManager} {raw raw' : Bytes}

lemma overlay_eq (raw : Bytes) : s.drawVisualOverlay raw =
    Go.storeAll raw ((overlayPixels s).map (fun p => (p.index s, p.value))) :=
  paints_overlay s raw

/-- The overlay runs exactly on the buffers that every store addresses. -/
lemma overlay_isSome_iff : (∃ raw', s.drawVisualOverlay raw = some raw') ↔
    ∀ p ∈ overlayPixels s, 0 ≤ p.index s ∧ p.index s < raw.length := by
  rw [overlay_eq, Go.storeAll_isSome_iff, List.forall_mem_map]

/-- If every pixel is in the frame, the overlay does not panic and leaves the chroma planes. -/
lemma overlay_of_inFrame (hfit : FrameFits s.frameW s.frameH)
    (hin : ∀ p ∈ overlayPixels s, InFrame s p.x p.y) (hlen : s.frameW * s.frameH ≤ raw.length) :
    ∃ raw', s.drawVisualOverlay raw = some raw' ∧ raw'.length = raw.length ∧
      ∀ i, s.frameW * s.frameH ≤ i → Go.index raw' i = Go.index raw i := by
  have hrange : ∀ p ∈ overlayPixels s, 0 ≤ p.index s ∧ p.index s < raw.length := by
    intro p hp
    have hbounds := index_bounds hfit (hin p hp)
    exact ⟨hbounds.1, hbounds.2.trans_le hlen⟩
  obtain ⟨raw', hraw⟩ := overlay_isSome_iff.mpr hrange
  have hstores := (overlay_eq raw).symm.trans hraw
  refine ⟨raw', hraw, Go.storeAll_length hstores, ?_⟩
  intro i hi
  apply Go.storeAll_untouched hstores
  intro w hw
  obtain ⟨p, hp, rfl⟩ := List.mem_map.mp hw
  have hbounds := index_bounds hfit (hin p hp)
  dsimp only
  omega

end Result

end IntruderWatch.Proofs
