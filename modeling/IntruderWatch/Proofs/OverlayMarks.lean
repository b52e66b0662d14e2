import IntruderWatch.Proofs.OverlayBounds

/-!
# What the overlay marks

The border of a zone is four pixels thick, drawn inwards from each side without a look at the
opposite side, so a thin, empty or clamped-away rectangle is drawn beyond itself. Rows whose
number wraps come back at the top of a frame of even width, and other sums that wrap make the
overlay panic. The pixels that stray are computed from the tuple, and the overlay marks only the
configured rectangles exactly when it runs and none of them is left over.
-/

namespace IntruderWatch.Proofs

namespace Marks

variable (t : ZoneTuple) (x y : ℤ)

/-- The rectangle of a tuple, as it is configured. -/
def Covers : Prop :=
  (min t.x1 t.x2 ≤ x ∧ x < max t.x1 t.x2) ∧ min t.y1 t.y2 ≤ y ∧ y < max t.y1 t.y2

variable (frameW frameH : ℤ)

/-- The pixels of the frame in the strips of four pixels along the sides of the clamped
rectangle that lie beyond the opposite side. -/
def Overhangs : Prop :=
  ((0 ≤ x ∧ x < frameW) ∧ 0 ≤ y ∧ y < frameH) ∧
    (((left t ≤ x ∧ x < right t frameW) ∧
        ((bottom t frameH ≤ y ∧ top t ≤ y ∧ y < top t + 4) ∨
          y < top t ∧ bottom t frameH - 4 ≤ y ∧ y < bottom t frameH)) ∨
      (top t ≤ y ∧ y < bottom t frameH) ∧
        ((right t frameW ≤ x ∧ left t ≤ x ∧ x < left t + 4) ∨
          x < left t ∧ right t frameW - 4 ≤ x ∧ x < right t frameW))

/-- The pixels of the frame that the rows below `-2^63` come back to: row `-2^63 + y` of an even
width has the indices of row `y`. -/
def Folds : Prop :=
  (left t ≤ x ∧ x < right t frameW) ∧ 0 ≤ y ∧ 2 ^ 63 + y < top t + 4

/-- The pixels that are marked beyond the clamped rectangle. -/
def Strays : Prop := Overhangs t x y frameW frameH ∨ Folds t x y frameW

/-- The drawing of the tuple makes the overlay panic. -/
def Panics : Prop :=
  (left t < right t frameW ∧ 2 ^ 63 ≤ top t + 3 ∧
      (frameW % 2 = 1 ∨ 2 ^ 63 + frameH ≤ top t + 3)) ∨
    (top t < bottom t frameH ∧ 2 ^ 63 ≤ left t + 3) ∨
    HatchLeaves (left t) (top t) (right t frameW) (bottom t frameH)

/-- A rectangle that keeps four pixels in both directions has no overhang. -/
lemma not_overhangs (hx : left t + 4 ≤ right t frameW) (hy : top t + 4 ≤ bottom t frameH) :
    ¬ Overhangs t x y frameW frameH := by
  unfold Overhangs
  omega

end Marks

open Marks

variable {s : SnapshotManager} {t : ZoneTuple} {x y : ℤ} {v : UInt8}

/-- Whatever the picture, the overlay runs and the pixels that it changes lie on the grid or in a
configured rectangle. -/
def MarksOnly (s : SnapshotManager) (tuples : List ZoneTuple) : Prop :=
  ∀ raw : Bytes, s.frameW * s.frameH ≤ raw.length → ∃ raw', s.drawVisualOverlay raw = some raw' ∧
    ∀ x y, InFrame s x y →
      Go.index raw' (y * s.frameW + x) ≠ Go.index raw (y * s.frameW + x) →
      OnGridLine x y ∨ ∃ t ∈ tuples, Covers t x y

/-- No tuple panics, and every pixel that strays is on the grid or in some configured
rectangle. -/
structure StraysCovered (frameW frameH : ℤ) (tuples : List ZoneTuple) : Prop where
  runs : ∀ t ∈ tuples, ¬ Panics t frameW frameH
  covered : ∀ t ∈ tuples, ∀ x y, Strays t x y frameW frameH →
    OnGridLine x y ∨ ∃ t' ∈ tuples, Covers t' x y

/-! ### The drawing of one tuple -/

/-- The clamped rectangle is part of the configured one. -/
lemma covers_of_clamped {frameW frameH : ℤ} (hx : left t ≤ x ∧ x < right t frameW)
    (hy : top t ≤ y ∧ y < bottom t frameH) : Covers t x y := by
  unfold left right at hx
  unfold top bottom at hy
  exact ⟨by omega, by omega⟩

/-- A border pixel lies in the clamped rectangle or overhangs. -/
lemma border_cases (hin : InFrame s x y)
    (h : OnBorder s (left t) (top t) (right t s.frameW) (bottom t s.frameH) x y) :
    ((left t ≤ x ∧ x < right t s.frameW) ∧ top t ≤ y ∧ y < bottom t s.frameH) ∨
      Overhangs t x y s.frameW s.frameH := by
  rcases h with ⟨hx, hy⟩ | ⟨hy, hx⟩
  · by_cases hinside : top t ≤ y ∧ y < bottom t s.frameH
    · exact .inl ⟨hx, hinside⟩
    · exact .inr ⟨hin, .inl ⟨hx, by omega⟩⟩
  · by_cases hinside : left t ≤ x ∧ x < right t s.frameW
    · exact .inl ⟨hinside, hy⟩
    · exact .inr ⟨hin, .inr ⟨hy, by omega⟩⟩

/-- In a frame of even width the index of row `-2^63 + y` is that of row `y`. -/
lemma index_fold_even (hfit : FrameFits s.frameW s.frameH) (heven : s.frameW % 2 = 0)
    (hx : 0 ≤ x ∧ x < s.frameW) (hy : 0 ≤ y ∧ y ≤ 3) :
    PixelWrite.index s ⟨x, -2 ^ 63 + y, v⟩ = y * s.frameW + x := by
  obtain ⟨k, hk⟩ : ∃ k, s.frameW = 2 * k := ⟨s.frameW / 2, by omega⟩
  have hw := hfit.width_le
  have hlast : y * s.frameW ≤ 3 * s.frameW := mul_le_mul_of_nonneg_right hy.2 hfit.width.le
  have hfirst : 0 ≤ y * s.frameW := mul_nonneg hy.1 hfit.width.le
  have hsplit : (-2 ^ 63 + y) * s.frameW + x = (y * s.frameW + x) + 2 ^ 64 * (-k) := by
    rw [hk]
    ring
  unfold PixelWrite.index
  dsimp only
  rw [hsplit, Go.wrap64_add_mul, Go.wrap64_eq_self (by omega) (by omega)]

/-- In a frame of odd width row `-2^63` is stored before the buffer. -/
lemma index_fold_odd (hfit : FrameFits s.frameW s.frameH) (hodd : s.frameW % 2 = 1)
    (hx : 0 ≤ x ∧ x < s.frameW) : PixelWrite.index s ⟨x, -2 ^ 63 + 0, v⟩ < 0 := by
  obtain ⟨k, hk⟩ : ∃ k, s.frameW = 2 * k + 1 := ⟨s.frameW / 2, by omega⟩
  have hw := hfit.width_le
  have hsplit : (-2 ^ 63 + 0) * s.frameW + x = (-2 ^ 63 + x) + 2 ^ 64 * (-k) := by
    rw [hk]
    ring
  unfold PixelWrite.index
  dsimp only
  rw [hsplit, Go.wrap64_add_mul, Go.wrap64_eq_self (by omega) (by omega)]
  omega

section Tuple

variable (hfit : FrameFits s.frameW s.frameH) (ht : IntTuple t)

include hfit ht

/-- The rows that wrap are drawn, at the indices of the rows of the frame if the width is even. -/
lemma folds_mem (h : Folds t x y s.frameW) :
    ⟨x, -2 ^ 63 + y, 255⟩ ∈ zonePixels s (tupleZone s t) := by
  obtain ⟨hcols, hy, hrow⟩ := h
  rw [zonePixels_tuple]
  apply List.mem_append_left
  exact (mem_border_iff hfit (sides_x hfit ht) (sides_y hfit ht)).mpr
    ⟨rfl, .inr (.inl ⟨hcols, by omega, by omega⟩)⟩

/-- An overhanging pixel is drawn. -/
lemma overhang_mem (h : Overhangs t x y s.frameW s.frameH) :
    ⟨x, y, 255⟩ ∈ zonePixels s (tupleZone s t) := by
  rw [zonePixels_tuple]
  apply List.mem_append_left
  apply (mem_border_iff hfit (sides_x hfit ht) (sides_y hfit ht)).mpr
  obtain ⟨hin, hstrips⟩ := h
  refine ⟨rfl, .inl ?_⟩
  rcases hstrips with ⟨hx, hy⟩ | ⟨hy, hx⟩
  · exact .inl ⟨hx, by omega⟩
  · exact .inr ⟨hy, by omega⟩

/-- A tuple that panics stores before the buffer or behind the luminance plane. -/
lemma panics_outside (h : Panics t s.frameW s.frameH) : ∃ p ∈ zonePixels s (tupleZone s t),
    p.index s < 0 ∨ s.frameW * s.frameH ≤ p.index s := by
  have hx := sides_x hfit ht
  have hy := sides_y hfit ht
  have hlow := hx.low
  have htop := hy.low
  have hhigh := hx.high
  have hw := hfit.width
  have hh := hfit.height
  rcases h with ⟨hcols, hrow, hfew⟩ | ⟨hrows, hcol⟩ | hhatch
  · by_cases hodd : s.frameW % 2 = 1
    · refine ⟨_, folds_mem hfit ht (x := left t) (y := 0) ⟨⟨le_rfl, hcols⟩, le_rfl, by omega⟩,
        .inl ?_⟩
      exact index_fold_odd hfit hodd ⟨hlow.1, by omega⟩
    · have hlast := hfew.resolve_left hodd
      refine ⟨_, folds_mem hfit ht (x := left t) (y := s.frameH)
        ⟨⟨le_rfl, hcols⟩, hh.le, by omega⟩, .inr ?_⟩
      rw [index_fold_even hfit (by omega) ⟨hlow.1, by omega⟩ ⟨hh.le, by omega⟩, mul_comm]
      omega
  · obtain ⟨p, hp, hindex⟩ := wrapped_column_outside hfit ht hrows hcol
    exact ⟨p, hp, .inl hindex⟩
  · obtain ⟨p, hp, hindex⟩ := hatch_outside hfit hx hy hhatch
    rw [zonePixels_tuple]
    exact ⟨p, List.mem_append_right _ hp, hindex⟩

/-- A pixel drawn for a tuple that does not panic is stored at a pixel of the frame that lies in
the rectangle or strays. -/
lemma drawn_place (hruns : ¬ Panics t s.frameW s.frameH) {p : PixelWrite}
    (hp : p ∈ zonePixels s (tupleZone s t)) : ∃ x y, InFrame s x y ∧
      p.index s = y * s.frameW + x ∧ (Covers t x y ∨ Strays t x y s.frameW s.frameH) := by
  have hx := sides_x hfit ht
  have hy := sides_y hfit ht
  have hlow := hx.low
  have htop := hy.low
  have hhigh := hx.high
  have hhigh' := hy.high
  obtain ⟨x, y, v⟩ := p
  rw [zonePixels_tuple, List.mem_append, mem_border_iff hfit hx hy] at hp
  rcases hp with ⟨-, hborder | ⟨hcols, hrow⟩ | ⟨hrows, hcol⟩⟩ | hhatch
  · have hin : InFrame s x y := by
      unfold OnBorder at hborder
      unfold InFrame
      omega
    refine ⟨x, y, hin, index_of_inFrame hfit hin, ?_⟩
    rcases border_cases hin hborder with hinside | hover
    · exact .inl (covers_of_clamped hinside.1 hinside.2)
    · exact .inr (.inl hover)
  · -- the row has wrapped, so the width is even and the frame has the row it comes back to
    have hfew : ¬ (s.frameW % 2 = 1 ∨ 2 ^ 63 + s.frameH ≤ top t + 3) :=
      fun h => hruns (.inl ⟨by omega, by omega, h⟩)
    have hback := index_fold_even (x := x) (y := y + 2 ^ 63) (v := v) hfit (by omega)
      ⟨by omega, by omega⟩ ⟨by omega, by omega⟩
    rw [neg_add_cancel_comm_assoc] at hback
    refine ⟨x, y + 2 ^ 63, ⟨⟨by omega, by omega⟩, by omega, by omega⟩, hback, .inr (.inr ?_)⟩
    exact ⟨hcols, by omega, by omega⟩
  · exact absurd (.inr (.inl ⟨by omega, by omega⟩)) hruns
  · have hinside := hatch_inside hfit hx hy (fun h => hruns (.inr (.inr h))) hhatch
    have hin : InFrame s x y := by
      unfold InFrame
      omega
    have hx' : left t ≤ x ∧ x < right t s.frameW := by omega
    have hy' : top t ≤ y ∧ y < bottom t s.frameH := by omega
    exact ⟨x, y, hin, index_of_inFrame hfit hin, .inl (covers_of_clamped hx' hy')⟩

end Tuple

lemma value_ne_zero {p : PixelWrite} (hp : p ∈ overlayPixels s) : p.value ≠ 0 := by
  rcases mem_overlayPixels_iff.mp hp with ⟨hv, -⟩ | ⟨zone, -, hzone⟩
  · rw [hv]
    decide
  · rcases zonePixels_value hzone with hv | hv
    · rw [hv]
      decide
    · rw [hv]
      decide

/-! ### The drawing of a string of tuples -/

section Numeric

variable {text : Go.Str}

lemma mem_zones_iff (hzones : s.zones = parseExcludeZones text s.frameW s.frameH)
    (hnumeric : ∀ item ∈ zoneItems text, zoneToken item ∉ presetNames) (zone : Zone) :
    zone ∈ s.zones ↔ ∃ t ∈ zoneTuples text, tupleZone s t = zone := by
  rw [hzones, mem_parseExcludeZones]
  unfold zoneTuples
  constructor
  · rintro ⟨item, hitem, hparse⟩
    rcases parseItem_eq_some_iff.mp hparse with hpreset | ⟨t, ht, rfl⟩
    · exact absurd (presetZone_isSome_iff.mp ⟨zone, hpreset⟩) (hnumeric item hitem)
    · exact ⟨t, List.mem_filterMap.mpr ⟨item, hitem, ht⟩, rfl⟩
  · rintro ⟨t, ht, rfl⟩
    obtain ⟨item, hitem, hparse⟩ := List.mem_filterMap.mp ht
    exact ⟨item, hitem, parseItem_eq_some_iff.mpr (.inr ⟨t, hparse, rfl⟩)⟩

lemma zoneTuples_ints : ∀ t ∈ zoneTuples text, IntTuple t := by
  intro t ht
  obtain ⟨item, -, hparse⟩ := List.mem_filterMap.mp ht
  exact numericTuple_ints hparse

variable {tuples : List ZoneTuple}

/-- A pixel of the frame that changes was written. -/
lemma written_of_changed {raw raw' : Bytes} {i : ℤ} (hraw : s.drawVisualOverlay raw = some raw')
    (hne : Go.index raw' i ≠ Go.index raw i) : ∃ p ∈ overlayPixels s, p.index s = i := by
  by_contra hnone
  apply hne
  rw [overlay_eq] at hraw
  apply Go.storeAll_untouched hraw
  intro w hw heq
  obtain ⟨p, hp, rfl⟩ := List.mem_map.mp hw
  exact hnone ⟨p, hp, heq⟩

/-- On a black picture every written pixel changes. -/
lemma changed_of_written {n : ℕ} {raw' : Bytes} {p : PixelWrite} (hp : p ∈ overlayPixels s)
    (hraw : s.drawVisualOverlay (List.replicate n 0) = some raw') :
    Go.index raw' (p.index s) ≠ Go.index (List.replicate n 0) (p.index s) := by
  obtain ⟨h0, hlt⟩ := overlay_isSome_iff.mp ⟨raw', hraw⟩ p hp
  rw [List.length_replicate] at hlt
  rw [overlay_eq] at hraw
  obtain ⟨w, hw, -, hvalue⟩ :=
    Go.storeAll_touched hraw ⟨_, List.mem_map.mpr ⟨_, hp, rfl⟩, rfl⟩
  obtain ⟨q, hq, rfl⟩ := List.mem_map.mp hw
  dsimp only at hvalue
  rw [hvalue, Go.index_replicate h0 hlt]
  intro heq
  exact value_ne_zero hq (Option.some.inj heq)

section Equivalence

variable (hfit : FrameFits s.frameW s.frameH) (hints : ∀ t ∈ tuples, IntTuple t)
  (hzones : ∀ zone, zone ∈ s.zones ↔ ∃ t ∈ tuples, tupleZone s t = zone)

include hfit hints hzones

/-- What the overlay of a black picture marks is covered. -/
lemma covered_of_marksOnly (hmarks : MarksOnly s tuples) :
    StraysCovered s.frameW s.frameH tuples := by
  have hsize : ((s.frameW * s.frameH).toNat : ℤ) = s.frameW * s.frameH :=
    Int.toNat_of_nonneg (mul_pos hfit.width hfit.height).le
  obtain ⟨raw', hraw, hchanged⟩ := hmarks (List.replicate (s.frameW * s.frameH).toNat 0)
    (by rw [List.length_replicate, hsize])
  have hdrawn : ∀ t ∈ tuples, ∀ p ∈ zonePixels s (tupleZone s t), p ∈ overlayPixels s :=
    fun t ht p hp => mem_overlayPixels_iff.mpr (.inr ⟨_, (hzones _).mpr ⟨t, ht, rfl⟩, hp⟩)
  have hruns : ∀ t ∈ tuples, ¬ Panics t s.frameW s.frameH := by
    intro t ht hpanics
    obtain ⟨p, hp, hindex⟩ := panics_outside hfit (hints t ht) hpanics
    have hrange := overlay_isSome_iff.mp ⟨raw', hraw⟩ p (hdrawn t ht p hp)
    rw [List.length_replicate, hsize] at hrange
    omega
  refine ⟨hruns, ?_⟩
  rintro t ht x y (hover | hfold)
  · have hne := changed_of_written (hdrawn t ht _ (overhang_mem hfit (hints t ht) hover)) hraw
    have hindex := @index_of_inFrame s ⟨x, y, 255⟩ hfit hover.1
    rw [hindex] at hne
    exact hchanged x y hover.1 hne
  · have hlow := (sides_x hfit (hints t ht)).low
    have hhigh := (sides_x hfit (hints t ht)).high
    have htop := (sides_y hfit (hints t ht)).low
    obtain ⟨hcols, hy, hrow⟩ := hfold
    have hfew : ¬ (s.frameW % 2 = 1 ∨ 2 ^ 63 + s.frameH ≤ top t + 3) :=
      fun h => hruns t ht (.inl ⟨by omega, by omega, h⟩)
    have hne := changed_of_written
      (hdrawn t ht _ (folds_mem hfit (hints t ht) ⟨hcols, hy, hrow⟩)) hraw
    rw [index_fold_even hfit (by omega) (by omega) (by omega)] at hne
    exact hchanged x y ⟨by omega, by omega⟩ hne

/-- Every pixel of the overlay is stored at a pixel of the frame that may be marked. -/
lemma overlay_place (hcovered : StraysCovered s.frameW s.frameH tuples) :
    ∀ p ∈ overlayPixels s, ∃ x y, InFrame s x y ∧ p.index s = y * s.frameW + x ∧
      (OnGridLine x y ∨ ∃ t ∈ tuples, Covers t x y) := by
  rintro ⟨x, y, v⟩ hp
  rcases mem_overlayPixels_iff.mp hp with ⟨-, hin, hline⟩ | ⟨zone, hzone, hdrawn⟩
  · exact ⟨x, y, hin, index_of_inFrame hfit hin, .inl hline⟩
  · obtain ⟨t, ht, rfl⟩ := (hzones zone).mp hzone
    obtain ⟨x', y', hin, hindex, hcover | hstray⟩ :=
      drawn_place hfit (hints t ht) (hcovered.runs t ht) hdrawn
    · exact ⟨x', y', hin, hindex, .inr ⟨t, ht, hcover⟩⟩
    · exact ⟨x', y', hin, hindex, hcovered.covered t ht x' y' hstray⟩

/-- The overlay of a list of tuples marks only their rectangles if and only if it runs and no
pixel that strays is left over. -/
lemma marksOnly_iff : MarksOnly s tuples ↔ StraysCovered s.frameW s.frameH tuples := by
  constructor
  · exact covered_of_marksOnly hfit hints hzones
  · intro hcovered raw hlen
    have hplace := overlay_place hfit hints hzones hcovered
    have hrange : ∀ p ∈ overlayPixels s, 0 ≤ p.index s ∧ p.index s < raw.length := by
      intro p hp
      obtain ⟨x, y, hin, hindex, -⟩ := hplace p hp
      have hbounds := rowMajor_bounds hin.1.1 hin.1.2 hin.2.1 hin.2.2
      rw [hindex]
      exact ⟨hbounds.1, hbounds.2.trans_le hlen⟩
    obtain ⟨raw', hraw⟩ := overlay_isSome_iff.mpr hrange
    refine ⟨raw', hraw, ?_⟩
    intro x y hxy hne
    obtain ⟨p, hp, heq⟩ := written_of_changed hraw hne
    obtain ⟨x', y', hin, hindex, hmay⟩ := hplace p hp
    obtain ⟨rfl, rfl⟩ :=
      rowMajor_inj hin.1.1 hin.1.2 hxy.1.1 hxy.1.2 (hindex.symm.trans heq)
    exact hmay

end Equivalence

end Numeric

/-- For every frame size and every string of numeric tuples, the overlay marks only the
configured rectangles if and only if it runs and every pixel that strays is covered. -/
theorem overlay_marks_only_iff (s : SnapshotManager) (text : Go.Str)
    (hfit : FrameFits s.frameW s.frameH)
    (hzones : s.zones = parseExcludeZones text s.frameW s.frameH)
    (hnumeric : ∀ item ∈ zoneItems text, zoneToken item ∉ presetNames) :
    MarksOnly s (zoneTuples text) ↔ StraysCovered s.frameW s.frameH (zoneTuples text) :=
  marksOnly_iff hfit zoneTuples_ints (mem_zones_iff hzones hnumeric)

theorem overlay_marks_only_iff_one :
    MarksOnly (overlayManager 1920 1080 (Go.lit "400,500,100,200")) [⟨400, 500, 100, 200⟩] := by
  have htuples : zoneTuples (Go.lit "400,500,100,200") = [⟨400, 500, 100, 200⟩] := by decide
  have hiff := overlay_marks_only_iff (overlayManager 1920 1080 (Go.lit "400,500,100,200"))
    (Go.lit "400,500,100,200") (overlayManager_fits (by decide) (by decide) (by decide)) rfl
    (by decide)
  rw [htuples] at hiff
  apply hiff.mpr
  constructor
  · intro t ht
    rw [List.mem_singleton.mp ht]
    unfold Panics HatchLeaves Far
    decide
  · rintro t ht x y (hover | ⟨-, hy, hrow⟩)
    · rw [List.mem_singleton.mp ht] at hover
      exact absurd hover (not_overhangs _ x y _ _ (by decide) (by decide))
    · have htop : top ⟨400, 500, 100, 200⟩ = 200 := by decide
      rw [List.mem_singleton.mp ht, htop] at hrow
      omega

section OneTuple

variable {text : Go.Str} (hfit : FrameFits s.frameW s.frameH) (htuples : zoneTuples text = [t])
  (hzones : s.zones = parseExcludeZones text s.frameW s.frameH)
  (hnumeric : ∀ item ∈ zoneItems text, zoneToken item ∉ presetNames)

include hfit htuples hzones hnumeric

lemma marksOnly_one_iff : MarksOnly s (zoneTuples text) ↔
    StraysCovered s.frameW s.frameH [t] := by
  rw [← htuples]
  exact marksOnly_iff hfit zoneTuples_ints (mem_zones_iff hzones hnumeric)

/-- The overlay of one tuple marks an overhanging pixel that is on no grid line. -/
lemma not_marksOnly_of_overhang (hover : Overhangs t x y s.frameW s.frameH)
    (hline : ¬ OnGridLine x y) (hcover : ¬ Covers t x y) : ¬ MarksOnly s (zoneTuples text) := by
  rw [marksOnly_one_iff hfit htuples hzones hnumeric]
  intro hcovered
  rcases hcovered.covered t (by simp) x y (.inl hover) with h | ⟨t', ht', h⟩
  · exact hline h
  · rw [List.mem_singleton.mp ht'] at h
    exact hcover h

end OneTuple

/-- A rectangle above the frame is drawn into its first rows, and a rectangle one pixel high
three pixels beyond itself. At the end of the range of `int` the only overhang may be on a grid
line, but then a column wraps and the overlay panics. -/
theorem overlay_marks_beyond :
    ¬ MarksOnly (overlayManager 352 288 (Go.lit "10,-50,20,-40"))
        (zoneTuples (Go.lit "10,-50,20,-40")) ∧
      ¬ MarksOnly (overlayManager 352 288 (Go.lit "10,10,20,11"))
        (zoneTuples (Go.lit "10,10,20,11")) ∧
      ¬ MarksOnly
        (overlayManager 352 288 (Go.lit "9223372036854775807,200,9223372036854775807,201"))
        (zoneTuples (Go.lit "9223372036854775807,200,9223372036854775807,201")) := by
  have hfit : ∀ text, FrameFits (overlayManager 352 288 text).frameW
      (overlayManager 352 288 text).frameH :=
    fun text => overlayManager_fits (by decide) (by decide) (by decide)
  refine ⟨?_, ?_, ?_⟩
  · apply @not_marksOnly_of_overhang _ ⟨10, -50, 20, -40⟩ 10 0 _ (hfit _) (by decide) rfl (by decide)
    · unfold Overhangs
      decide
    · unfold OnGridLine
      omega
    · unfold Covers
      decide
  · apply @not_marksOnly_of_overhang _ ⟨10, 10, 20, 11⟩ 10 13 _ (hfit _) (by decide) rfl (by decide)
    · unfold Overhangs
      decide
    · unfold OnGridLine
      omega
    · unfold Covers
      decide
  · rw [@marksOnly_one_iff _ ⟨2 ^ 63 - 1, 200, 2 ^ 63 - 1, 201⟩ _ (hfit _) (by decide) rfl (by decide)]
    intro hcovered
    apply hcovered.runs _ (List.mem_singleton.mpr rfl)
    unfold Panics
    exact .inr (.inl (by decide))

end IntruderWatch.Proofs
